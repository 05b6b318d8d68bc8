/-!
# A queue of delayed messages

What a looper offers a handler.  Messages wait in the order of the times at which
they are due, those due at one time in the order in which they were sent; the
first one is handed over once it is due.  A handler can ask for messages of a kind
and remove them.
-/

universe u

namespace DelayedMessages

/-- A message of the kind `what`, not to be handed over before `due`. -/
structure Message (κ : Type u) where
  what : κ
  due : Int
  deriving DecidableEq, Repr

variable {κ : Type u}

/-- A message waits behind all that are due no later. -/
def enqueue (message : Message κ) : List (Message κ) → List (Message κ)
  | [] => [message]
  | first :: queue =>
    if message.due < first.due then message :: first :: queue
    else first :: enqueue message queue

/-- The first message, if it is due, and the queue without it. -/
def next (now : Int) : List (Message κ) → Option (Message κ × List (Message κ))
  | [] => none
  | first :: queue => if first.due ≤ now then some (first, queue) else none

/-- A message due no earlier than the others is put at the end. -/
theorem enqueue_eq_append {message : Message κ} {queue : List (Message κ)}
    (h : ∀ waiting ∈ queue, waiting.due ≤ message.due) :
    enqueue message queue = queue ++ [message] := by
  induction queue with
  | nil => rfl
  | cons first queue ih =>
    obtain ⟨hfirst, hrest⟩ := List.forall_mem_cons.mp h
    rw [enqueue, if_neg (Int.not_lt.mpr hfirst), ih hrest, List.cons_append]

theorem mem_enqueue {message waiting : Message κ} {queue : List (Message κ)} :
    waiting ∈ enqueue message queue ↔ waiting = message ∨ waiting ∈ queue := by
  induction queue with
  | nil => simp [enqueue]
  | cons first queue ih =>
    unfold enqueue
    split
    · rw [List.mem_cons]
    · rw [List.mem_cons, ih, List.mem_cons]
      exact or_left_comm

section Kinds
variable [DecidableEq κ]

def hasMessages (what : κ) (queue : List (Message κ)) : Bool :=
  queue.any fun message => message.what = what

def removeMessages (what : κ) (queue : List (Message κ)) : List (Message κ) :=
  queue.filter fun message => message.what ≠ what

theorem hasMessages_eq_false {what : κ} {queue : List (Message κ)} :
    hasMessages what queue = false ↔ ∀ message ∈ queue, message.what ≠ what := by
  simp [hasMessages]

@[simp] theorem hasMessages_removeMessages (what : κ) (queue : List (Message κ)) :
    hasMessages what (removeMessages what queue) = false := by
  rw [hasMessages_eq_false, removeMessages]
  intro message hmessage
  simpa using (List.mem_filter.mp hmessage).2

/-- A message of another kind leaves the question open. -/
theorem hasMessages_enqueue_of_ne {what : κ} {message : Message κ} (hne : message.what ≠ what)
    (queue : List (Message κ)) :
    hasMessages what (enqueue message queue) = hasMessages what queue := by
  rw [Bool.eq_iff_iff, hasMessages, hasMessages, List.any_eq_true, List.any_eq_true]
  constructor
  · rintro ⟨waiting, hmem, hwhat⟩
    rcases mem_enqueue.mp hmem with rfl | hmem
    · exact absurd (of_decide_eq_true hwhat) hne
    · exact ⟨waiting, hmem, hwhat⟩
  · rintro ⟨waiting, hmem, hwhat⟩
    exact ⟨waiting, mem_enqueue.mpr (Or.inr hmem), hwhat⟩

end Kinds

/-- What is handed over was the first message. -/
theorem next_eq_some {now : Int} {message : Message κ} {queue rest : List (Message κ)}
    (h : next now queue = some (message, rest)) : queue = message :: rest := by
  unfold next at h
  split at h
  · cases h
  · obtain ⟨-, heq⟩ := Option.ite_none_right_eq_some.mp h |>.imp_right Option.some.inj
    cases heq
    rfl

/-- Nothing is handed over before it is due. -/
theorem due_of_next {now : Int} {message : Message κ} {queue rest : List (Message κ)}
    (h : next now queue = some (message, rest)) : message.due ≤ now := by
  unfold next at h
  split at h
  · cases h
  · obtain ⟨hdue, heq⟩ := Option.ite_none_right_eq_some.mp h |>.imp_right Option.some.inj
    cases heq
    exact hdue

end DelayedMessages
