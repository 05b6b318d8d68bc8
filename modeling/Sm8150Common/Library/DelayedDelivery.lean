/-!
# Changes applied now and reported later

A source applies a change to its state at once and reports it to an observer
some time later; the reports on the way may arrive in any order.  Source and
observer agree in the end if each report that overtakes others commutes with
them.

The invariant is `Owes`: the reports on the way, applied in the order of the
changes, would bring the observer up to date.
-/

universe u v

namespace DelayedDelivery
variable {σ : Type u} {ι : Type v} (act : σ → ι → σ)

/-- The order of two changes does not matter. -/
def Commutes (a b : ι) : Prop := ∀ s, act (act s a) b = act (act s b) a

/-- The state after the changes, in order. -/
def replay (s : σ) (changes : List ι) : σ := changes.foldl act s

@[simp] theorem replay_nil (s : σ) : replay act s [] = s := rfl

@[simp] theorem replay_cons (s : σ) (a : ι) (changes : List ι) :
    replay act s (a :: changes) = replay act (act s a) changes := rfl

theorem replay_append (s : σ) (l k : List ι) :
    replay act s (l ++ k) = replay act (replay act s l) k :=
  List.foldl_append

variable {act} {observer source : σ} {inFlight : List ι}

/-- A change that commutes with those before it may come first. -/
theorem replay_front {k : Nat} {a : ι} (s : σ) (hk : inFlight[k]? = some a)
    (hcomm : ∀ b ∈ inFlight.take k, Commutes act b a) :
    replay act (act s a) (inFlight.eraseIdx k) = replay act s inFlight := by
  induction inFlight generalizing s k with
  | nil => simp at hk
  | cons b inFlight ih =>
    cases k with
    | zero =>
      cases hk
      rfl
    | succ k =>
      rw [List.take_succ_cons] at hcomm
      have hba : Commutes act b a := hcomm b List.mem_cons_self
      rw [List.eraseIdx_cons_succ, replay_cons, replay_cons, ← hba s]
      exact ih (act s b) hk fun c hc => hcomm c (List.mem_cons_of_mem _ hc)

variable (act observer source inFlight) in
/-- What is on the way brings the observer up to date. -/
def Owes : Prop := replay act observer inFlight = source

theorem owes_self (s : σ) : Owes act s s [] := rfl

/-- With nothing on the way, the observer is up to date. -/
theorem Owes.eq (h : Owes act observer source []) : observer = source := h

/-- A change is applied, and its report sets out. -/
theorem Owes.issue (h : Owes act observer source inFlight) (a : ι) :
    Owes act observer (act source a) (inFlight ++ [a]) := by
  rw [Owes, replay_append, h]
  rfl

/-- A report arrives that commutes with those it overtakes. -/
theorem Owes.deliver (h : Owes act observer source inFlight) {k : Nat} {a : ι}
    (hk : inFlight[k]? = some a) (hcomm : ∀ b ∈ inFlight.take k, Commutes act b a) :
    Owes act (act observer a) source (inFlight.eraseIdx k) :=
  (replay_front observer hk hcomm).trans h

/-- A report that would change nothing is lost. -/
theorem Owes.lose (h : Owes act observer source inFlight) {k : Nat} {a : ι}
    (hk : inFlight[k]? = some a) (hcomm : ∀ b ∈ inFlight.take k, Commutes act b a)
    (hact : act observer a = observer) : Owes act observer source (inFlight.eraseIdx k) := by
  have hdeliver := h.deliver hk hcomm
  rw [hact] at hdeliver
  exact hdeliver

/-- If nothing on the way changes anything, source and observer may start again
from one state. -/
theorem owes_restart {s : σ} (h : ∀ a ∈ inFlight, act s a = s) : Owes act s s inFlight := by
  induction inFlight with
  | nil => exact owes_self s
  | cons a inFlight ih =>
    rw [Owes, replay_cons, h a List.mem_cons_self]
    exact ih fun b hb => h b (List.mem_cons_of_mem _ hb)

end DelayedDelivery
