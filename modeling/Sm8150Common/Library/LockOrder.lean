import Mathlib.Algebra.BigOperators.Group.Finset.Basic
import Mathlib.Algebra.Order.BigOperators.Group.Finset
import Mathlib.Order.WellFounded
import Sm8150Common.Library.Progress

/-!
# Mutexes that are locked in an order

Threads lock and unlock mutexes; each call that a thread makes is the list of what it does to
them.  A call is `Ordered` if it locks only mutexes above all that it holds, apart from recursive
ones that it holds already, and gives all of them back.

As long as all calls are ordered, some thread that is in a call can go on (`exists_advance`): the
highest mutex that is held is held by a thread that waits for nobody.  So the calls that are made
return, in whatever order their threads take turns (`calls_return`).  A call that locks a mutex
again that is not recursive and that it still holds (`Relocks`) never returns (`never_returns`).
-/

universe u v

/-- What a thread does to mutexes. -/
inductive LockOp (μ : Type u)
  | lock (m : μ)
  | unlock (m : μ)
  deriving DecidableEq, Repr

namespace LockOp
variable {μ : Type u}

/-- The body of a block with a lock guard. -/
def guarded (m : μ) (body : List (LockOp μ)) : List (LockOp μ) :=
  .lock m :: (body ++ [.unlock m])

section Order
variable [DecidableEq μ] [Preorder μ] (recursive : μ → Bool)

/-- What may be done by a thread that holds some mutexes, each as often as it has locked it. -/
def Ordered : List μ → List (LockOp μ) → Prop
  | held, [] => held = []
  | held, .lock m :: todo =>
    (m ∈ held ∧ recursive m = true ∨ ∀ k ∈ held, k < m) ∧ Ordered (m :: held) todo
  | held, .unlock m :: todo => m ∈ held ∧ Ordered (held.erase m) todo

/-- A part of a call that ends with the mutexes it has begun with. -/
def Keeps (held : List μ) (part : List (LockOp μ)) : Prop :=
  ∀ todo, Ordered recursive held todo → Ordered recursive held (part ++ todo)

namespace Keeps
variable {recursive} {held : List μ} {m : μ} {part rest : List (LockOp μ)}

theorem nil : Keeps recursive held [] := fun _ h => h

theorem append (hpart : Keeps recursive held part) (hrest : Keeps recursive held rest) :
    Keeps recursive held (part ++ rest) := by
  intro todo h
  rw [List.append_assoc]
  exact hpart _ (hrest _ h)

theorem ite {c : Bool} (hpart : Keeps recursive held part) :
    Keeps recursive held (if c then part else []) := by
  cases c with
  | false => exact nil
  | true => exact hpart

theorem flatMap {α : Type v} {f : α → List (LockOp μ)} {l : List α}
    (h : ∀ a ∈ l, Keeps recursive held (f a)) : Keeps recursive held (l.flatMap f) := by
  induction l with
  | nil => exact nil
  | cons a l ih =>
    rw [List.flatMap_cons]
    exact (h a List.mem_cons_self).append (ih fun b hb => h b (List.mem_cons_of_mem a hb))

theorem guarded (hm : m ∈ held ∧ recursive m = true ∨ ∀ k ∈ held, k < m)
    (hbody : Keeps recursive (m :: held) part) : Keeps recursive held (LockOp.guarded m part) := by
  intro todo h
  refine ⟨hm, ?_⟩
  change Ordered recursive (m :: held) ((part ++ [.unlock m]) ++ todo)
  rw [List.append_assoc]
  refine hbody _ ⟨List.mem_cons_self, ?_⟩
  rw [List.erase_cons_head]
  exact h

/-- A mutex is given back for a while. -/
theorem released (hm : ∀ k ∈ held, k < m) (hpart : Keeps recursive held part) :
    Keeps recursive (m :: held) (.unlock m :: (part ++ [.lock m])) := by
  intro todo h
  refine ⟨List.mem_cons_self, ?_⟩
  change Ordered recursive ((m :: held).erase m) ((part ++ [.lock m]) ++ todo)
  rw [List.erase_cons_head, List.append_assoc]
  exact hpart _ ⟨Or.inr hm, h⟩

theorem ordered (h : Keeps recursive [] part) : Ordered recursive [] part := by
  have hall := h [] rfl
  rwa [List.append_nil] at hall

end Keeps
end Order

/-- The mutex is locked again while it is held. -/
def Relocks [DecidableEq μ] (m : μ) : Bool → List (LockOp μ) → Prop
  | _, [] => False
  | holds, .lock k :: todo => (holds = true ∧ k = m) ∨ Relocks m (holds || k = m) todo
  | holds, .unlock k :: todo => Relocks m (holds && k ≠ m) todo

/-- Whether the mutex is held after a part of a call. -/
def holdsAfter [DecidableEq μ] (m : μ) : Bool → List (LockOp μ) → Bool
  | holds, [] => holds
  | holds, .lock k :: part => holdsAfter m (holds || k = m) part
  | holds, .unlock k :: part => holdsAfter m (holds && k ≠ m) part

theorem holdsAfter_append [DecidableEq μ] {m : μ} {holds : Bool} {part rest : List (LockOp μ)} :
    holdsAfter m holds (part ++ rest) = holdsAfter m (holdsAfter m holds part) rest := by
  induction part generalizing holds with
  | nil => rfl
  | cons op part ih => cases op <;> exact ih

theorem relocks_append [DecidableEq μ] {m : μ} {holds : Bool} {part rest : List (LockOp μ)} :
    Relocks m holds (part ++ rest) ↔
      Relocks m holds part ∨ Relocks m (holdsAfter m holds part) rest := by
  induction part generalizing holds with
  | nil => exact (or_iff_right id).symm
  | cons op part ih =>
    cases op with
    | lock k => exact (or_congr_right ih).trans or_assoc.symm
    | unlock k => exact ih

end LockOp

/-- A thread: what it holds, and what it has yet to do before its call returns. -/
structure LockThread (μ : Type u) where
  held : List μ
  todo : List (LockOp μ)
  deriving DecidableEq, Repr

/-- A thread that has nothing to do is given a call, or goes on with its own. -/
inductive LockStep (ι : Type v) (μ : Type u)
  | call (i : ι) (todo : List (LockOp μ))
  | advance (i : ι)

namespace LockSystem
variable {ι : Type v} {μ : Type u} [Fintype ι] [DecidableEq ι] [DecidableEq μ]
  (recursive : μ → Bool)

/-- A thread waits for a mutex that another one holds, and forever for one that it holds itself
and that is not recursive. -/
def advance (s : ι → LockThread μ) (i : ι) : Option (ι → LockThread μ) :=
  match (s i).todo with
  | [] => none
  | .lock m :: todo =>
    if (∀ j, j ≠ i → m ∉ (s j).held) ∧ (m ∈ (s i).held → recursive m = true) then
      some (Function.update s i ⟨m :: (s i).held, todo⟩)
    else none
  | .unlock m :: todo => some (Function.update s i ⟨(s i).held.erase m, todo⟩)

def step (s : ι → LockThread μ) : LockStep ι μ → Option (ι → LockThread μ)
  | .call i todo =>
    if (s i).todo = [] then some (Function.update s i { s i with todo := todo }) else none
  | .advance i => advance recursive s i

/-- What a thread does when it goes on. -/
theorem advance_cases {recursive : μ → Bool} {s t : ι → LockThread μ} {i : ι}
    (h : advance recursive s i = some t) :
    (∃ m todo, (s i).todo = .lock m :: todo ∧ (∀ j, j ≠ i → m ∉ (s j).held) ∧
      (m ∈ (s i).held → recursive m = true) ∧
      t = Function.update s i ⟨m :: (s i).held, todo⟩) ∨
    ∃ m todo, (s i).todo = .unlock m :: todo ∧
      t = Function.update s i ⟨(s i).held.erase m, todo⟩ := by
  unfold advance at h
  split at h
  · cases h
  · rename_i m todo htodo
    obtain ⟨⟨hfree, hown⟩, ht⟩ := Option.ite_none_right_eq_some.mp h
    cases ht
    exact Or.inl ⟨m, todo, htodo, hfree, hown, rfl⟩
  · rename_i m todo htodo
    cases h
    exact Or.inr ⟨m, todo, htodo, rfl⟩

/-- No thread is in a call. -/
def machine : StepMachine (ι → LockThread μ) (LockStep ι μ) where
  init s := ∀ i, s i = ⟨[], []⟩
  step s l := step recursive s l

/-- What the calls that are made have left to do. -/
def left (s : ι → LockThread μ) : Nat := ∑ i, (s i).todo.length

def IsAdvance : LockStep ι μ → Prop
  | .call _ _ => False
  | .advance _ => True

section Order
variable [Preorder μ]

/-- Only ordered calls are made. -/
def InOrder (_ : ι → LockThread μ) : LockStep ι μ → Prop
  | .call _ todo => LockOp.Ordered recursive [] todo
  | .advance _ => True

/-- Each thread is in an ordered call, and no mutex has two owners. -/
structure Invariant (s : ι → LockThread μ) : Prop where
  ordered : ∀ i, LockOp.Ordered recursive (s i).held (s i).todo
  exclusive : ∀ i j m, m ∈ (s i).held → m ∈ (s j).held → i = j

variable {recursive} {s t : ι → LockThread μ}

omit [Fintype ι] in
theorem Invariant.update (hs : Invariant recursive s) {i : ι} {thread : LockThread μ}
    (hordered : LockOp.Ordered recursive thread.held thread.todo)
    (hheld : ∀ m ∈ thread.held, m ∈ (s i).held ∨ ∀ j, j ≠ i → m ∉ (s j).held) :
    Invariant recursive (Function.update s i thread) := by
  -- what the thread holds now, no other one holds
  have hothers : ∀ m ∈ thread.held, ∀ j, j ≠ i → m ∉ (s j).held := by
    intro m hm j hj hmj
    rcases hheld m hm with hmine | hfree
    · exact hj (hs.exclusive j i m hmj hmine)
    · exact hfree j hj hmj
  constructor
  · intro j
    by_cases hj : j = i
    · subst hj
      rw [Function.update_self]
      exact hordered
    · rw [Function.update_of_ne hj]
      exact hs.ordered j
  · intro j k m hmj hmk
    by_cases hj : j = i
    · by_cases hk : k = i
      · exact hj.trans hk.symm
      · subst hj
        rw [Function.update_self] at hmj
        rw [Function.update_of_ne hk] at hmk
        exact absurd hmk (hothers m hmj k hk)
    · rw [Function.update_of_ne hj] at hmj
      by_cases hk : k = i
      · subst hk
        rw [Function.update_self] at hmk
        exact absurd hmj (hothers m hmk j hj)
      · rw [Function.update_of_ne hk] at hmk
        exact hs.exclusive j k m hmj hmk

theorem invariant_step {l : LockStep ι μ} (hs : Invariant recursive s) (hl : InOrder recursive s l)
    (h : step recursive s l = some t) : Invariant recursive t := by
  cases l with
  | call i todo =>
    obtain ⟨hidle, ht⟩ := Option.ite_none_right_eq_some.mp h
    cases ht
    have hheld : (s i).held = [] := by
      have hordered := hs.ordered i
      rwa [hidle] at hordered
    refine hs.update ?_ fun m hm => Or.inl hm
    rw [hheld]
    exact hl
  | advance i =>
    have hordered := hs.ordered i
    rcases advance_cases h with ⟨m, todo, htodo, hfree, -, rfl⟩ | ⟨m, todo, htodo, rfl⟩
    · rw [htodo] at hordered
      refine hs.update hordered.2 fun k hk => ?_
      rcases List.mem_cons.mp hk with rfl | hk
      · exact Or.inr hfree
      · exact Or.inl hk
    · rw [htodo] at hordered
      exact hs.update hordered.2 fun k hk => Or.inl (List.mem_of_mem_erase hk)

theorem invariant (h : (machine recursive).ReachableBy (InOrder recursive) s) :
    Invariant recursive s := by
  refine h.invariant ?_ fun s l t hs hl ht => invariant_step hs hl ht
  intro s hinit
  constructor
  · intro i
    rw [hinit i]
    rfl
  · intro i j m hm
    rw [hinit i] at hm
    cases hm

/-- A thread can take a mutex that no other holds. -/
theorem exists_advance_of_free (hs : Invariant recursive s) {i : ι} (hbusy : (s i).todo ≠ [])
    (hfree : ∀ m todo, (s i).todo = .lock m :: todo → ∀ j, j ≠ i → m ∉ (s j).held) :
    ∃ t, step recursive s (.advance i) = some t := by
  have hordered := hs.ordered i
  change ∃ t, advance recursive s i = some t
  unfold advance
  split
  · rename_i htodo
    exact absurd htodo hbusy
  · rename_i m todo htodo
    rw [htodo] at hordered
    have hown : m ∈ (s i).held → recursive m = true := by
      intro hm
      rcases hordered.1 with hrec | habove
      · exact hrec.2
      · exact absurd (habove m hm) (lt_irrefl m)
    exact ⟨_, if_pos ⟨hfree m todo htodo, hown⟩⟩
  · exact ⟨_, rfl⟩

variable [WellFoundedGT μ]

/-- Where a mutex is held, some thread can go on. -/
theorem exists_advance_of_held (hs : Invariant recursive s) (m : μ) :
    ∀ i, m ∈ (s i).held → ∃ j t, step recursive s (.advance j) = some t := by
  -- from the highest mutex downwards
  induction m using WellFoundedGT.induction with
  | ind m ih =>
    intro i hm
    have hordered := hs.ordered i
    have hbusy : (s i).todo ≠ [] := by
      intro hidle
      rw [hidle] at hordered
      rw [show (s i).held = [] from hordered] at hm
      cases hm
    by_cases hfree : ∀ k todo, (s i).todo = .lock k :: todo → ∀ j, j ≠ i → k ∉ (s j).held
    · exact ⟨i, exists_advance_of_free hs hbusy hfree⟩
    · -- it waits for a mutex above `m`, which another thread holds
      push Not at hfree
      obtain ⟨k, todo, htodo, j, hj, hk⟩ := hfree
      rw [htodo] at hordered
      rcases hordered.1 with ⟨hmine, -⟩ | habove
      · exact absurd (hs.exclusive j i k hk hmine) hj
      · exact ih k (habove m hm) j hk

/-- **No deadlock**: while a call is under way, some thread can go on. -/
theorem exists_advance (hs : Invariant recursive s) {i : ι} (hbusy : (s i).todo ≠ []) :
    ∃ j t, step recursive s (.advance j) = some t := by
  by_cases hfree : ∀ k todo, (s i).todo = .lock k :: todo → ∀ j, j ≠ i → k ∉ (s j).held
  · exact ⟨i, exists_advance_of_free hs hbusy hfree⟩
  · push Not at hfree
    obtain ⟨k, -, -, j, -, hk⟩ := hfree
    exact exists_advance_of_held hs k j hk

end Order

/-! ## Calls return -/

variable {recursive : μ → Bool} {s t : ι → LockThread μ}

omit [DecidableEq μ] in
theorem left_update {i : ι} {held : List μ} {op : LockOp μ} {todo : List (LockOp μ)}
    (htodo : (s i).todo = op :: todo) : left (Function.update s i ⟨held, todo⟩) < left s := by
  refine Finset.sum_lt_sum (fun j _ => ?_) ⟨i, Finset.mem_univ i, ?_⟩
  · by_cases hj : j = i
    · subst hj
      rw [Function.update_self, htodo]
      exact Nat.le_succ _
    · rw [Function.update_of_ne hj]
  · rw [Function.update_self, htodo]
    exact Nat.lt_succ_self _

theorem left_advance {i : ι} (h : advance recursive s i = some t) : left t < left s := by
  rcases advance_cases h with ⟨m, todo, htodo, -, -, rfl⟩ | ⟨m, todo, htodo, rfl⟩
  · exact left_update htodo
  · exact left_update htodo

/-- **Ordered calls return.**  From every state the threads take no more steps than their calls
have left, whatever turns they take; where none can go on all calls have returned; and a run
leads there. -/
theorem calls_return [Preorder μ] [WellFoundedGT μ]
    (h : (machine recursive).ReachableBy (InOrder recursive) s) :
    (∀ ls t, (∀ l ∈ ls, IsAdvance l) → (machine recursive).exec s ls = some t →
      ls.length ≤ left s) ∧
    ((∀ i t, step recursive s (.advance i) ≠ some t) → ∀ i, (s i).todo = []) ∧
    ∃ ls t, (∀ l ∈ ls, IsAdvance l) ∧ (machine recursive).exec s ls = some t ∧
      ∀ i, (t i).todo = [] := by
  have hs := invariant h
  have hlowers : ∀ (s : ι → LockThread μ) l t, Invariant recursive s → IsAdvance l →
      (machine recursive).step s l = some t → Invariant recursive t ∧ left t < left s := by
    intro s l t hs hl ht
    cases l with
    | call i todo => exact absurd hl id
    | advance i => exact ⟨invariant_step (l := .advance i) hs trivial ht, left_advance ht⟩
  have henabled : ∀ s : ι → LockThread μ, Invariant recursive s → (¬ ∀ i, (s i).todo = []) →
      ∃ l t, IsAdvance l ∧ (machine recursive).step s l = some t := by
    intro s hs hbusy
    obtain ⟨i, hi⟩ := not_forall.mp hbusy
    obtain ⟨j, t, ht⟩ := exists_advance hs hi
    exact ⟨.advance j, t, trivial, ht⟩
  refine ⟨fun ls t hls ht => ?_, fun hstuck => ?_, ?_⟩
  · have hle := (StepMachine.exec_length_le hlowers hs
      ((StepMachine.along_iff_forall ht).mpr hls) ht).2
    omega
  · refine StepMachine.settled_of_stuck henabled hs fun l t hl => ?_
    cases l with
    | call i todo => exact absurd hl id
    | advance i => exact hstuck i t
  · obtain ⟨ls, t, halong, ht, -, hset⟩ := StepMachine.exists_exec_settled hlowers henabled hs
    exact ⟨ls, t, (StepMachine.along_iff_forall ht).mp halong, ht, hset⟩

/-! ## A call that waits for itself -/

/-- The thread will lock a mutex again that it still holds. -/
structure Doomed (m : μ) (thread : LockThread μ) : Prop where
  once : thread.held.count m ≤ 1
  relocks : LockOp.Relocks m (decide (m ∈ thread.held)) thread.todo

namespace Doomed
variable {m k : μ} {thread : LockThread μ} {todo : List (LockOp μ)}

theorem not_returned (h : Doomed m thread) : thread.todo ≠ [] := by
  intro hreturned
  have hrelocks := h.relocks
  rw [hreturned] at hrelocks
  exact hrelocks

/-- The mutex itself cannot be locked again. -/
theorem lock (h : Doomed m thread) (hm : recursive m = false)
    (htodo : thread.todo = .lock k :: todo) (hown : k ∈ thread.held → recursive k = true) :
    Doomed m ⟨k :: thread.held, todo⟩ := by
  obtain ⟨honce, hrelocks⟩ := h
  rw [htodo] at hrelocks
  have hfree : k = m → m ∉ thread.held := by
    rintro rfl hmem
    rw [hown hmem] at hm
    cases hm
  rcases hrelocks with ⟨hholds, hk⟩ | hrelocks
  · exact absurd (of_decide_eq_true hholds) (hfree hk)
  · constructor
    · rw [List.count_cons]
      by_cases hk : k = m
      · rw [List.count_eq_zero.mpr (hfree hk)]
        split <;> omega
      · rw [if_neg (by simpa using hk)]
        exact honce
    · have hholds : decide (m ∈ k :: thread.held) =
          (decide (m ∈ thread.held) || decide (k = m)) := by
        rw [← Bool.decide_or, decide_eq_decide, List.mem_cons, or_comm, eq_comm (a := m)]
      rw [hholds]
      exact hrelocks

theorem unlock (h : Doomed m thread) (htodo : thread.todo = .unlock k :: todo) :
    Doomed m ⟨thread.held.erase k, todo⟩ := by
  obtain ⟨honce, hrelocks⟩ := h
  rw [htodo] at hrelocks
  constructor
  · exact (List.erase_sublist.count_le m).trans honce
  · have hholds : decide (m ∈ thread.held.erase k) =
        (decide (m ∈ thread.held) && decide (k ≠ m)) := by
      by_cases hk : k = m
      · -- it is held no more than once
        subst hk
        have hgone : k ∉ thread.held.erase k := by
          rw [← List.count_eq_zero, List.count_erase_self]
          omega
        simp [hgone]
      · simp [hk, List.mem_erase_of_ne (Ne.symm hk)]
    rw [hholds]
    exact hrelocks

end Doomed

theorem doomed_step {m : μ} (hm : recursive m = false) {i : ι} {l : LockStep ι μ}
    (hs : Doomed m (s i)) (h : step recursive s l = some t) : Doomed m (t i) := by
  cases l with
  | call j todo =>
    obtain ⟨hidle, ht⟩ := Option.ite_none_right_eq_some.mp h
    cases ht
    by_cases hj : i = j
    · subst hj
      exact absurd hidle hs.not_returned
    · rw [Function.update_of_ne hj]
      exact hs
  | advance j =>
    by_cases hj : i = j
    · subst hj
      rcases advance_cases h with ⟨k, todo, htodo, -, hown, rfl⟩ | ⟨k, todo, htodo, rfl⟩
      · rw [Function.update_self]
        exact hs.lock hm htodo hown
      · rw [Function.update_self]
        exact hs.unlock htodo
    · have hsame : t i = s i := by
        rcases advance_cases h with ⟨k, todo, -, -, -, rfl⟩ | ⟨k, todo, -, rfl⟩
        · exact Function.update_of_ne hj ..
        · exact Function.update_of_ne hj ..
      rw [hsame]
      exact hs

/-- It never comes to that. -/
theorem never_returns {m : μ} (hm : recursive m = false) {i : ι} (hs : Doomed m (s i))
    {ls : List (LockStep ι μ)} (h : (machine recursive).exec s ls = some t) : (t i).todo ≠ [] := by
  have ht := StepMachine.exec_invariant (I := fun s => Doomed m (s i))
    (fun s l t hs ht => doomed_step (s := s) (i := i) hm hs ht) hs h
  exact ht.not_returned

end LockSystem
