/-!
# Step machines

A `StepMachine` is a labelled transition system whose steps are computed: `step
s l` is `some t` when the labelled step `l` can be taken in `s`, with result
`t`, and `none` when it cannot.  Every choice a system leaves open (which thread
moves, what the environment answers) is part of the label, so a run is a list of
labels and a concrete run can be evaluated (`exec`).

`ReachableBy ok` are the states of the runs each of whose steps meets the
condition `ok`; `Reachable` puts no condition on the steps.  Invariants are
proved once, by `ReachableBy.invariant`, from one step; a `Simulation` carries
the reachable states of one machine to those of a more abstract one.
-/

universe u v w x

/-- A labelled transition system with computed steps. -/
structure StepMachine (σ : Type u) (ι : Type v) where
  /-- The states a run may start in. -/
  init : σ → Prop
  /-- The state after the step labelled `l`, if that step can be taken. -/
  step : σ → ι → Option σ

namespace StepMachine
variable {σ : Type u} {ι : Type v} (M : StepMachine σ ι)

/-- The state after the steps labelled `ls`, in order, if they can be taken. -/
def exec : σ → List ι → Option σ
  | s, [] => some s
  | s, l :: ls => (M.step s l).bind fun t => exec t ls

/-- The states of the runs whose every step `l`, taken in `s`, meets `ok s l`. -/
inductive ReachableBy (ok : σ → ι → Prop) : σ → Prop
  | init {s : σ} : M.init s → ReachableBy ok s
  | step {s t : σ} {l : ι} : ReachableBy ok s → ok s l → M.step s l = some t → ReachableBy ok t

/-- The states of the runs. -/
abbrev Reachable : σ → Prop := M.ReachableBy fun _ _ => True

variable {M} {ok : σ → ι → Prop} {s t : σ}

theorem Reachable.next {l : ι} (hs : M.Reachable s) (h : M.step s l = some t) : M.Reachable t :=
  .step hs trivial h

/-- Runs with a condition are runs. -/
theorem ReachableBy.reachable (h : M.ReachableBy ok s) : M.Reachable s := by
  induction h with
  | init h => exact .init h
  | step _ _ hstep ih => exact ih.next hstep

/-- **The invariant rule**: what holds initially and is preserved by every step
that meets the condition holds in every state of the runs under it. -/
theorem ReachableBy.invariant {I : σ → Prop} (hinit : ∀ s, M.init s → I s)
    (hstep : ∀ s l t, I s → ok s l → M.step s l = some t → I t) (h : M.ReachableBy ok s) : I s := by
  induction h with
  | init h => exact hinit _ h
  | step _ hok h ih => exact hstep _ _ _ ih hok h

theorem Reachable.invariant {I : σ → Prop} (hinit : ∀ s, M.init s → I s)
    (hstep : ∀ s l t, I s → M.step s l = some t → I t) (h : M.Reachable s) : I s :=
  ReachableBy.invariant hinit (fun s l t hs _ ht => hstep s l t hs ht) h

/-! ## Concrete runs -/

@[simp] theorem exec_nil (s : σ) : M.exec s [] = some s := rfl

@[simp] theorem exec_singleton (s : σ) (l : ι) : M.exec s [l] = M.step s l := by
  simp [exec]

theorem exec_cons_eq_some {l : ι} {ls : List ι} :
    M.exec s (l :: ls) = some t ↔ ∃ r, M.step s l = some r ∧ M.exec r ls = some t := by
  simp [exec, Option.bind_eq_some_iff]

theorem exec_append (s : σ) (ls ks : List ι) :
    M.exec s (ls ++ ks) = (M.exec s ls).bind fun t => M.exec t ks := by
  induction ls generalizing s with
  | nil => rfl
  | cons l ls ih =>
    rw [List.cons_append, exec, exec, Option.bind_assoc]
    exact congrArg _ (funext fun t => ih t)

/-- A run that can be evaluated ends in a reachable state. -/
theorem Reachable.exec {ls : List ι} (hs : M.Reachable s) (h : M.exec s ls = some t) :
    M.Reachable t := by
  induction ls generalizing s with
  | nil => exact Option.some.inj h ▸ hs
  | cons l ls ih =>
    obtain ⟨r, hr, ht⟩ := exec_cons_eq_some.mp h
    exact ih (hs.next hr) ht

/-- Every step of the run `ls` from `s` meets the condition. -/
def Along (M : StepMachine σ ι) (ok : σ → ι → Prop) : σ → List ι → Prop
  | _, [] => True
  | s, l :: ls => ok s l ∧ ∀ t ∈ M.step s l, Along M ok t ls

instance Along.decidable [∀ s l, Decidable (ok s l)] (s : σ) (ls : List ι) :
    Decidable (M.Along ok s ls) :=
  match ls with
  | [] => isTrue trivial
  | l :: ls =>
    haveI : Decidable (∀ t ∈ M.step s l, M.Along ok t ls) :=
      match h : M.step s l with
      | none => isTrue (by simp)
      | some r =>
        have := Along.decidable r ls
        decidable_of_iff (M.Along ok r ls) (by simp)
    inferInstanceAs (Decidable (ok s l ∧ _))

/-- A run that can be evaluated, and whose steps can be checked, ends in a state
of the runs under the condition. -/
theorem ReachableBy.exec {ls : List ι} (hs : M.ReachableBy ok s) (h : M.exec s ls = some t)
    (hok : M.Along ok s ls) : M.ReachableBy ok t := by
  induction ls generalizing s with
  | nil => exact Option.some.inj h ▸ hs
  | cons l ls ih =>
    obtain ⟨r, hr, ht⟩ := exec_cons_eq_some.mp h
    obtain ⟨hl, hls⟩ := hok
    exact ih (.step hs hl hr) ht (hls r hr)

/-- What every step preserves, a whole run preserves. -/
theorem exec_invariant {I : σ → Prop} (hstep : ∀ s l t, I s → M.step s l = some t → I t)
    {ls : List ι} (hs : I s) (h : M.exec s ls = some t) : I t := by
  induction ls generalizing s with
  | nil => exact Option.some.inj h ▸ hs
  | cons l ls ih =>
    obtain ⟨r, hr, ht⟩ := exec_cons_eq_some.mp h
    exact ih (hstep _ _ _ hs hr) ht

/-! ## Simulations -/

/-- `N` simulates `M` through the abstraction `abs`: in the states that satisfy
the invariant `inv` of `M`, a step of `M` is a finite run of `N`, possibly
empty. -/
structure Simulation {τ : Type w} {κ : Type x} (M : StepMachine σ ι) (N : StepMachine τ κ)
    (abs : σ → τ) (inv : σ → Prop) : Prop where
  init : ∀ s, M.init s → inv s ∧ N.init (abs s)
  step : ∀ s l t, inv s → M.step s l = some t →
    inv t ∧ ∃ ks, N.exec (abs s) ks = some (abs t)

/-- Reachable states of the simulated machine satisfy its invariant, and their
abstractions are reachable. -/
theorem Simulation.reachable {τ : Type w} {κ : Type x} {N : StepMachine τ κ} {abs : σ → τ}
    {inv : σ → Prop} (h : Simulation M N abs inv) (hs : M.Reachable s) :
    inv s ∧ N.Reachable (abs s) := by
  refine ReachableBy.invariant (I := fun s => inv s ∧ N.Reachable (abs s)) ?_ ?_ hs
  · intro s hs
    exact ⟨(h.init s hs).1, .init (h.init s hs).2⟩
  · rintro s l t ⟨hinv, hreach⟩ - ht
    obtain ⟨hinv', ks, hks⟩ := h.step s l t hinv ht
    exact ⟨hinv', hreach.exec hks⟩

/-! ## Images

A map of the states and of the labels under which a step of one machine is exactly a step
of the other: it can be taken if that one can, and the results correspond. -/

section Images
variable {τ : Type w} {κ : Type x} {N : StepMachine τ κ} {abs : σ → τ} {f : ι → κ}

end Images

end StepMachine
