import Mathlib.Logic.Function.Basic
import Sm8150Common.Library.StepMachine

/-!
# Systems of several parts, seen from one of them

A part of a system takes part in some of its steps.  `View M N own ok R` says that `N` is `M`
as the part sees it: a step that is not its `own` leaves what the part sees as it was, and a
step that is its own is a step of `N`.  A run is then, for the part, the run of its own steps
(`View.exec`).

The states of the parts are a family, and a message to a part changes only its member; what
becomes of one member is up to the messages to it (`foldl_update_apply`).
-/

universe u v w x

namespace StepMachine
variable {σ : Type u} {ι : Type v} {τ : Type w} {κ : Type x}

/-- Under the condition `ok`, `R` goes from the states of `M` to those of `N`. -/
structure View (M : StepMachine σ ι) (N : StepMachine τ κ) (own : ι → Option κ)
    (ok : σ → ι → Prop) (R : σ → τ → Prop) : Prop where
  other : ∀ {s t : σ} {s' : τ} {l : ι}, R s s' → ok s l → own l = none →
    M.step s l = some t → R t s'
  own : ∀ {s t : σ} {s' : τ} {l : ι} {k : κ}, R s s' → ok s l → own l = some k →
    M.step s l = some t → ∃ t', N.step s' k = some t' ∧ R t t'

/-- **A part goes through its own steps.** -/
theorem View.exec {M : StepMachine σ ι} {N : StepMachine τ κ} {own : ι → Option κ}
    {ok : σ → ι → Prop} {R : σ → τ → Prop} (view : View M N own ok R) {s t : σ} {s' : τ}
    {ls : List ι} (hs : R s s') (hok : M.Along ok s ls) (h : M.exec s ls = some t) :
    ∃ t', N.exec s' (ls.filterMap own) = some t' ∧ R t t' := by
  induction ls generalizing s s' with
  | nil =>
    cases h
    exact ⟨s', rfl, hs⟩
  | cons l ls ih =>
    obtain ⟨r, hr, hrest⟩ := exec_cons_eq_some.mp h
    obtain ⟨hl, hls⟩ := hok
    cases hown : own l with
    | none =>
      rw [List.filterMap_cons_none hown]
      exact ih (view.other hs hl hown hr) (hls r hr) hrest
    | some k =>
      obtain ⟨r', hr', hR⟩ := view.own hs hl hown hr
      obtain ⟨t', ht', hRt⟩ := ih hR (hls r hr) hrest
      rw [List.filterMap_cons_some hown]
      exact ⟨t', exec_cons_eq_some.mpr ⟨r', hr', ht'⟩, hRt⟩

end StepMachine

/-- Messages to the members of a family: each member takes in its own, in their order. -/
theorem foldl_update_apply {ι : Type u} {σ : Type v} {μ : Type w} [DecidableEq ι]
    (receive : σ → μ → σ) (messages : List (ι × μ)) (state : ι → σ) (i : ι) :
    messages.foldl (fun state m => Function.update state m.1 (receive (state m.1) m.2)) state i =
      ((messages.filter fun m => m.1 = i).map Prod.snd).foldl receive (state i) := by
  induction messages generalizing state with
  | nil => rfl
  | cons m messages ih =>
    rw [List.foldl_cons, ih]
    by_cases hm : m.1 = i
    · rw [List.filter_cons_of_pos (by exact decide_eq_true hm), ← hm, Function.update_self]
      rfl
    · rw [List.filter_cons_of_neg (by simpa using hm), Function.update_of_ne (Ne.symm hm)]
