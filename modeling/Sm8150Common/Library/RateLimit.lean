import Mathlib.Algebra.Order.Group.Basic
import Mathlib.Algebra.Order.Group.Int
import Mathlib.Algebra.Order.Ring.Int
import Mathlib.Data.List.Basic

/-!
# Rate limits

A limiter that keeps a first item and then every item that comes at least `d` after the last
one it kept.  The items are their times, from any ordered group.

`spaced_thin` and `covered_thin` say that what is kept is spaced by `d` and misses nothing by
more than `d`; `nsmul_length_le` and `countP_window_le` bound how much of it a window holds.
-/

namespace RateLimit
variable {α : Type*} [AddCommGroup α] [LinearOrder α] [IsOrderedAddMonoid α]

/-- What is kept after an item at `last`. -/
def thinAfter (d : α) : α → List α → List α
  | _, [] => []
  | last, t :: ts => if t - last < d then thinAfter d last ts else t :: thinAfter d t ts

def thin (d : α) : List α → List α
  | [] => []
  | t :: ts => t :: thinAfter d t ts

/-- Any two items are at least `d` apart, the later one behind. -/
def Spaced (d : α) (l : List α) : Prop := l.Pairwise fun a b => a + d ≤ b

theorem spaced_thinAfter {d : α} (hd : 0 ≤ d) (last : α) (ts : List α) :
    Spaced d (last :: thinAfter d last ts) := by
  induction ts generalizing last with
  | nil => exact List.pairwise_singleton _ _
  | cons t ts ih =>
    rw [thinAfter]
    split
    · exact ih last
    · rename_i hgap
      have hnext : last + d ≤ t := by
        rw [add_comm]
        exact le_sub_iff_add_le.mp (not_lt.mp hgap)
      have hrest := ih t
      refine List.pairwise_cons.mpr ⟨fun s hs => ?_, hrest⟩
      rcases List.mem_cons.mp hs with rfl | hs
      · exact hnext
      · -- what is kept later is later still
        calc last + d ≤ t := hnext
          _ ≤ t + d := le_add_of_nonneg_right hd
          _ ≤ s := List.rel_of_pairwise_cons hrest hs

theorem spaced_thin {d : α} (hd : 0 ≤ d) (ts : List α) : Spaced d (thin d ts) := by
  cases ts with
  | nil => exact .nil
  | cons t ts => exact spaced_thinAfter hd t ts

/-- What is left out is close behind something that is kept. -/
theorem covered_thinAfter {d : α} (hd : 0 < d) {last : α} {ts : List α}
    (hsorted : (last :: ts).Pairwise (· ≤ ·)) :
    ∀ t ∈ ts, ∃ k ∈ last :: thinAfter d last ts, k ≤ t ∧ t < k + d := by
  induction ts generalizing last with
  | nil => exact fun t ht => absurd ht List.not_mem_nil
  | cons t ts ih =>
    obtain ⟨hlast, hrest⟩ := List.pairwise_cons.mp hsorted
    obtain ⟨-, hts⟩ := List.pairwise_cons.mp hrest
    intro s hs
    rw [thinAfter]
    split
    · rename_i hgap
      rcases List.mem_cons.mp hs with rfl | hs
      · exact ⟨last, List.mem_cons_self, hlast s List.mem_cons_self,
          sub_lt_iff_lt_add'.mp hgap⟩
      · refine ih (List.pairwise_cons.mpr ⟨fun r hr => ?_, hts⟩) s hs
        exact hlast r (List.mem_cons_of_mem _ hr)
    · rcases List.mem_cons.mp hs with rfl | hs
      · exact ⟨s, List.mem_cons_of_mem _ List.mem_cons_self, le_refl s, lt_add_of_pos_right s hd⟩
      · obtain ⟨k, hk, hcover⟩ := ih hrest s hs
        exact ⟨k, List.mem_cons_of_mem _ hk, hcover⟩

theorem covered_thin {d : α} (hd : 0 < d) {ts : List α} (hsorted : ts.Pairwise (· ≤ ·)) :
    ∀ t ∈ ts, ∃ k ∈ thin d ts, k ≤ t ∧ t < k + d := by
  cases ts with
  | nil => exact fun t ht => absurd ht List.not_mem_nil
  | cons t ts =>
    intro s hs
    rcases List.mem_cons.mp hs with rfl | hs
    · exact ⟨s, List.mem_cons_self, le_refl s, lt_add_of_pos_right s hd⟩
    · exact covered_thinAfter hd hsorted s hs

/-! ## Windows -/

omit [IsOrderedAddMonoid α] in
theorem Spaced.sublist {d : α} {l k : List α} (h : Spaced d l) (hk : k.Sublist l) : Spaced d k :=
  List.Pairwise.sublist hk h

/-- Spaced items after `a` reach past `a` by their number. -/
theorem Spaced.nsmul_length_le {d w a : α} {l : List α} (h : Spaced d l)
    (hwindow : ∀ t ∈ l, a ≤ t ∧ t ≤ a + w) : l ≠ [] → (l.length - 1) • d ≤ w := by
  induction l generalizing a w with
  | nil => exact fun hnil => absurd rfl hnil
  | cons t l ih =>
    intro _
    obtain ⟨hat, htw⟩ := hwindow t List.mem_cons_self
    obtain ⟨hlater, hrest⟩ := List.pairwise_cons.mp h
    rw [List.length_cons, Nat.add_sub_cancel]
    cases l with
    | nil =>
      rw [List.length_nil, zero_nsmul]
      exact le_of_add_le_add_left (by rw [add_zero]; exact hat.trans htw)
    | cons s l =>
      -- the others are in a window that is shorter by `d`
      have hshort := @ih (w - d) (a + d) hrest fun r hr => by
        refine ⟨(add_le_add_left hat d).trans (hlater r hr), ?_⟩
        have hr := (hwindow r (List.mem_cons_of_mem _ hr)).2
        rwa [add_assoc, add_sub_cancel]
      have hle := hshort (List.cons_ne_nil s l)
      rw [List.length_cons, Nat.add_sub_cancel] at hle
      rw [List.length_cons, succ_nsmul]
      exact le_sub_iff_add_le.mp hle

/-- How many of the items a window holds. -/
theorem Spaced.countP_window_le {d w : Int} (hd : 0 < d) (hw : 0 ≤ w) {l : List Int}
    (h : Spaced d l) (a : Int) :
    ((l.countP fun t => a ≤ t ∧ t ≤ a + w : Nat) : Int) ≤ w / d + 1 := by
  rw [List.countP_eq_length_filter]
  have hinside := h.sublist (List.filter_sublist (p := fun t => a ≤ t ∧ t ≤ a + w))
  generalize hk : (l.filter fun t => a ≤ t ∧ t ≤ a + w) = k at hinside
  have hwindow : ∀ t ∈ k, a ≤ t ∧ t ≤ a + w := by
    intro t ht
    rw [← hk] at ht
    exact of_decide_eq_true (List.mem_filter.mp ht).2
  by_cases hnil : k = []
  · have hquot := Int.ediv_nonneg hw (le_of_lt hd)
    rw [hnil, List.length_nil]
    omega
  · have hle := hinside.nsmul_length_le hwindow hnil
    have hpos := List.length_pos_iff.mpr hnil
    rw [nsmul_eq_mul] at hle
    have hquot : ((k.length - 1 : Nat) : Int) ≤ w / d := Int.le_ediv_of_mul_le hd hle
    omega

end RateLimit
