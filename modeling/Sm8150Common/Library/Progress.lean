import Sm8150Common.Library.StepMachine

/-!
# Runs that come to an end

`exec_account` adds up what the steps of a run cost: if each step pays for itself out of a
balance of the state, so does the run.  Steps that lower a rank end after as many as the rank
(`exec_length_le`), and where one of them can be taken until the state is settled they lead
there (`exists_exec_settled`).

Some of a machine's steps bring it to rest: they lower a rank, and as long as the state is
not settled one of them can be taken (`Ranked`).  Then a run has no more of them than the
rank of the state it starts in, whatever order is chosen and whatever idle steps come
between; there is a run of them to a settled state; and where none can be taken the state
is settled.
-/

universe u v

namespace StepMachine
variable {σ : Type u} {ι : Type v} {M : StepMachine σ ι}

/-- **What the steps cost, the run costs**, where the steps that `p` picks cost one and the
others nothing.  `rel` is `≤` for a bound, `=` for an exact account. -/
theorem exec_account (rel : Nat → Nat → Prop) (hrefl : ∀ n, rel n n)
    (htrans : ∀ {a b c}, rel a b → rel b c → rel a c)
    (hadd : ∀ a {b c}, rel b c → rel (a + b) (a + c)) (inv : σ → Prop) {ok : σ → ι → Prop}
    (p : ι → Bool) (balance : σ → Nat)
    (hstep : ∀ s l t, inv s → ok s l → M.step s l = some t →
      inv t ∧ rel ((if p l then 1 else 0) + balance t) (balance s))
    {s t : σ} {ls : List ι} (hs : inv s) (hok : M.Along ok s ls) (hrun : M.exec s ls = some t) :
    inv t ∧ rel (ls.countP p + balance t) (balance s) := by
  induction ls generalizing s with
  | nil =>
    cases hrun
    rw [List.countP_nil, Nat.zero_add]
    exact ⟨hs, hrefl _⟩
  | cons l ls ih =>
    obtain ⟨r, hr, ht⟩ := exec_cons_eq_some.mp hrun
    obtain ⟨hinv, hpaid⟩ := hstep s l r hs hok.1 hr
    obtain ⟨hinv', hrest⟩ := ih hinv (hok.2 r hr) ht
    rw [List.countP_cons, Nat.add_comm (ls.countP p), Nat.add_assoc]
    exact ⟨hinv', htrans (hadd _ hrest) hpaid⟩

/-! ## Steps that lower a rank -/

section Lowering
variable {inv : σ → Prop} {ok : σ → ι → Prop} {rank : σ → Nat}

theorem Along.imp {ok' : σ → ι → Prop} (h : ∀ s l, ok s l → ok' s l) {s : σ} {ls : List ι}
    (hok : M.Along ok s ls) : M.Along ok' s ls := by
  induction ls generalizing s with
  | nil => trivial
  | cons l ls ih => exact ⟨h s l hok.1, fun t ht => ih (hok.2 t ht)⟩

theorem ReachableBy.imp {ok' : σ → ι → Prop} (h : ∀ s l, ok s l → ok' s l) {s : σ}
    (hs : M.ReachableBy ok s) : M.ReachableBy ok' s := by
  induction hs with
  | init hinit => exact .init hinit
  | step _ hok hstep ih => exact .step ih (h _ _ hok) hstep

/-- A condition on the labels alone. -/
theorem along_iff_forall {p : ι → Prop} {s t : σ} {ls : List ι} (hrun : M.exec s ls = some t) :
    M.Along (fun _ l => p l) s ls ↔ ∀ l ∈ ls, p l := by
  induction ls generalizing s with
  | nil => exact iff_of_true trivial (by simp)
  | cons l ls ih =>
    obtain ⟨r, hr, ht⟩ := exec_cons_eq_some.mp hrun
    rw [List.forall_mem_cons, Along, ← ih ht, hr]
    simp

/-- If one of the steps can be taken wherever the state is not settled, it is settled where
none can. -/
theorem settled_of_stuck {settled : σ → Prop}
    (henabled : ∀ s, inv s → ¬ settled s → ∃ l t, ok s l ∧ M.step s l = some t) {s : σ}
    (hs : inv s) (hstuck : ∀ l t, ok s l → M.step s l ≠ some t) : settled s := by
  apply Classical.byContradiction
  intro hn
  obtain ⟨l, t, hok, hstep⟩ := henabled s hs hn
  exact hstuck l t hok hstep

variable (hlowers : ∀ s l t, inv s → ok s l → M.step s l = some t → inv t ∧ rank t < rank s)
include hlowers

/-- A run of such steps is no longer than the rank it uses up. -/
theorem exec_length_le {s t : σ} {ls : List ι} (hs : inv s) (hok : M.Along ok s ls)
    (hrun : M.exec s ls = some t) : inv t ∧ ls.length + rank t ≤ rank s := by
  induction ls generalizing s with
  | nil =>
    cases hrun
    exact ⟨hs, by simp⟩
  | cons l ls ih =>
    obtain ⟨r, hr, ht⟩ := exec_cons_eq_some.mp hrun
    obtain ⟨hinv, hlt⟩ := hlowers s l r hs hok.1 hr
    obtain ⟨hinv', hle⟩ := ih hinv (hok.2 r hr) ht
    rw [List.length_cons]
    exact ⟨hinv', by omega⟩

/-- If one can be taken wherever the state is not settled, some run of them leads to a settled
state. -/
theorem exists_exec_settled {settled : σ → Prop}
    (henabled : ∀ s, inv s → ¬ settled s → ∃ l t, ok s l ∧ M.step s l = some t) {s : σ}
    (hs : inv s) : ∃ ls t, M.Along ok s ls ∧ M.exec s ls = some t ∧ inv t ∧ settled t := by
  -- by strong induction on the rank
  induction hn : rank s using Nat.strongRecOn generalizing s with
  | ind n ih =>
    by_cases hdone : settled s
    · exact ⟨[], s, trivial, rfl, hs, hdone⟩
    · obtain ⟨l, r, hok, hstep⟩ := henabled s hs hdone
      obtain ⟨hr, hlt⟩ := hlowers s l r hs hok hstep
      obtain ⟨ls, t, halong, hrun, hinv, hset⟩ := ih (rank r) (hn ▸ hlt) hr rfl
      refine ⟨l :: ls, t, ⟨hok, ?_⟩, exec_cons_eq_some.mpr ⟨r, hstep, hrun⟩, hinv, hset⟩
      intro r' hr'
      rw [hstep] at hr'
      cases hr'
      exact halong

end Lowering

/-- The steps that `works` picks lower the rank of a state that is not settled, and one of
them can be taken there; the steps that meet `idle` do not raise it. -/
structure Ranked (M : StepMachine σ ι) (inv : σ → Prop) (works : ι → Bool) (idle : σ → ι → Prop)
    (rank : σ → Nat) (settled : σ → Prop) : Prop where
  lowers : ∀ s l t, inv s → ¬ settled s → works l = true → M.step s l = some t →
    inv t ∧ rank t < rank s
  waits : ∀ s l t, inv s → works l = false → idle s l → M.step s l = some t →
    inv t ∧ rank t ≤ rank s
  enabled : ∀ s, inv s → ¬ settled s → ∃ l t, works l = true ∧ M.step s l = some t

/-- Work is done only where there is work to do, and the other steps are idle. -/
def Working (works : ι → Bool) (idle : σ → ι → Prop) (settled : σ → Prop) (s : σ) (l : ι) : Prop :=
  if works l = true then ¬ settled s else idle s l

namespace Ranked
variable {inv : σ → Prop} {works : ι → Bool} {idle : σ → ι → Prop} {rank : σ → Nat} {settled : σ → Prop}
  (h : Ranked M inv works idle rank settled)
include h

/-- A run has no more work in it than the rank it uses up. -/
theorem count_le {s t : σ} {ls : List ι} (hs : inv s) (hok : M.Along (Working works idle settled) s ls)
    (hrun : M.exec s ls = some t) : inv t ∧ ls.countP works + rank t ≤ rank s := by
  refine exec_account (· ≤ ·) Nat.le_refl Nat.le_trans
    (fun a _ _ hle => Nat.add_le_add_left hle a) inv works rank ?_ hs hok hrun
  intro s l t hs hl hstep
  unfold Working at hl
  by_cases hwork : works l = true
  · rw [if_pos hwork] at hl
    obtain ⟨ht, hlt⟩ := h.lowers s l t hs hl hwork hstep
    rw [if_pos hwork]
    exact ⟨ht, by omega⟩
  · rw [if_neg hwork] at hl
    obtain ⟨ht, hle⟩ := h.waits s l t hs (Bool.eq_false_iff.mpr hwork) hl hstep
    rw [if_neg hwork]
    exact ⟨ht, by omega⟩

/-- Where no work can be done the state is settled. -/
theorem settled_of_stuck {s : σ} (hs : inv s) (hstuck : ∀ l t, works l = true → M.step s l ≠ some t) :
    settled s :=
  StepMachine.settled_of_stuck h.enabled hs hstuck

/-- From every state a run leads to a settled one, by work alone. -/
theorem settles {s : σ} (hs : inv s) :
    ∃ ls t, M.Along (Working works idle settled) s ls ∧ M.exec s ls = some t ∧ inv t ∧
      settled t ∧ ∀ l ∈ ls, works l = true := by
  have hlowers : ∀ s l t, inv s → (¬ settled s ∧ works l = true) → M.step s l = some t →
      inv t ∧ rank t < rank s :=
    fun s l t hs hl hstep => h.lowers s l t hs hl.1 hl.2 hstep
  have henabled : ∀ s, inv s → ¬ settled s →
      ∃ l t, (¬ settled s ∧ works l = true) ∧ M.step s l = some t := by
    intro s hs hn
    obtain ⟨l, t, hwork, hstep⟩ := h.enabled s hs hn
    exact ⟨l, t, ⟨hn, hwork⟩, hstep⟩
  obtain ⟨ls, t, halong, hrun, ht, hset⟩ := exists_exec_settled hlowers henabled hs
  refine ⟨ls, t, halong.imp fun s l hl => ?_, hrun, ht, hset,
    (along_iff_forall hrun).mp (halong.imp fun s l hl => hl.2)⟩
  rw [Working, if_pos hl.2]
  exact hl.1

end Ranked
end StepMachine
