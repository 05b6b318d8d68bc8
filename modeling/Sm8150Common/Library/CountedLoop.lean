/-!
# Counted loops

The loop `for (i = 0; i < n; i++)` over a state, with a body that may fail and a
counter of fixed width: counting beyond `limit` fails as well.  `forCount` peels off
the last iteration, so that an invariant is carried from one boundary between
iterations to the next.
-/

universe u

namespace CountedLoop
variable {σ : Type u} {limit : Nat} {body : Nat → σ → Option σ}

/-- The state after `n` iterations. -/
def forCount (limit : Nat) (body : Nat → σ → Option σ) : Nat → σ → Option σ
  | 0, s => some s
  | n + 1, s => do
    let s ← forCount limit body n s
    let s ← body n s
    if n < limit then some s else none

@[simp] theorem forCount_zero (s : σ) : forCount limit body 0 s = some s := rfl

theorem forCount_succ {n : Nat} (s : σ) (hn : n < limit) :
    forCount limit body (n + 1) s = (forCount limit body n s).bind (body n) := by
  rw [forCount]
  simp [hn, Option.bind_eq_bind]

/-- **The rule for a loop**: a body that never fails where the invariant holds, and
keeps it, makes a loop that does not fail and ends with it. -/
theorem forCount_inv (Inv : Nat → σ → Prop) {n : Nat} {s : σ} (hlimit : n ≤ limit)
    (hinit : Inv 0 s)
    (hbody : ∀ i < n, ∀ s, Inv i s → ∃ t, body i s = some t ∧ Inv (i + 1) t) :
    ∃ t, forCount limit body n s = some t ∧ Inv n t := by
  induction n with
  | zero => exact ⟨s, rfl, hinit⟩
  | succ n ih =>
    obtain ⟨r, hr, hinv⟩ :=
      ih (Nat.le_of_succ_le hlimit) fun i hi => hbody i (Nat.lt_succ_of_lt hi)
    obtain ⟨t, ht, hnext⟩ := hbody n (Nat.lt_succ_self n) r hinv
    refine ⟨t, ?_, hnext⟩
    rw [forCount_succ s hlimit, hr]
    exact ht

end CountedLoop
