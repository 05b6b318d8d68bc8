/-!
# A latch with a count

References to a latch are taken and given back, several at a time.  The latch is closed when
references are taken where there are none, and opened when the last one is given back; no more
are given back than there are.

What a series of changes leaves is read off the changes (`free_iff`).  The count ends at zero if
they give back all that they take and found, and if each stretch of them up to the end gives back
at least what it takes, since what is given back too early is lost.  The latch is then open
unless it was last closed for nothing: by a take of no reference, which no give-back undoes.
-/

namespace CountedLatch

/-- References are taken or given back. -/
inductive Change
  | take (n : Nat)
  | give (n : Nat)
  deriving DecidableEq, Repr

/-- The references that are held, and whether the latch is closed. -/
structure Latch where
  count : Nat
  closed : Bool
  deriving DecidableEq, Repr

/-- What a change adds to the count, at most. -/
def Change.net : Change → Int
  | .take n => n
  | .give n => -n

namespace Latch

def step (x : Latch) : Change → Latch
  | .take n => ⟨x.count + n, if x.count = 0 then true else x.closed⟩
  | .give n =>
    if x.count = 0 then x
    else ⟨x.count - n, if x.count - n = 0 then false else x.closed⟩

def after (x : Latch) (cs : List Change) : Latch := cs.foldl step x

end Latch

def net : List Change → Int
  | [] => 0
  | c :: cs => c.net + net cs

/-- Each stretch up to the end gives back at least what it takes. -/
def Outweighed : List Change → Prop
  | [] => True
  | c :: cs => net (c :: cs) ≤ 0 ∧ Outweighed cs

/-- Of a count nothing is left. -/
def Empties (count : Nat) (cs : List Change) : Prop := count + net cs ≤ 0 ∧ Outweighed cs

instance Outweighed.decidable : (cs : List Change) → Decidable (Outweighed cs)
  | [] => isTrue trivial
  | c :: cs =>
    have := Outweighed.decidable cs
    inferInstanceAs (Decidable (net (c :: cs) ≤ 0 ∧ Outweighed cs))

instance (count : Nat) (cs : List Change) : Decidable (Empties count cs) :=
  inferInstanceAs (Decidable (_ ∧ _))

/-- The latch was last closed for nothing: before the changes, or by a take of no reference where
none was left. -/
def Lingers (x : Latch) (cs : List Change) : Prop :=
  (x.count = 0 ∧ x.closed = true ∧ ∀ n, .take n ∉ cs) ∨
    ∃ before rest, cs = before ++ .take 0 :: rest ∧ Empties x.count before ∧ ∀ n, .take n ∉ rest

theorem net_nonpos {cs : List Change} (h : Outweighed cs) : net cs ≤ 0 := by
  cases cs with
  | nil => exact Int.le_refl 0
  | cons c cs => exact h.1

theorem empties_cons {x : Latch} {c : Change} {cs : List Change} :
    Empties x.count (c :: cs) ↔ Empties (x.step c).count cs := by
  have hnet : Outweighed cs → net cs ≤ 0 := net_nonpos
  unfold Empties
  rw [Outweighed, net]
  cases c with
  | take n =>
    simp only [Change.net, Latch.step]
    constructor
    · rintro ⟨hall, -, hrest⟩
      exact ⟨by omega, hrest⟩
    · rintro ⟨hall, hrest⟩
      exact ⟨by omega, by omega, hrest⟩
  | give n =>
    have hcount : (x.step (.give n)).count = x.count - n := by
      rw [Latch.step]
      split
      · rename_i hzero
        rw [hzero, Nat.zero_sub]
      · rfl
    rw [hcount]
    simp only [Change.net]
    constructor
    · rintro ⟨hall, -, hrest⟩
      have := hnet hrest
      exact ⟨by omega, hrest⟩
    · rintro ⟨hall, hrest⟩
      have := hnet hrest
      exact ⟨by omega, by omega, hrest⟩

/-- A first change leaves the question to the others. -/
theorem lingers_cons {x : Latch} {c : Change} {cs : List Change} :
    Lingers x (c :: cs) ↔ Lingers (x.step c) cs := by
  -- the split of the changes lies behind the first one, or is the first one
  have hlater : (∃ before rest, c :: cs = before ++ .take 0 :: rest ∧ Empties x.count before ∧
      ∀ n, .take n ∉ rest) ↔ (c = .take 0 ∧ x.count = 0 ∧ ∀ n, .take n ∉ cs) ∨
      ∃ before rest, cs = before ++ .take 0 :: rest ∧ Empties (x.step c).count before ∧
        ∀ n, .take n ∉ rest := by
    constructor
    · rintro ⟨before, rest, hsplit, hempties, hrest⟩
      cases before with
      | nil =>
        obtain ⟨rfl, rfl⟩ := List.cons.inj hsplit
        refine Or.inl ⟨rfl, ?_, hrest⟩
        have hall : (x.count : Int) + 0 ≤ 0 := hempties.1
        omega
      | cons c' before =>
        obtain ⟨rfl, rfl⟩ := List.cons.inj hsplit
        exact Or.inr ⟨before, rest, rfl, empties_cons.mp hempties, hrest⟩
    · rintro (⟨rfl, hzero, hrest⟩ | ⟨before, rest, rfl, hempties, hrest⟩)
      · refine ⟨[], cs, rfl, ?_, hrest⟩
        rw [hzero]
        exact ⟨Int.le_refl 0, trivial⟩
      · exact ⟨c :: before, rest, rfl, empties_cons.mpr hempties, hrest⟩
  unfold Lingers
  rw [hlater, ← or_assoc]
  refine or_congr_left ?_
  cases c with
  | take n =>
    simp only [Latch.step, Change.take.injEq]
    constructor
    · rintro (⟨-, -, hnone⟩ | ⟨rfl, hzero, hrest⟩)
      · exact absurd List.mem_cons_self (hnone n)
      · exact ⟨by omega, by rw [if_pos hzero], hrest⟩
    · rintro ⟨hzero, -, hrest⟩
      exact Or.inr ⟨by omega, by omega, hrest⟩
  | give n =>
    have hother : (∀ m, Change.take m ∉ Change.give n :: cs) ↔ ∀ m, .take m ∉ cs := by
      simp
    rw [hother, Latch.step]
    simp only [reduceCtorEq, false_and, or_false]
    by_cases hzero : x.count = 0
    · rw [if_pos hzero]
    · rw [if_neg hzero]
      constructor
      · exact fun h => absurd h.1 hzero
      · rintro ⟨hgone, hclosed, -⟩
        dsimp only at hgone hclosed
        rw [if_pos hgone] at hclosed
        cases hclosed

/-- **What the changes leave.**  Nothing is held and the latch is open at the end exactly if the
changes empty the count and do not linger. -/
theorem free_iff {x : Latch} {cs : List Change} :
    x.after cs = ⟨0, false⟩ ↔ Empties x.count cs ∧ ¬ Lingers x cs := by
  induction cs generalizing x with
  | nil =>
    obtain ⟨count, closed⟩ := x
    constructor
    · intro h
      cases h
      refine ⟨⟨Int.le_refl 0, trivial⟩, ?_⟩
      rintro (⟨-, hclosed, -⟩ | ⟨before, rest, hsplit, -⟩)
      · cases hclosed
      · simp at hsplit
    · rintro ⟨⟨hzero, -⟩, hlingers⟩
      have hzero : (count : Int) + 0 ≤ 0 := hzero
      obtain rfl : count = 0 := by omega
      cases closed with
      | false => rfl
      | true => exact absurd (Or.inl ⟨rfl, rfl, by simp⟩) hlingers
  | cons c cs ih =>
    rw [empties_cons, lingers_cons]
    exact ih

end CountedLatch
