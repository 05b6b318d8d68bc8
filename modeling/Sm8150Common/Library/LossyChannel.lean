import Sm8150Common.Library.StepMachine

/-!
# A lossy first-in first-out channel

What a bounded queue in front of a bounded reader is for, with every loss on
record.  A batch is *offered*; a prefix of it may *bypass* the queue, but only
while nothing is queued; what is left is then *accepted* into the queue as a whole
or *refused* as a whole.  Queued items are taken from the front, a chunk at a
time, and *delivered* or *lost*.

`Reachable.accounted` says what such a channel guarantees on every run: each
offered item has exactly one fate, and the items of each fate, read in the order
of the offers, are literally the lists the channel keeps.
-/

universe u

namespace LossyChannel
variable {α : Type u}

/-- What became of an offered item: it is still on its way or delivered, it was
refused on entry, or it was lost on the way out. -/
inductive Fate
  | kept
  | refused
  | lost
  deriving DecidableEq, Repr

/-- The items with fate `f`, in order. -/
def strand (f : Fate) (marks : List (Fate × α)) : List α :=
  marks.filterMap fun m => if m.1 = f then some m.2 else none

@[simp] theorem strand_nil (f : Fate) : strand f ([] : List (Fate × α)) = [] := rfl

@[simp] theorem strand_append (f : Fate) (l k : List (Fate × α)) :
    strand f (l ++ k) = strand f l ++ strand f k :=
  List.filterMap_append

/-- The items `l`, all with fate `f`. -/
def mark (f : Fate) (l : List α) : List (Fate × α) := l.map fun a => (f, a)

@[simp] theorem map_snd_mark (f : Fate) (l : List α) : (mark f l).map Prod.snd = l := by
  simp [mark, Function.comp_def]

@[simp] theorem strand_mark_self (f : Fate) (l : List α) : strand f (mark f l) = l := by
  simp only [strand, mark, List.filterMap_map, Function.comp_def, if_true]
  exact List.filterMap_some

theorem strand_mark_of_ne {f g : Fate} (h : g ≠ f) (l : List α) : strand f (mark g l) = [] := by
  simp [strand, mark, h]

/-- Each strand is a subsequence of all the items. -/
theorem strand_sublist (f : Fate) (marks : List (Fate × α)) :
    (strand f marks).Sublist (marks.map Prod.snd) := by
  induction marks with
  | nil => exact List.Sublist.refl _
  | cons m marks ih =>
    simp only [strand, List.filterMap_cons, List.map_cons] at ih ⊢
    split
    · exact ih.cons _
    · rename_i hm
      split at hm
      · cases hm; exact ih.cons_cons _
      · cases hm

/-- The strands share out the items. -/
theorem countP_strands (p : α → Bool) (marks : List (Fate × α)) :
    (marks.map Prod.snd).countP p = (strand .kept marks).countP p +
      (strand .refused marks).countP p + (strand .lost marks).countP p := by
  induction marks with
  | nil => rfl
  | cons m marks ih =>
    obtain ⟨f, a⟩ := m
    simp only [strand] at ih
    cases f <;> simp [strand, List.countP_cons, ih] <;> omega

/-- Cutting a strand cuts the marked items. -/
theorem strand_split {f : Fate} {marks : List (Fate × α)} {l k : List α}
    (h : strand f marks = l ++ k) :
    ∃ m₁ m₂, marks = m₁ ++ m₂ ∧ strand f m₁ = l ∧ strand f m₂ = k :=
  List.filterMap_eq_append_iff.mp h

/-- Items that were kept until now become lost. -/
def loseKept (m : Fate × α) : Fate × α := (if m.1 = .kept then .lost else m.1, m.2)

@[simp] theorem map_snd_loseKept (marks : List (Fate × α)) :
    (marks.map loseKept).map Prod.snd = marks.map Prod.snd := by
  simp [loseKept, Function.comp_def]

theorem strand_kept_loseKept (marks : List (Fate × α)) :
    strand .kept (marks.map loseKept) = [] := by
  induction marks with
  | nil => rfl
  | cons m marks ih =>
    obtain ⟨f, a⟩ := m
    cases f <;> simpa [strand, loseKept] using ih

theorem strand_refused_loseKept (marks : List (Fate × α)) :
    strand .refused (marks.map loseKept) = strand .refused marks := by
  induction marks with
  | nil => rfl
  | cons m marks ih =>
    obtain ⟨f, a⟩ := m
    cases f <;> simpa [strand, loseKept] using ih

theorem strand_lost_loseKept {marks : List (Fate × α)} (h : strand .lost marks = []) :
    strand .lost (marks.map loseKept) = strand .kept marks := by
  induction marks with
  | nil => rfl
  | cons m marks ih =>
    obtain ⟨f, a⟩ := m
    cases f
    · simpa [strand, loseKept] using ih (by simpa [strand] using h)
    · simpa [strand, loseKept] using ih (by simpa [strand] using h)
    · simp [strand] at h

/-! ## The channel -/

/-- `pending` is what is left of the offer that is being decided. -/
structure Channel (α : Type u) where
  offered : List α
  delivered : List α
  queued : List α
  pending : List α
  refused : List α
  lost : List α

/-- What can happen to a channel. -/
inductive Op (α : Type u)
  | offer (batch : List α)
  | bypass (n : Nat)
  | accept
  | refuse
  | deliver (n : Nat)
  | lose (n : Nat)

def step (c : Channel α) : Op α → Option (Channel α)
  | .offer batch =>
    if c.pending.isEmpty then
      some { c with offered := c.offered ++ batch, pending := batch }
    else none
  | .bypass n =>
    if c.queued.isEmpty then
      some { c with
        delivered := c.delivered ++ c.pending.take n
        pending := c.pending.drop n }
    else none
  | .accept => some { c with queued := c.queued ++ c.pending, pending := [] }
  | .refuse => some { c with refused := c.refused ++ c.pending, pending := [] }
  | .deliver n =>
    some { c with delivered := c.delivered ++ c.queued.take n, queued := c.queued.drop n }
  | .lose n => some { c with lost := c.lost ++ c.queued.take n, queued := c.queued.drop n }

/-- Channels start empty. -/
def machine (α : Type u) : StepMachine (Channel α) (Op α) where
  init c := c = ⟨[], [], [], [], [], []⟩
  step := step

/-- The accounting invariant.  `front` marks the items the queue has let
through, `mid` those it holds and those refused since; the items being decided
are the last ones offered. -/
structure Accounted (c : Channel α) (front mid : List (Fate × α)) : Prop where
  offered : c.offered = (front ++ mid).map Prod.snd ++ c.pending
  delivered : strand .kept front = c.delivered
  queued : strand .kept mid = c.queued
  refused : strand .refused (front ++ mid) = c.refused
  lost : strand .lost front = c.lost
  lost_mid : strand .lost mid = []

/-- A chunk leaves the queue: its items, and the refusals among them, go to the
front part. -/
theorem Accounted.split {c : Channel α} {front mid : List (Fate × α)} (h : Accounted c front mid)
    (n : Nat) : ∃ m₁ m₂, mid = m₁ ++ m₂ ∧ strand .kept m₁ = c.queued.take n ∧
      strand .kept m₂ = c.queued.drop n ∧ strand .lost m₁ = [] ∧ strand .lost m₂ = [] := by
  obtain ⟨m₁, m₂, rfl, h₁, h₂⟩ :=
    strand_split (h.queued.trans (List.take_append_drop n c.queued).symm)
  have hlost := h.lost_mid
  rw [strand_append, List.append_eq_nil_iff] at hlost
  exact ⟨m₁, m₂, rfl, h₁, h₂, hlost⟩

theorem accounted_step {c d : Channel α} {op : Op α} (hc : ∃ front mid, Accounted c front mid)
    (h : step c op = some d) : ∃ front mid, Accounted d front mid := by
  obtain ⟨front, mid, hc⟩ := hc
  have hoff := hc.offered
  have href := hc.refused
  cases op with
  | offer batch =>
    simp only [step, Option.ite_none_right_eq_some, List.isEmpty_iff, Option.some.injEq] at h
    obtain ⟨hnil, rfl⟩ := h
    refine ⟨front, mid, ?_, hc.delivered, hc.queued, href, hc.lost, hc.lost_mid⟩
    simp [hoff, hnil]
  | bypass n =>
    simp only [step, Option.ite_none_right_eq_some, List.isEmpty_iff, Option.some.injEq] at h
    obtain ⟨hnil, rfl⟩ := h
    -- nothing is queued, so `mid` holds refusals only and may join the front
    have hmid : strand .kept mid = [] := hc.queued.trans hnil
    refine ⟨front ++ mid ++ mark .kept (c.pending.take n), [], ?_, ?_, ?_, ?_, ?_, rfl⟩
    · simp [hoff]
    · simp [hc.delivered, hmid]
    · exact hnil.symm
    · simpa [strand_mark_of_ne] using href
    · simp [hc.lost, hc.lost_mid, strand_mark_of_ne]
  | accept =>
    cases h
    refine ⟨front, mid ++ mark .kept c.pending, ?_, hc.delivered, ?_, ?_, hc.lost, ?_⟩
    · simp [hoff]
    · simp [hc.queued]
    · simpa [strand_mark_of_ne] using href
    · simp [hc.lost_mid, strand_mark_of_ne]
  | refuse =>
    cases h
    refine ⟨front, mid ++ mark .refused c.pending, ?_, hc.delivered, ?_, ?_, hc.lost, ?_⟩
    · simp [hoff]
    · simp [hc.queued, strand_mark_of_ne]
    · rw [← href]; simp
    · simp [hc.lost_mid, strand_mark_of_ne]
  | deliver n =>
    cases h
    obtain ⟨m₁, m₂, rfl, h₁, h₂, hl₁, hl₂⟩ := hc.split n
    refine ⟨front ++ m₁, m₂, ?_, ?_, h₂, ?_, ?_, hl₂⟩
    · simpa using hoff
    · simp [hc.delivered, h₁]
    · simpa using href
    · simp [hc.lost, hl₁]
  | lose n =>
    cases h
    obtain ⟨m₁, m₂, rfl, h₁, h₂, hl₁, hl₂⟩ := hc.split n
    refine ⟨front ++ m₁.map loseKept, m₂, ?_, ?_, h₂, ?_, ?_, hl₂⟩
    · rw [List.append_assoc, List.map_append, List.map_append, map_snd_loseKept]
      simpa using hoff
    · simp [hc.delivered, strand_kept_loseKept]
    · simpa [strand_refused_loseKept] using href
    · simp [hc.lost, strand_lost_loseKept hl₁, h₁]

/-- **Every offered item has one fate.**  In every state of every run, the
offered items can be marked so that the kept ones are, in order, those delivered,
those queued and those being decided, and the refused and the lost ones are, in
order, those recorded as such. -/
theorem Reachable.accounted {c : Channel α} (h : (machine α).Reachable c) :
    ∃ marks : List (Fate × α), marks.map Prod.snd = c.offered ∧
      strand .kept marks = c.delivered ++ c.queued ++ c.pending ∧
      strand .refused marks = c.refused ∧ strand .lost marks = c.lost := by
  have hacc : ∃ front mid, Accounted c front mid := by
    refine StepMachine.Reachable.invariant (I := fun c => ∃ front mid, Accounted c front mid)
      ?_ (fun _ _ _ hs ht => accounted_step hs ht) h
    rintro _ rfl
    exact ⟨[], [], rfl, rfl, rfl, rfl, rfl, rfl⟩
  obtain ⟨front, mid, hacc⟩ := hacc
  refine ⟨front ++ mid ++ mark .kept c.pending, ?_, ?_, ?_, ?_⟩
  · simp [hacc.offered]
  · simp [hacc.delivered, hacc.queued]
  · rw [strand_append, hacc.refused, strand_mark_of_ne (by decide), List.append_nil]
  · simp [hacc.lost, hacc.lost_mid, strand_mark_of_ne]

end LossyChannel
