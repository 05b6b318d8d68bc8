import Mathlib.Data.List.Basic
import Sm8150Common.Library.InputStream

/-! # The grab rectangle

The constructor of `AreaCapture` (`AreaCapture.cpp`, lines 34–46) reads the area above
the sensor from the property `vendor.sensors.als_correction.grabrect`.  What it read is
judged by the left coordinate alone, of which zero stands for a missing property.  The
stream is not asked whether it failed, and once it has it leaves the coordinates as they
were, which is uninitialised.

`readsGrabRect_iff` finds the properties that are read as they should be. -/
namespace SensorsHal

open InputStream (Blank Reads Scans Separated INT_MIN INT_MAX)

structure Rect where
  left : Int
  top : Int
  right : Int
  bottom : Int
  deriving DecidableEq, Repr

/-- The constructor, with what its locals happen to hold; `none` when it stops with a
fatal error. -/
def AreaCapture (grabrect : String) (left top right bottom : Int) : Option Rect :=
  let is := InputStream.ofString grabrect
  let (is, left) := is.extract INT_MIN INT_MAX left
  let (is, top) := is.extract INT_MIN INT_MAX top
  let (is, right) := is.extract INT_MIN INT_MAX right
  let (_, bottom) := is.extract INT_MIN INT_MAX bottom
  if left = 0 then none else some ⟨left, top, right, bottom⟩

section Outcome
variable {grabrect : String} {left top right bottom l t r b : Int}

theorem areaCapture_of_extractAll (h : ((InputStream.ofString grabrect).extractAll INT_MIN INT_MAX
      [left, top, right, bottom]).2 = [l, t, r, b]) :
    AreaCapture grabrect left top right bottom = if l = 0 then none else some ⟨l, t, r, b⟩ := by
  simp only [InputStream.extractAll_cons] at h
  obtain ⟨hl, htail⟩ := List.cons.inj h
  obtain ⟨ht, htail⟩ := List.cons.inj htail
  obtain ⟨hr, htail⟩ := List.cons.inj htail
  obtain ⟨hb, -⟩ := List.cons.inj htail
  unfold AreaCapture
  dsimp only
  rw [hl, ht, hr, hb]

/-- Four numbers are stored as they stand, unless the first one is zero. -/
theorem areaCapture_of_scans (h : Scans INT_MIN INT_MAX grabrect.toList [l, t, r, b]) :
    AreaCapture grabrect left top right bottom = if l = 0 then none else some ⟨l, t, r, b⟩ := by
  have hlength : [left, top, right, bottom].length = [l, t, r, b].length := rfl
  exact areaCapture_of_extractAll (InputStream.extractAll_of_scans rfl hlength h).2

/-- Without the property the rectangle is what the locals held. -/
theorem areaCapture_of_blank (hblank : Blank grabrect.toList) (hleft : left ≠ 0) :
    AreaCapture grabrect left top right bottom = some ⟨left, top, right, bottom⟩ := by
  rw [areaCapture_of_extractAll (InputStream.extractAll_of_fail_or_blank _ (.inr hblank)),
    if_neg hleft]

/-- The stream would know whether there were four numbers. -/
theorem not_fail_iff : ((InputStream.ofString grabrect).extractAll INT_MIN INT_MAX
      [left, top, right, bottom]).1.fail = false ↔
    ∃ l t r b, Scans INT_MIN INT_MAX grabrect.toList [l, t, r, b] := by
  rw [InputStream.extractAll_ok_iff]
  constructor
  · rintro ⟨-, vs, hlength, hscans⟩
    obtain ⟨l, t, r, b, rfl⟩ := List.length_eq_four.mp hlength.symm
    exact ⟨l, t, r, b, hscans⟩
  · rintro ⟨l, t, r, b, hscans⟩
    exact ⟨rfl, [l, t, r, b], rfl, hscans⟩

/-- The left coordinate is zero, or there is none: the string begins with a zero, or
with no number at all, or it is blank and the local happens to be zero. -/
def LeftZero (cs : List Char) (left : Int) : Prop :=
  Blank cs ∧ left = 0 ∨ (∃ rest, Reads cs 0 rest) ∨ ¬ Blank cs ∧ ∀ v rest, ¬ Reads cs v rest

theorem areaCapture_eq_none_iff :
    AreaCapture grabrect left top right bottom = none ↔ LeftZero grabrect.toList left := by
  have hzero : ((InputStream.ofString grabrect).extract INT_MIN INT_MAX left).2 = 0 ↔
      LeftZero grabrect.toList left :=
    InputStream.extract_eq_zero_iff left (by decide) (by decide) rfl
  rw [← hzero]
  unfold AreaCapture
  dsimp only
  split
  · next h => exact ⟨fun _ => h, fun _ => rfl⟩
  · next h => exact ⟨fun hnone => absurd hnone (Option.some_ne_none _), fun hleft => absurd hleft h⟩

end Outcome

/-- The constructor stops or stores what it has read from the string, and it does not
stop when the string begins with a rectangle. -/
structure ReadsGrabRect (grabrect : String) (left top right bottom : Int) : Prop where
  stored : ∀ rect, AreaCapture grabrect left top right bottom = some rect →
    ∃ l t r b, Scans INT_MIN INT_MAX grabrect.toList [l, t, r, b] ∧ rect = ⟨l, t, r, b⟩
  starts : ∀ l t r b, Separated INT_MIN INT_MAX grabrect.toList [l, t, r, b] →
    0 ≤ l → l < r → 0 ≤ t → t < b → AreaCapture grabrect left top right bottom ≠ none

/-- **When the grab rectangle comes from the configuration.**  For every string, and
whatever the four locals hold: if and only if the string begins with four numbers, the
first of which is not zero; or the left coordinate is zero or missing, and the string
does not begin with a rectangle at the left edge either. -/
theorem readsGrabRect_iff (grabrect : String) (left top right bottom : Int) :
    ReadsGrabRect grabrect left top right bottom ↔
      (∃ l t r b, Scans INT_MIN INT_MAX grabrect.toList [l, t, r, b] ∧ l ≠ 0) ∨
      LeftZero grabrect.toList left ∧ ¬ ∃ t r b,
        Separated INT_MIN INT_MAX grabrect.toList [0, t, r, b] ∧ 0 < r ∧ 0 ≤ t ∧ t < b := by
  constructor
  · intro hreads
    rcases hrect : AreaCapture grabrect left top right bottom with _ | rect
    · refine .inr ⟨areaCapture_eq_none_iff.mp hrect, ?_⟩
      rintro ⟨t, r, b, hsep, hr, ht, hb⟩
      exact hreads.starts 0 t r b hsep (Int.le_refl 0) hr ht hb hrect
    · obtain ⟨l, t, r, b, hscans, -⟩ := hreads.stored rect hrect
      refine .inl ⟨l, t, r, b, hscans, fun hl => ?_⟩
      rw [areaCapture_of_scans hscans, if_pos hl] at hrect
      cases hrect
  · rintro (⟨l, t, r, b, hscans, hl⟩ | ⟨hleft, hnot⟩)
    · have hrect : AreaCapture grabrect left top right bottom = some ⟨l, t, r, b⟩ := by
        rw [areaCapture_of_scans hscans, if_neg hl]
      constructor
      · intro rect hstored
        exact ⟨l, t, r, b, hscans, Option.some.inj (hstored.symm.trans hrect)⟩
      · intro _ _ _ _ _ _ _ _ _ hnone
        rw [hrect] at hnone
        cases hnone
    · have hnone : AreaCapture grabrect left top right bottom = none :=
        areaCapture_eq_none_iff.mpr hleft
      constructor
      · intro rect hstored
        rw [hnone] at hstored
        cases hstored
      · intro l t r b hsep hl hr ht hb _
        -- what the constructor stopped at is a left coordinate of zero
        have hstop : AreaCapture grabrect left top right bottom = _ :=
          areaCapture_of_scans hsep.scans
        by_cases hzero : l = 0
        · subst hzero
          exact hnot ⟨t, r, b, hsep, hr, ht, hb⟩
        · rw [hnone, if_neg hzero] at hstop
          cases hstop

/-- The property is not set, which is what the fatal error is for, and the locals hold
something else than zero. -/
theorem unset_property_is_stored :
    ¬ ∀ (grabrect : String) (left top right bottom : Int),
      ReadsGrabRect grabrect left top right bottom := by
  intro h
  have hblank : Blank "".toList := by decide
  obtain ⟨l, t, r, b, ⟨rest, hread, -⟩, -⟩ :=
    (h "" 5 6 7 8).stored _ (areaCapture_of_blank hblank (by decide))
  exact hread.not_blank hblank

end SensorsHal
