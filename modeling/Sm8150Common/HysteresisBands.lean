import Mathlib.Order.Interval.Set.Basic
import Mathlib.Order.Monotone.Defs
import Mathlib.Tactic.Linarith
import Sm8150Common.AlsCorrection

/-! # The hysteresis band of a reading

A full correction stores the band that belongs to the corrected value
(`AlsCorrection.cpp`, lines 264–270): the readings in it need no new screenshot.  The
row of the table is chosen by the corrected value, and the band is compared with raw
readings, which still have the light of the display in them.

A row reaches down to the middle of the row before it, so that the band contains the
reading that chose it; only the second row does not.  `band_contains_iff` finds the
readings that are in their own band, and so are not corrected in full when they come
again; `dim_reading_leaves_its_band` is one that is.

What `init` and `process` divide by (lines 133, 136, 147 and 234–235) is not zero here: the gains
and the maximal brightness of a calibrated device are positive, and the entries of
`rgbw_max_lux_div` are understood to be other than zero, where a float quotient has no value in
exact arithmetic. -/
namespace SensorsHal

/-! ## A table of bands -/

/-- From `below` up, each row reaches down to the middle of the row before it, and up
to its own. -/
def Stacked : WithTop Rat → List HysteresisRange → Prop
  | _, [] => True
  | below, range :: ranges => (range.min : WithTop Rat) ≤ below ∧ range.middle ≤ range.max ∧
      Stacked range.middle ranges

instance Stacked.decidable : (below : WithTop Rat) → (ranges : List HysteresisRange) →
    Decidable (Stacked below ranges)
  | _, [] => isTrue trivial
  | _, range :: ranges =>
    haveI := Stacked.decidable range.middle ranges
    inferInstanceAs (Decidable (_ ∧ _ ∧ _))

/-- The row for a value, lines 264–265. -/
def rowFor (ranges : List HysteresisRange) (value : Rat) : Option HysteresisRange :=
  ranges.find? fun range => decide ((value : WithTop Rat) ≤ range.middle)

section Row
variable {first : HysteresisRange} {ranges : List HysteresisRange} {value : Rat}

theorem rowFor_cons_of_le (h : (value : WithTop Rat) ≤ first.middle) :
    rowFor (first :: ranges) value = some first := by
  rw [rowFor, List.find?_cons, decide_eq_true h]

theorem rowFor_cons_of_not_le (h : ¬ (value : WithTop Rat) ≤ first.middle) :
    rowFor (first :: ranges) value = rowFor ranges value := by
  rw [rowFor, List.find?_cons, decide_eq_false h]
  rfl

end Row

/-- The row for a value above `below` has the value between its bounds. -/
theorem Stacked.rowFor_bounds {below : WithTop Rat} {ranges : List HysteresisRange}
    (h : Stacked below ranges) {value : Rat} (hvalue : below < value) {range : HysteresisRange}
    (hrow : rowFor ranges value = some range) :
    range.min ≤ value ∧ (value : WithTop Rat) ≤ range.max := by
  induction ranges generalizing below with
  | nil => cases hrow
  | cons first ranges ih =>
    obtain ⟨hmin, hmax, hrest⟩ := h
    by_cases hmiddle : (value : WithTop Rat) ≤ first.middle
    · rw [rowFor_cons_of_le hmiddle] at hrow
      obtain rfl := Option.some.inj hrow
      exact ⟨WithTop.coe_le_coe.mp (hmin.trans hvalue.le), hmiddle.trans hmax⟩
    · rw [rowFor_cons_of_not_le hmiddle] at hrow
      exact ih hrest (not_le.mp hmiddle) hrow

/-- Scaling leaves the choice of the row alone. -/
theorem rowFor_map_scale (gain : Rat) (ranges : List HysteresisRange) (value : Rat) :
    rowFor (ranges.map (HysteresisRange.scale gain)) value =
      (rowFor ranges value).map (HysteresisRange.scale gain) := by
  unfold rowFor
  rw [List.find?_map]
  rfl

/-- The rows of the table from the third on.  The second row does not reach down to the
middle of the first. -/
def upperRanges : List HysteresisRange := hysteresisRangesAtStart.drop 2

theorem stacked_upperRanges : Stacked (7 : Rat) upperRanges := by
  decide +kernel

/-- The last row is for all that is left. -/
theorem rowFor_upperRanges_isSome (value : Rat) : (rowFor upperRanges value).isSome = true := by
  refine List.find?_isSome.mpr ⟨⟨⊤, 8000, ⊤⟩, ?_, decide_eq_true le_top⟩
  exact List.mem_of_getLast? rfl

/-! ## The band that is stored -/

/-- The raw reading is in the band. -/
def AlsState.InBand (state : AlsState) (reading : Rat) : Prop :=
  state.hystMin ≤ reading ∧ (reading : WithTop Rat) ≤ state.hystMax

instance (state : AlsState) (reading : Rat) : Decidable (state.InBand reading) :=
  inferInstanceAs (Decidable (_ ∧ _))

/-- The table after one `init`: the first row has a new minimum. -/
theorem ranges_init (files : AlsFiles) :
    (AlsGlobals.init files AlsGlobals.start).hysteresisRanges =
      let gain := (AlsConfig.zero.init files).gain
      ⟨(0 : Rat), -1, (4 / gain : Rat)⟩ :: ⟨(7 : Rat), 1 / gain, (12 / gain : Rat)⟩ ::
        upperRanges.map (HysteresisRange.scale gain) := rfl

/-- What `storeRange` stores when it finds a row. -/
theorem AlsState.storeRange_of_row {globals : AlsGlobals} (state : AlsState) {value : Rat}
    (fullwhite : Rat) {range : HysteresisRange}
    (hrow : rowFor globals.hysteresisRanges value = some range) :
    state.storeRange globals value fullwhite =
      { state with hystMin := range.min, hystMax := range.max.map (· + fullwhite) } := by
  unfold rowFor at hrow
  rw [storeRange, hrow]

/-- What `storeRange` stores, row by row. -/
theorem storeRange_cases {globals : AlsGlobals} {files : AlsFiles}
    (hinit : globals = AlsGlobals.init files AlsGlobals.start) (state : AlsState)
    (value fullwhite : Rat) :
    let stored := state.storeRange globals value fullwhite
    let gain := globals.conf.gain
    (value ≤ 0 ∧ stored.hystMin = -1 ∧
      stored.hystMax = ((4 / gain + fullwhite : Rat) : WithTop Rat)) ∨
    (0 < value ∧ value ≤ 7 ∧ stored.hystMin = 1 / gain ∧
      stored.hystMax = ((12 / gain + fullwhite : Rat) : WithTop Rat)) ∨
    ∃ range : HysteresisRange, 7 < value ∧ range.min ≤ value ∧
      (value : WithTop Rat) ≤ range.max ∧ stored.hystMin = range.min / gain ∧
      stored.hystMax = range.max.map fun m => m / gain + fullwhite := by
  subst hinit
  intro stored gain
  have hstored : ∀ range,
      rowFor (AlsGlobals.init files AlsGlobals.start).hysteresisRanges value = some range →
      stored.hystMin = range.min ∧ stored.hystMax = range.max.map (· + fullwhite) := by
    intro range hrow
    rw [show stored = _ from state.storeRange_of_row fullwhite hrow]
    exact ⟨rfl, rfl⟩
  have htable := ranges_init files
  dsimp only at htable
  rw [htable] at hstored
  -- the rows one after the other
  by_cases hzero : value ≤ 0
  · obtain ⟨hmin, hmax⟩ := hstored _ (rowFor_cons_of_le (WithTop.coe_le_coe.mpr hzero))
    exact .inl ⟨hzero, hmin, hmax⟩
  · rw [rowFor_cons_of_not_le fun h => hzero (WithTop.coe_le_coe.mp h)] at hstored
    by_cases hseven : value ≤ 7
    · obtain ⟨hmin, hmax⟩ := hstored _ (rowFor_cons_of_le (WithTop.coe_le_coe.mpr hseven))
      exact .inr (.inl ⟨not_le.mp hzero, hseven, hmin, hmax⟩)
    · rw [rowFor_cons_of_not_le fun h => hseven (WithTop.coe_le_coe.mp h),
        rowFor_map_scale] at hstored
      obtain ⟨range, hrow⟩ := Option.isSome_iff_exists.mp (rowFor_upperRanges_isSome value)
      obtain ⟨hrowMin, hrowMax⟩ := stacked_upperRanges.rowFor_bounds
        (WithTop.coe_lt_coe.mpr (not_le.mp hseven)) hrow
      obtain ⟨hmin, hmax⟩ := hstored _ (congrArg (Option.map _) hrow)
      refine .inr (.inr ⟨range, not_le.mp hseven, hrowMin, hrowMax, hmin, hmax.trans ?_⟩)
      show WithTop.map _ (WithTop.map _ range.max) = _
      cases range.max <;> rfl

/-- **One correction**: with `correction` for the light of the display, which is at
most `fullwhite`, a reading is in the band it chooses unless it has light of its own
that is worth less than one lux before its display light is taken off. -/
theorem storeRange_inBand_iff {globals : AlsGlobals} {files : AlsFiles}
    (hinit : globals = AlsGlobals.init files AlsGlobals.start) (state : AlsState)
    (hgain : 0 < globals.conf.gain) {reading correction fullwhite : Rat}
    (hreading : 0 ≤ reading) (hcorrection : 0 ≤ correction) (hfullwhite : correction ≤ fullwhite) :
    (state.storeRange globals (max (reading - correction) 0 * globals.conf.gain)
        fullwhite).InBand reading ↔
      reading ≤ correction ∨ 1 ≤ reading * globals.conf.gain := by
  have hrows := storeRange_cases hinit state
    (max (reading - correction) 0 * globals.conf.gain) fullwhite
  dsimp only at hrows
  generalize globals.conf.gain = gain at hgain hrows ⊢
  generalize hcorrected : max (reading - correction) 0 = corrected at hrows ⊢
  have hle : reading - correction ≤ corrected := hcorrected ▸ le_max_left _ _
  have hcorrectedNonneg : 0 ≤ corrected := hcorrected ▸ le_max_right _ _
  have hat : corrected ≤ reading := hcorrected ▸ max_le (by linarith) hreading
  rcases hrows with ⟨hvalue, hmin, hmax⟩ | ⟨hpos, hvalue, hmin, hmax⟩ |
    ⟨range, hvalue, hrowMin, hrowMax, hmin, hmax⟩
  · have hzero : corrected = 0 :=
      le_antisymm (nonpos_of_mul_nonpos_left hvalue hgain) hcorrectedNonneg
    have hlight : reading ≤ correction := by linarith
    have hfour : (0 : Rat) ≤ 4 / gain := div_nonneg (by decide) hgain.le
    unfold AlsState.InBand
    rw [hmin, hmax, WithTop.coe_le_coe]
    exact ⟨fun _ => .inl hlight, fun _ => ⟨by linarith, by linarith⟩⟩
  · have hown : ¬ reading ≤ correction := by
      intro h
      have hzero : corrected = 0 := by
        rw [← hcorrected, max_eq_right (by linarith)]
      rw [hzero, zero_mul] at hpos
      exact lt_irrefl _ hpos
    have hupper : corrected ≤ 12 / gain := by
      rw [le_div_iff₀ hgain]
      linarith
    unfold AlsState.InBand
    rw [hmin, hmax, WithTop.coe_le_coe, div_le_iff₀ hgain]
    exact ⟨fun h => .inr h.1, fun h => ⟨h.resolve_left hown, by linarith⟩⟩
  · have hbright : 1 ≤ reading * gain := by
      have := mul_le_mul_of_nonneg_right hat hgain.le
      linarith
    have hlower : range.min / gain ≤ reading := by
      rw [div_le_iff₀ hgain]
      have := mul_le_mul_of_nonneg_right hat hgain.le
      linarith
    have hupper : (reading : WithTop Rat) ≤ range.max.map fun m => m / gain + fullwhite := by
      rcases hm : range.max with _ | m
      · exact le_top
      · rw [hm] at hrowMax
        have hle' : corrected * gain ≤ m := WithTop.coe_le_coe.mp hrowMax
        have hdiv : corrected ≤ m / gain := (le_div_iff₀ hgain).mpr hle'
        exact WithTop.coe_le_coe.mpr (by linarith)
    unfold AlsState.InBand
    rw [hmin, hmax]
    exact ⟨fun _ => .inr hbright, fun _ => ⟨hlower, hupper⟩⟩

/-! ## The light of the display -/

/-- What a device is calibrated with. -/
structure AlsConfig.Calibrated (conf : AlsConfig) : Prop where
  calibGain : 0 < conf.calibGain
  sensorInverseGain : ∀ i, 0 < conf.sensorInverseGain i
  maxBrightness : 0 < conf.maxBrightness
  rgbwMaxLux : ∀ i, 0 ≤ conf.rgbwMaxLux i
  bias : 0 ≤ conf.bias
  grayscaleWeights : ∀ i, 0 ≤ conf.grayscaleWeights i
  grayscaleWeights_sum :
    conf.grayscaleWeights 0 + conf.grayscaleWeights 1 + conf.grayscaleWeights 2 ≤ 1

/-- The power 2.2 is a monotone map of the unit interval into itself. -/
structure IsGamma (pow22 : Rat → Rat) : Prop where
  maps : ∀ x ∈ Set.Icc (0 : Rat) 1, pow22 x ∈ Set.Icc (0 : Rat) 1
  monotone : MonotoneOn pow22 (Set.Icc 0 1)

/-- A color with channels from 0 to 255. -/
def AreaRgbCaptureResult.InRange (screenshot : AreaRgbCaptureResult) : Prop :=
  screenshot.r ∈ Set.Icc (0 : Rat) 255 ∧ screenshot.g ∈ Set.Icc (0 : Rat) 255 ∧
    screenshot.b ∈ Set.Icc (0 : Rat) 255

section Display
variable {conf : AlsConfig} {pow22 : Rat → Rat}

theorem brightnessFullwhite_nonneg (hconf : conf.Calibrated) {brightness : Rat}
    (hbrightness : 0 ≤ brightness) : 0 ≤ brightnessFullwhite conf brightness :=
  div_nonneg (mul_nonneg (hconf.rgbwMaxLux white) hbrightness) hconf.maxBrightness.le

/-- The gray value of a color in range is in range. -/
theorem rgbwOf_white_mem (hconf : conf.Calibrated) {screenshot : AreaRgbCaptureResult}
    (hscreenshot : screenshot.InRange) : rgbwOf conf screenshot white ∈ Set.Icc (0 : Rat) 255 := by
  obtain ⟨⟨hr, hr'⟩, ⟨hg, hg'⟩, ⟨hb, hb'⟩⟩ := hscreenshot
  have hw := hconf.grayscaleWeights
  have hsum := hconf.grayscaleWeights_sum
  show screenshot.r * conf.grayscaleWeights 0 + screenshot.g * conf.grayscaleWeights 1 +
    screenshot.b * conf.grayscaleWeights 2 ∈ Set.Icc (0 : Rat) 255
  constructor
  · have := mul_nonneg hr (hw 0)
    have := mul_nonneg hg (hw 1)
    have := mul_nonneg hb (hw 2)
    linarith
  · have := mul_le_mul_of_nonneg_right hr' (hw 0)
    have := mul_le_mul_of_nonneg_right hg' (hw 1)
    have := mul_le_mul_of_nonneg_right hb' (hw 2)
    linarith

/-- The light of the display is at least none, and at most that of a white screen. -/
theorem cumulativeCorrection_mem (hconf : conf.Calibrated) (hpow : IsGamma pow22)
    {screenshot : AreaRgbCaptureResult} (hscreenshot : screenshot.InRange) {brightness : Rat}
    (hbrightness : 0 ≤ brightness) :
    cumulativeCorrection conf pow22 brightness screenshot ∈
      Set.Icc 0 (brightnessFullwhite conf brightness) := by
  have hfull := brightnessFullwhite_nonneg hconf hbrightness
  obtain ⟨hgray, hgray'⟩ := rgbwOf_white_mem hconf hscreenshot
  have hunit : rgbwOf conf screenshot white / 255 ∈ Set.Icc (0 : Rat) 1 :=
    ⟨by linarith, by linarith⟩
  obtain ⟨hgamma, hgamma'⟩ := hpow.maps _ hunit
  have hscaled := mul_nonneg hgamma hfull
  have hscaled' := mul_le_mul_of_nonneg_right hgamma' hfull
  rw [one_mul] at hscaled'
  exact ⟨le_max_of_le_right hscaled, max_le (min_le_right _ _) hscaled'⟩

/-- A reading without the bias is not negative. -/
theorem subtractBias_nonneg {event : Event} (h : 0 ≤ event.u.scalar) :
    0 ≤ (subtractBias conf event).u.scalar := by
  unfold subtractBias
  split
  · next habove => exact sub_nonneg.mpr habove.le
  · exact h

end Display

/-! ## A reading that comes again -/

namespace AlsState
variable {globals : AlsGlobals} {pow22 : Rat → Rat} {state : AlsState}

/-- `process` passes on the value it remembers, without a screenshot. -/
def Reuses (globals : AlsGlobals) (pow22 : Rat → Rat) (state : AlsState) (around : Surroundings)
    (event : Event) : Prop :=
  (state.arrive around).2 = false ∧
    ¬ (state.arrive around).1.NeedsScreenshot globals (subtractBias globals.conf event).u.scalar ∧
    (state.process globals pow22 around event).1.u.scalar = state.lastCorrectedValue

/-- The event comes 100 ms after the last one or later, and before the refresh. -/
def Steady (state : AlsState) (around : Surroundings) : Prop :=
  100000000 ≤ around.now - state.lastUpdate ∧
    ¬ (0 < around.brightness ∧ 3000000000 < around.now - state.lastForcedUpdate)

instance (state : AlsState) (around : Surroundings) : Decidable (state.Steady around) :=
  inferInstanceAs (Decidable (_ ∧ ¬ _))

/-- Nothing but times changes when an event comes in time. -/
theorem arrive_steady {around : Surroundings} (h : state.Steady around) :
    ∃ lastForcedUpdate, state.arrive around =
      ({ state with lastUpdate := around.now, lastForcedUpdate := lastForcedUpdate }, false) := by
  obtain ⟨hslow, hfresh⟩ := h
  unfold arrive
  by_cases hfirst : state.lastUpdate = 0
  · exact ⟨around.now, if_pos hfirst⟩
  · rw [if_neg hfirst, if_neg hfresh]
    dsimp only
    rw [if_neg (by omega)]
    exact ⟨_, rfl⟩

/-- An event that does not come too fast sets the time of the last one. -/
theorem arrive_lastUpdate {around : Surroundings} (h : (state.arrive around).2 = false) :
    (state.arrive around).1.lastUpdate = around.now := by
  unfold arrive at h ⊢
  by_cases hfirst : state.lastUpdate = 0
  · rw [if_pos hfirst]
  · rw [if_neg hfirst] at h ⊢
    dsimp only at h ⊢
    generalize (if 0 < around.brightness ∧ 3000000000 < around.now - state.lastForcedUpdate then
      { state with lastForcedUpdate := around.now, forceUpdate := true } else state) = forced at h ⊢
    by_cases hfast : around.now - forced.lastUpdate < 100000000
    · rw [if_pos hfast] at h
      cases h
    · rw [if_neg hfast]

theorem reuses_iff {around : Surroundings} {event : Event} (h : state.Steady around) :
    state.Reuses globals pow22 around event ↔
      ¬ state.NeedsScreenshot globals (subtractBias globals.conf event).u.scalar := by
  obtain ⟨lastForcedUpdate, harrive⟩ := arrive_steady h
  unfold Reuses process
  dsimp only
  rw [harrive]
  dsimp only
  rw [if_neg Bool.false_ne_true]
  refine ⟨fun hreuses => hreuses.2.1, fun hneeds => ⟨rfl, hneeds, ?_⟩⟩
  exact congrArg (fun passed : Event × AlsState => passed.1.u.scalar) (if_neg hneeds)

/-- No screenshot is taken in the band, and only there if the readings outside are dim. -/
theorem not_needsScreenshot_iff {reading : Rat} (hforce : state.forceUpdate = false)
    (hdim : ¬ state.InBand reading →
      reading * globals.conf.calibGain * state.lastAgcGain < 10) :
    ¬ state.NeedsScreenshot globals reading ↔ state.InBand reading := by
  constructor
  · intro hkept
    by_contra hout
    have hlow := hdim hout
    rw [InBand, not_and_or, not_le, not_le] at hout
    exact hkept (.inr ⟨hout, .inl hlow⟩)
  · rintro ⟨hmin, hmax⟩ (hforced | ⟨hlow | hhigh, -⟩)
    · rw [hforce] at hforced
      cases hforced
    · exact absurd hmin (not_le.mpr hlow)
    · exact absurd hmax (not_le.mpr hhigh)

end AlsState

/-- **When the band contains the reading that set it.**  After one `init` with a
calibrated device, for every state and everything `process` may find around a reading
that it corrects in full with the base gain: the reading, without its bias, is in the
band that is stored, and passed on without a screenshot when it comes again in time,
if and only if it is not above the light of the display, or worth one lux at least
together with it.  The entries of `rgbw_max_lux_div` are other than zero. -/
theorem band_contains_iff {files : AlsFiles} {globals : AlsGlobals} {pow22 : Rat → Rat}
    {state : AlsState} {around : Surroundings} {screenshot : AreaRgbCaptureResult} {event : Event}
    (hinit : globals = AlsGlobals.init files AlsGlobals.start) (hconf : globals.conf.Calibrated)
    (hpow : IsGamma pow22) (hshot : around.screenshot = some screenshot)
    (hrange : screenshot.InRange)
    (hbrightness : around.brightness ∈ Set.Icc 0 globals.conf.maxBrightness)
    (hreading : 0 ≤ event.u.scalar) (hfull : state.FullyCorrects globals pow22 around event)
    (hagc : (AlsState.estimate globals pow22 around.brightness screenshot
      (subtractBias globals.conf event)).agcGain = globals.conf.baseGain) :
    let next := (state.process globals pow22 around event).2
    let reading := (subtractBias globals.conf event).u.scalar
    let correction := cumulativeCorrection globals.conf pow22 around.brightness screenshot
    next.lastUpdate = around.now ∧
    (next.InBand reading ↔ reading ≤ correction ∨ 1 ≤ reading * globals.conf.gain) ∧
    ∀ later, next.Steady later → (next.Reuses globals pow22 later event ↔
      reading ≤ correction ∨ 1 ≤ reading * globals.conf.gain) := by
  intro next reading correction
  have hgain : 0 < globals.conf.gain := mul_pos hconf.calibGain (hconf.sensorInverseGain _)
  have hnonneg : 0 ≤ reading := subtractBias_nonneg hreading
  obtain ⟨hlight, hlight'⟩ := cumulativeCorrection_mem hconf hpow hrange hbrightness.1
  have hcorrected : max (reading - correction) 0 * globals.conf.calibGain * globals.conf.baseGain =
      max (reading - correction) 0 * globals.conf.gain := mul_assoc _ _ _
  have hnext : next = { (state.arrive around).1.storeRange globals
      (max (reading - correction) 0 * globals.conf.gain)
      (brightnessFullwhite globals.conf around.brightness) with
        lastAgcGain := globals.conf.baseGain
        lastCorrectedValue := max (max (reading - correction) 0 * globals.conf.gain - 14) 0
        forceUpdate := false } := by
    rw [← hcorrected, ← hagc]
    exact congrArg Prod.snd (AlsState.process_of_fullyCorrects hshot hfull)
  have hband : next.InBand reading ↔ reading ≤ correction ∨ 1 ≤ reading * globals.conf.gain := by
    rw [hnext]
    exact storeRange_inBand_iff hinit _ hgain hnonneg hlight hlight'
  refine ⟨?_, hband, fun later hlater => ?_⟩
  · rw [hnext]
    exact (AlsState.storeRange_lastUpdate ..).trans (AlsState.arrive_lastUpdate hfull.1)
  · rw [AlsState.reuses_iff hlater, ← hband]
    have hforce : next.forceUpdate = false := by rw [hnext]
    have hlast : next.lastAgcGain = globals.conf.baseGain := by rw [hnext]
    refine AlsState.not_needsScreenshot_iff hforce fun hout => ?_
    -- a reading that is out of its band is dim, so that a screenshot is taken
    have hdim : reading * globals.conf.gain < 1 := not_le.mp fun h => hout (hband.mpr (.inr h))
    have hraw : reading * globals.conf.calibGain * globals.conf.baseGain =
        reading * globals.conf.gain := mul_assoc _ _ _
    rw [hlast, hraw]
    linarith

/-- The display is at 5 and black. -/
def blackScreen (now : Int) : Surroundings := ⟨now, 5, some ⟨0, 0, 0⟩⟩

/-- A light event without a bias to take off. -/
def lightReading (scalar : Rat) : Event := ⟨7#32, SENSOR_TYPE_QTI_WISE_LIGHT, ⟨scalar, 0, 0#32⟩⟩

theorem calibrated_halfGainFiles :
    (AlsGlobals.init halfGainFiles AlsGlobals.start).conf.Calibrated := by
  refine ⟨?_, ?_, ?_, ?_, ?_, ?_, ?_⟩
  all_goals decide +kernel

theorem isGamma_id : IsGamma id := ⟨fun _ hx => hx, monotone_id.monotoneOn _⟩

theorem blackScreen_inRange : AreaRgbCaptureResult.InRange ⟨0, 0, 0⟩ := by
  refine ⟨⟨?_, ?_⟩, ⟨?_, ?_⟩, ?_, ?_⟩
  all_goals decide

/-- The reading 100, which comes again 200 ms later. -/
theorem band_contains_hundred :
    let globals := AlsGlobals.init halfGainFiles AlsGlobals.start
    (AlsState.start.process globals id (blackScreen 1) (lightReading 100)).2.Reuses globals id
      (blackScreen 200000001) (lightReading 100) :=
  ((band_contains_iff rfl calibrated_halfGainFiles isGamma_id rfl blackScreen_inRange
    ⟨by decide, by decide +kernel⟩ (by decide) (by decide +kernel) (by decide +kernel)).2.2 _
      (by decide +kernel)).mpr (.inr (by decide +kernel))

/-- The reading 1/4 is worth half a lux: it is not in the band it sets. -/
theorem dim_reading_leaves_its_band :
    ¬ ∀ (files : AlsFiles) (globals : AlsGlobals) (pow22 : Rat → Rat) (state : AlsState)
      (around : Surroundings) (screenshot : AreaRgbCaptureResult) (event : Event),
      globals = AlsGlobals.init files AlsGlobals.start → globals.conf.Calibrated →
      IsGamma pow22 → around.screenshot = some screenshot → screenshot.InRange →
      around.brightness ∈ Set.Icc 0 globals.conf.maxBrightness → 0 ≤ event.u.scalar →
      state.FullyCorrects globals pow22 around event →
      (AlsState.estimate globals pow22 around.brightness screenshot
        (subtractBias globals.conf event)).agcGain = globals.conf.baseGain →
      (state.process globals pow22 around event).2.InBand
        (subtractBias globals.conf event).u.scalar := by
  intro h
  have hband := h halfGainFiles _ id AlsState.start (blackScreen 1) ⟨0, 0, 0⟩
    (lightReading (1 / 4)) rfl calibrated_halfGainFiles isGamma_id rfl blackScreen_inRange
    ⟨by decide, by decide +kernel⟩ (by decide +kernel) (by decide +kernel) (by decide +kernel)
  exact absurd hband (by decide +kernel)

end SensorsHal
