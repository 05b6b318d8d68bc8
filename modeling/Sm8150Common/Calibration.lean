import Mathlib.Algebra.Order.Field.Basic
import Mathlib.Data.List.Pairwise
import Mathlib.Tactic.Linarith
import Sm8150Common.HysteresisBands

/-! # The calibration files

`AlsCorrection::init` reads the gains of the sensor and the maximum of the backlight
from files (`AlsCorrection.cpp`, lines 87–159).  A `cali_coe` counts when it is
positive, a `row_coe` when it is not zero, and `max_brightness` whatever it is.  `init`
and `process` divide by all of them.

Below, `init` and `process` are written once more with divisions that are refused
when the divisor is zero; they agree with `AlsGlobals.init` and `AlsState.process`
wherever no division is refused.  Divisions that take the `data[2]` of the event are
not looked at.  `uncorrupted_iff` finds the files with which everything stays in order. -/
namespace SensorsHal

/-! ## Divisions that can be refused -/

def divide (a b : Rat) : Option Rat := if b = 0 then none else some (a / b)

theorem divide_of_ne {a b : Rat} (h : b ≠ 0) : divide a b = some (a / b) := if_neg h

theorem divide_zero (a : Rat) : divide a 0 = none := rfl

/-- As `divide`, of a float that may be infinite. -/
def divideTop (a : WithTop Rat) (b : Rat) : Option (WithTop Rat) :=
  if b = 0 then none else some (a.map (· / b))

theorem divideTop_of_ne {a : WithTop Rat} {b : Rat} (h : b ≠ 0) :
    divideTop a b = some (a.map (· / b)) := if_neg h

namespace AlsConfig
variable (conf : AlsConfig) (files : AlsFiles)

/-- Lines 125–138. -/
def readMaxLuxChecked : Option AlsConfig := do
  let maxLux : Fin 4 → Rat := fun i =>
    let value := (files.rgbwMaxLux i).getD 0
    if value ≠ 0 then value else conf.rgbwMaxLux i
  let r ← divide (maxLux red) (conf.rgbwMaxLuxDiv red)
  let g ← divide (maxLux green) (conf.rgbwMaxLuxDiv green)
  let b ← divide (maxLux blue) (conf.rgbwMaxLuxDiv blue)
  let rgbwAcc := maxLux red + maxLux green + maxLux blue - maxLux white
  let w ← divide rgbwAcc (conf.rgbwMaxLuxDiv white)
  return { conf with
    rgbwMaxLux := maxLux
    rgbwLuxPostmul := fun
      | 0 => r
      | 1 => g
      | 2 => b
      | 3 => w }

/-- Lines 143–146. -/
def baseGainChecked : Option Rat :=
  let rowCoe := files.rowCoe.getD 0
  if rowCoe ≠ 0 then divide rowCoe 1000 else some conf.baseGain

end AlsConfig

/-- Lines 149–150. -/
def calibGainChecked (files : AlsFiles) : Option Rat :=
  let caliCoe := files.caliCoe.getD 0
  if 0 < caliCoe then divide caliCoe 1000 else some 1

namespace AlsConfig
variable (conf : AlsConfig) (files : AlsFiles)

/-- Lines 143–153, with the gain that line 151 logs. -/
def readGainsChecked : Option AlsConfig := do
  let baseGain ← conf.baseGainChecked files
  let agcThreshold ← divide 800 baseGain
  let calibGain ← calibGainChecked files
  let _logged ← divide 1 (calibGain * baseGain)
  return { conf with
    sensorInverseGain := fun i => if i.val = 0 then baseGain else conf.sensorInverseGain i
    agcThreshold := agcThreshold
    calibGain := calibGain
    maxBrightness := files.maxBrightness.getD 1023 }

end AlsConfig

def HysteresisRange.scaleChecked (gain : Rat) (range : HysteresisRange) :
    Option HysteresisRange := do
  let min ← divide range.min gain
  let max ← divideTop range.max gain
  return { range with min := min, max := max }

/-- `AlsCorrection::init`, in which no divisor may be zero. -/
def AlsGlobals.initChecked (files : AlsFiles) (globals : AlsGlobals) : Option AlsGlobals := do
  let conf ← (globals.conf.readProperties files).readMaxLuxChecked files
  let conf ← conf.readGainsChecked files
  let ranges ← globals.hysteresisRanges.mapM (HysteresisRange.scaleChecked conf.gain)
  return ⟨conf, ranges.modifyHead fun range => { range with min := -1 }⟩

/-- The light of the display and that of a white screen, lines 214–238. -/
def displayLightChecked (conf : AlsConfig) (pow22 : Rat → Rat) (brightness : Rat)
    (screenshot : AreaRgbCaptureResult) : Option (Rat × Rat) := do
  let rgbw := rgbwOf conf screenshot
  let colors := max (channelCorrection conf rgbw red) 0 +
    max (channelCorrection conf rgbw green) 0 + max (channelCorrection conf rgbw blue) 0 -
    channelCorrection conf rgbw white
  let share ← divide brightness conf.maxBrightness
  let fullwhite ← divide (conf.rgbwMaxLux white * brightness) conf.maxBrightness
  let gray ← divide (rgbw white) 255
  return (max (min (colors * share) fullwhite) (pow22 gray * fullwhite), fullwhite)

namespace AlsState
variable (globals : AlsGlobals) (pow22 : Rat → Rat) (state : AlsState)

/-- Lines 201–204; the last bound is computed only when it is asked for. -/
def needsScreenshotChecked (scalar : Rat) : Option Bool :=
  let sensorRawCalibrated := scalar * globals.conf.calibGain * state.lastAgcGain
  if state.forceUpdate = true then some true
  else if scalar < state.hystMin ∨ state.hystMax < (scalar : WithTop Rat) then
    if sensorRawCalibrated < 10 then some true
    else (divide 5 (7 / 100)).map fun limit => decide (limit < sensorRawCalibrated)
  else some false

/-- Lines 214–280, with a screenshot. -/
def correctChecked (brightness : Rat) (screenshot : AreaRgbCaptureResult) (event : Event) :
    Option (Event × AlsState) := do
  let (cumulative, fullwhite) ← displayLightChecked globals.conf pow22 brightness screenshot
  let rawCorrected := max (event.u.scalar - cumulative) 0
  let e : Estimate := ⟨cumulative, rawCorrected, agcGainOf globals.conf rawCorrected event.u.data2⟩
  if state.TrustsEstimate globals event.u.scalar e then
    let sensorCorrected := e.rawCorrected * globals.conf.calibGain * e.agcGain
    let lux := max (sensorCorrected - 14) 0
    let ranged := state.storeRange globals sensorCorrected fullwhite
    return ({ event with u := { event.u with scalar := lux } },
      { ranged with lastAgcGain := e.agcGain, lastCorrectedValue := lux, forceUpdate := false })
  else return (state.reuse event, { state with forceUpdate := false })

/-- `AlsCorrection::process`, in which no divisor may be zero. -/
def processChecked (around : Surroundings) (event : Event) : Option (Event × AlsState) :=
  let event := subtractBias globals.conf event
  let (state, tooFast) := state.arrive around
  if tooFast then some ({ event with sensorHandle := 0#32 }, state)
  else do
    let needsScreenshot ← state.needsScreenshotChecked globals event.u.scalar
    if needsScreenshot then
      match around.screenshot with
      | none => some ({ event with sensorHandle := 0#32 }, state)
      | some screenshot => state.correctChecked globals pow22 around.brightness screenshot event
    else some (state.reuse event, state)

end AlsState

/-! ## Where no division is refused -/

namespace AlsConfig

theorem readMaxLuxChecked_eq {conf : AlsConfig} (files : AlsFiles)
    (hdiv : ∀ i, conf.rgbwMaxLuxDiv i ≠ 0) :
    conf.readMaxLuxChecked files = some (conf.readMaxLux files) := by
  unfold readMaxLuxChecked
  simp only [divide_of_ne (hdiv _), Option.bind_eq_bind, Option.bind_some]
  refine congrArg some ?_
  unfold readMaxLux
  dsimp only
  congr 1
  funext i
  obtain ⟨_ | _ | _ | _ | i, hi⟩ := i
  · rfl
  · rfl
  · rfl
  · rfl
  · omega

theorem baseGainChecked_eq (conf : AlsConfig) (files : AlsFiles) :
    conf.baseGainChecked files = some ((conf.readGains files).sensorInverseGain 0) := by
  unfold baseGainChecked readGains AlsConfig.baseGain
  by_cases h : files.rowCoe.getD 0 ≠ 0
  · simp [h, divide_of_ne]
  · simp [h]

theorem calibGainChecked_eq (conf : AlsConfig) (files : AlsFiles) :
    calibGainChecked files = some (conf.readGains files).calibGain := by
  unfold calibGainChecked readGains
  dsimp only
  by_cases h : 0 < files.caliCoe.getD 0
  · rw [if_pos h, if_pos h, divide_of_ne (by decide)]
  · rw [if_neg h, if_neg h]

theorem readGainsChecked_eq {conf : AlsConfig} (files : AlsFiles)
    (hcalib : (conf.readGains files).calibGain ≠ 0)
    (hbase : (conf.readGains files).sensorInverseGain 0 ≠ 0) :
    conf.readGainsChecked files = some (conf.readGains files) := by
  unfold readGainsChecked
  rw [baseGainChecked_eq, calibGainChecked_eq conf]
  simp only [Option.bind_eq_bind, Option.bind_some, divide_of_ne hbase,
    divide_of_ne (mul_ne_zero hcalib hbase)]
  refine congrArg some ?_
  unfold readGains
  dsimp only
  congr 1
  funext i
  by_cases hi : i.val = 0
  · obtain rfl : i = 0 := Fin.ext hi
    simp
  · simp [hi]

end AlsConfig

theorem HysteresisRange.scaleChecked_eq {gain : Rat} (hgain : gain ≠ 0) :
    HysteresisRange.scaleChecked gain = fun range => some (range.scale gain) := by
  funext range
  unfold scaleChecked
  simp only [divide_of_ne hgain, divideTop_of_ne hgain, Option.bind_eq_bind, Option.bind_some]
  rfl

/-- The files decide the divisors of `init`, but for those of the properties. -/
theorem AlsGlobals.initChecked_eq {files : AlsFiles} {globals : AlsGlobals}
    (hdiv : ∀ i, (globals.conf.init files).rgbwMaxLuxDiv i ≠ 0)
    (hcalib : (globals.conf.init files).calibGain ≠ 0)
    (hbase : (globals.conf.init files).sensorInverseGain 0 ≠ 0) :
    globals.initChecked files = some (globals.init files) := by
  have hread : (globals.conf.readProperties files).readMaxLuxChecked files =
      some ((globals.conf.readProperties files).readMaxLux files) :=
    AlsConfig.readMaxLuxChecked_eq files hdiv
  have hgains : ((globals.conf.readProperties files).readMaxLux files).readGainsChecked files =
      some (globals.conf.init files) := AlsConfig.readGainsChecked_eq files hcalib hbase
  have hscale : HysteresisRange.scaleChecked (globals.conf.init files).gain =
      fun range => pure (range.scale (globals.conf.init files).gain) :=
    HysteresisRange.scaleChecked_eq (mul_ne_zero hcalib hbase)
  unfold initChecked
  rw [hread, Option.bind_eq_bind, Option.bind_some, hgains, Option.bind_eq_bind, Option.bind_some,
    hscale, List.mapM_pure]
  rfl

/-- The light of the display takes a maximum of the backlight. -/
theorem displayLightChecked_eq {conf : AlsConfig} (pow22 : Rat → Rat) (brightness : Rat)
    (screenshot : AreaRgbCaptureResult) (hmax : conf.maxBrightness ≠ 0) :
    displayLightChecked conf pow22 brightness screenshot =
      some (cumulativeCorrection conf pow22 brightness screenshot,
        brightnessFullwhite conf brightness) := by
  have hwhite : (255 : Rat) ≠ 0 := by decide
  unfold displayLightChecked
  simp only [divide_of_ne hmax, divide_of_ne hwhite, Option.bind_eq_bind, Option.bind_some]
  rfl

theorem displayLightChecked_eq_none {conf : AlsConfig} (pow22 : Rat → Rat) (brightness : Rat)
    (screenshot : AreaRgbCaptureResult) (hmax : conf.maxBrightness = 0) :
    displayLightChecked conf pow22 brightness screenshot = none := by
  unfold displayLightChecked
  dsimp only
  rw [hmax, divide_zero]
  rfl

namespace AlsState
variable {globals : AlsGlobals} (pow22 : Rat → Rat) (state : AlsState)

theorem needsScreenshotChecked_eq (scalar : Rat) :
    state.needsScreenshotChecked globals scalar =
      some (decide (state.NeedsScreenshot globals scalar)) := by
  have hlimit : (7 / 100 : Rat) ≠ 0 := by norm_num
  unfold needsScreenshotChecked NeedsScreenshot
  rw [divide_of_ne hlimit]
  dsimp only [Option.map_some]
  by_cases hforce : state.forceUpdate = true
  · simp [hforce]
  · by_cases hout : scalar < state.hystMin ∨ state.hystMax < (scalar : WithTop Rat)
    · by_cases hlow : scalar * globals.conf.calibGain * state.lastAgcGain < 10
      · simp [hforce, hout, hlow]
      · simp [hforce, hout, hlow]
    · simp [hforce, hout]

theorem correctChecked_eq (brightness : Rat) (screenshot : AreaRgbCaptureResult) (event : Event)
    (hmax : globals.conf.maxBrightness ≠ 0) :
    state.correctChecked globals pow22 brightness screenshot event =
      some (state.correct globals pow22 brightness screenshot event) := by
  unfold correctChecked
  rw [displayLightChecked_eq pow22 brightness screenshot hmax, Option.bind_eq_bind,
    Option.bind_some]
  unfold correct
  dsimp only
  split
  · next htrust => exact congrArg some (if_pos htrust).symm
  · next htrust => exact congrArg some (if_neg htrust).symm

/-- **Where `process` divides by zero**: with a maximum of zero, when an event needs
a screenshot and gets one. -/
theorem processChecked_cases (around : Surroundings) (event : Event) :
    (globals.conf.maxBrightness = 0 ∧ (state.arrive around).2 = false ∧
      (state.arrive around).1.NeedsScreenshot globals (subtractBias globals.conf event).u.scalar ∧
      around.screenshot ≠ none ∧ state.processChecked globals pow22 around event = none) ∨
    ¬ (globals.conf.maxBrightness = 0 ∧ (state.arrive around).2 = false ∧
      (state.arrive around).1.NeedsScreenshot globals (subtractBias globals.conf event).u.scalar ∧
      around.screenshot ≠ none) ∧
      state.processChecked globals pow22 around event =
        some (state.process globals pow22 around event) := by
  unfold processChecked process
  dsimp only
  generalize subtractBias globals.conf event = event
  generalize state.arrive around = arrival
  obtain ⟨arrived, tooFast⟩ := arrival
  rw [needsScreenshotChecked_eq, Option.bind_eq_bind, Option.bind_some]
  cases tooFast with
  | true => exact .inr ⟨fun h => Bool.noConfusion h.2.1, rfl⟩
  | false =>
    by_cases hneeds : arrived.NeedsScreenshot globals event.u.scalar
    · cases hshot : around.screenshot with
      | none =>
        refine .inr ⟨fun h => h.2.2.2 rfl, ?_⟩
        simp [hneeds]
      | some screenshot =>
        by_cases hmax : globals.conf.maxBrightness = 0
        · refine .inl ⟨hmax, rfl, hneeds, Option.some_ne_none _, ?_⟩
          simp [hneeds, correctChecked, displayLightChecked_eq_none _ _ _ hmax]
        · refine .inr ⟨fun h => hmax h.1, ?_⟩
          simp [hneeds, correctChecked_eq _ _ _ _ _ hmax]
    · refine .inr ⟨fun h => hneeds h.2.2.1, ?_⟩
      simp [hneeds]

end AlsState

/-! ## The table of hysteresis ranges -/

/-- No row ends before it begins, and from row to row neither end goes down. -/
structure Ordered (ranges : List HysteresisRange) : Prop where
  min_le_max : ∀ range ∈ ranges, (range.min : WithTop Rat) ≤ range.max
  rows : ranges.Pairwise fun above below => above.min ≤ below.min ∧ above.max ≤ below.max

theorem ordered_hysteresisRangesAtStart : Ordered hysteresisRangesAtStart :=
  ⟨by decide +kernel, by decide +kernel⟩

theorem div_mono {gain : Rat} (hgain : 0 < gain) : Monotone fun x : Rat => x / gain :=
  fun _ _ h => div_le_div_of_nonneg_right h hgain.le

/-- A positive gain keeps the order. -/
theorem Ordered.map_scale {gain : Rat} (hgain : 0 < gain) {ranges : List HysteresisRange}
    (h : Ordered ranges) : Ordered (ranges.map (HysteresisRange.scale gain)) := by
  have hmax := (div_mono hgain).withTop_map
  constructor
  · intro scaled hscaled
    obtain ⟨range, hmem, rfl⟩ := List.mem_map.mp hscaled
    exact hmax (h.min_le_max range hmem)
  · rw [List.pairwise_map]
    exact h.rows.imp fun hle => ⟨div_mono hgain hle.1, hmax hle.2⟩

/-- A new minimum of the first row may be as low as it wants. -/
theorem Ordered.modifyHead {ranges : List HysteresisRange} (h : Ordered ranges) {min : Rat}
    (hmin : ∀ range ∈ ranges, min ≤ range.min) :
    Ordered (ranges.modifyHead fun range => { range with min := min }) := by
  cases ranges with
  | nil => exact h
  | cons first ranges =>
    obtain ⟨hfirst, hrest⟩ := List.pairwise_cons.mp h.rows
    constructor
    · intro range hmem
      rcases List.mem_cons.mp hmem with rfl | hmem
      · exact (WithTop.coe_le_coe.mpr (hmin first List.mem_cons_self)).trans
          (h.min_le_max first List.mem_cons_self)
      · exact h.min_le_max range (List.mem_cons_of_mem _ hmem)
    · refine List.pairwise_cons.mpr ⟨fun range hmem => ?_, hrest⟩
      exact ⟨hmin range (List.mem_cons_of_mem _ hmem), (hfirst range hmem).2⟩

theorem Ordered.scaleRanges {gain : Rat} (hgain : 0 < gain) {ranges : List HysteresisRange}
    (h : Ordered ranges) (hmin : ∀ range ∈ ranges, 0 ≤ range.min) :
    Ordered (scaleRanges gain ranges) := by
  refine (h.map_scale hgain).modifyHead fun scaled hscaled => ?_
  obtain ⟨range, hmem, rfl⟩ := List.mem_map.mp hscaled
  have hnonneg : 0 ≤ range.min / gain := div_nonneg (hmin range hmem) hgain.le
  show -1 ≤ range.min / gain
  linarith

/-! ## Files that corrupt nothing -/

/-- The stream has `n` numbers, all of them positive. -/
def NumberStream.Positive (n : Nat) (s : NumberStream) : Prop :=
  ∀ i < n, ∃ value ∈ s.values[i]?, 0 < value

theorem NumberStream.Positive.into_pos {n : Nat} {s : NumberStream} (h : s.Positive n)
    (target : Fin n → Rat) (i : Fin n) : 0 < s.into target i := by
  obtain ⟨value, hvalue, hpos⟩ := h i i.isLt
  unfold NumberStream.into
  rw [Option.mem_def.mp hvalue]
  exact hpos

namespace AlsFiles

/-- The lists of the properties are there, with positive numbers. -/
structure ListsPositive (files : AlsFiles) : Prop where
  rgbwMaxLuxDiv : files.rgbwMaxLuxDiv.Positive 4
  rgbwPoly : ∀ i, (files.rgbwPoly i).Positive 4
  grayscaleWeights : files.grayscaleWeights.Positive 3
  sensorGaincalPoints : files.sensorGaincalPoints.Positive 4
  sensorInverseGain : files.sensorInverseGain.Positive 4

/-- The globals after the first `init`. -/
def globals (files : AlsFiles) : AlsGlobals := AlsGlobals.init files AlsGlobals.start

/-- After the first `init` the gains are positive and the table is in order, and
neither it nor any later `process` has a zero divisor. -/
structure Uncorrupted (files : AlsFiles) : Prop where
  calibGain : 0 < files.globals.conf.calibGain
  baseGain : 0 < files.globals.conf.sensorInverseGain 0
  ranges : Ordered files.globals.hysteresisRanges
  maxBrightness : files.globals.conf.maxBrightness ≠ 0
  init : AlsGlobals.initChecked files AlsGlobals.start = some files.globals
  process : ∀ pow22 state around event, AlsState.processChecked files.globals pow22 state around
    event = some (AlsState.process files.globals pow22 state around event)

variable (files : AlsFiles)

/-- The base gain is from the file when it has a number that is not zero. -/
theorem baseGain_cases : (files.rowCoe.getD 0 ≠ 0 ∧
      files.globals.conf.sensorInverseGain 0 = files.rowCoe.getD 0 / 1000) ∨
    files.rowCoe.getD 0 = 0 ∧ files.globals.conf.sensorInverseGain 0 =
      files.sensorInverseGain.into (fun _ : Fin 4 => 0) 0 := by
  by_cases h : files.rowCoe.getD 0 = 0
  · exact .inr ⟨h, if_neg fun hrow => hrow.2 h⟩
  · exact .inl ⟨h, if_pos ⟨rfl, h⟩⟩

variable {files}

theorem baseGain_pos_iff (h : files.ListsPositive) :
    0 < files.globals.conf.sensorInverseGain 0 ↔ 0 ≤ files.rowCoe.getD 0 := by
  rcases files.baseGain_cases with ⟨hne, hgain⟩ | ⟨hzero, hgain⟩
  · rw [hgain, lt_div_iff₀ (by norm_num), zero_mul, lt_iff_le_and_ne]
    exact ⟨And.left, fun hle => ⟨hle, hne.symm⟩⟩
  · rw [hgain, hzero]
    exact ⟨fun _ => le_rfl, fun _ => h.sensorInverseGain.into_pos _ 0⟩

theorem maxBrightness_ne_zero_iff :
    files.globals.conf.maxBrightness ≠ 0 ↔ files.maxBrightness ≠ some 0 := by
  show files.maxBrightness.getD 1023 ≠ 0 ↔ _
  cases files.maxBrightness with
  | none => simp
  | some value => simp

theorem gain_neg (hrow : files.rowCoe.getD 0 < 0) : files.globals.conf.gain < 0 := by
  rcases files.baseGain_cases with ⟨-, hgain⟩ | ⟨hzero, -⟩
  · refine mul_neg_of_pos_of_neg (AlsConfig.calibGain_pos AlsConfig.zero files) ?_
    rw [AlsConfig.baseGain, hgain]
    exact div_neg_of_neg_of_pos hrow (by norm_num)
  · exact absurd hzero hrow.ne

/-- The table is in order with a positive gain only: a negative one turns its second
row over.  (It also makes the last maximum, which stays `⊤` here, minus infinity.) -/
theorem ordered_ranges_iff (h : files.ListsPositive) :
    Ordered files.globals.hysteresisRanges ↔ 0 ≤ files.rowCoe.getD 0 := by
  constructor
  · intro hordered
    by_contra hrow
    have hgain := gain_neg (not_le.mp hrow)
    have hmem : ⟨(7 : Rat), 1 / files.globals.conf.gain, (12 / files.globals.conf.gain : Rat)⟩ ∈
        files.globals.hysteresisRanges := by
      rw [globals, ranges_init]
      exact List.mem_cons_of_mem _ List.mem_cons_self
    have hle : 1 / files.globals.conf.gain ≤ 12 / files.globals.conf.gain :=
      WithTop.coe_le_coe.mp (hordered.min_le_max _ hmem)
    rw [div_le_div_right_of_neg hgain] at hle
    exact absurd hle (by decide)
  · intro hrow
    have hgain : 0 < files.globals.conf.gain := AlsConfig.gain_pos ((baseGain_pos_iff h).mpr hrow)
    exact ordered_hysteresisRangesAtStart.scaleRanges hgain (by decide +kernel)

/-- With a maximum of zero the first event that gets a screenshot divides by zero. -/
theorem first_event_divides_by_zero (hmax : files.maxBrightness = some 0) (pow22 : Rat → Rat)
    {around : Surroundings} (hshot : around.screenshot ≠ none) (event : Event) :
    AlsState.processChecked files.globals pow22 AlsState.start around event = none := by
  have hzero : files.globals.conf.maxBrightness = 0 := by
    show files.maxBrightness.getD 1023 = 0
    rw [hmax]
    rfl
  rcases AlsState.start.processChecked_cases pow22 around event with
    ⟨-, -, -, -, hnone⟩ | ⟨hnot, -⟩
  · exact hnone
  · exact absurd ⟨hzero, rfl, .inl rfl, hshot⟩ hnot

/-- **When the calibration is safe.**  With positive lists in the properties, for every
content of the files: after the first `init` the gains are positive, the table is in
order, the maximum of the backlight is not zero, and no division by zero is made in
`init` or in any later `process`, if and only if `row_coe` is not negative and
`max_brightness` is not zero. -/
theorem uncorrupted_iff (h : files.ListsPositive) :
    files.Uncorrupted ↔ 0 ≤ files.rowCoe.getD 0 ∧ files.maxBrightness ≠ some 0 := by
  constructor
  · intro hsafe
    exact ⟨(baseGain_pos_iff h).mp hsafe.baseGain,
      maxBrightness_ne_zero_iff.mp hsafe.maxBrightness⟩
  · rintro ⟨hrow, hmax⟩
    have hcalib := AlsConfig.calibGain_pos AlsConfig.zero files
    have hbase := (baseGain_pos_iff h).mpr hrow
    have hbright := maxBrightness_ne_zero_iff.mpr hmax
    refine ⟨hcalib, hbase, (ordered_ranges_iff h).mpr hrow, hbright, ?_,
      fun pow22 state around event => ?_⟩
    · refine AlsGlobals.initChecked_eq (fun i => ?_) hcalib.ne' hbase.ne'
      exact (h.rgbwMaxLuxDiv.into_pos _ i).ne'
    · rcases state.processChecked_cases pow22 around event with ⟨hzero, -⟩ | ⟨-, heq⟩
      · exact absurd hzero hbright
      · exact heq

end AlsFiles

/-- `halfGainFiles` with polynomials whose coefficients are all one. -/
def positiveFiles : AlsFiles := { halfGainFiles with rgbwPoly := fun _ => ⟨[1, 1, 1, 1], none⟩ }

theorem listsPositive_positiveFiles : positiveFiles.ListsPositive := by
  have hones : NumberStream.Positive 4 ⟨[1, 1, 1, 1], none⟩ := by
    unfold NumberStream.Positive
    decide +kernel
  refine ⟨hones, fun _ => hones, ?_, ?_, ?_⟩
  all_goals
    unfold NumberStream.Positive
    decide +kernel

/-- Without calibration files. -/
theorem uncorrupted_positiveFiles : positiveFiles.Uncorrupted :=
  (AlsFiles.uncorrupted_iff listsPositive_positiveFiles).mpr ⟨by decide, by decide⟩

/-- A negative `row_coe` is taken, where a negative `cali_coe` is not. -/
theorem negative_row_coe_corrupts :
    ¬ ∀ files : AlsFiles, files.ListsPositive → files.Uncorrupted := by
  intro h
  obtain ⟨hdiv, hpoly, hweights, hpoints, hgains⟩ := listsPositive_positiveFiles
  have hsafe := h { positiveFiles with rowCoe := some (-1000) }
    ⟨hdiv, hpoly, hweights, hpoints, hgains⟩
  exact absurd hsafe.baseGain (by decide +kernel)

end SensorsHal
