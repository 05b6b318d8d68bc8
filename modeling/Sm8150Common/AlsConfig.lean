import Mathlib.Algebra.Order.Field.Power
import Mathlib.Algebra.Order.Field.Rat
import Mathlib.Order.WithBot
import Sm8150Common.SensorTable

/-! # The configuration of the light correction

`AlsCorrection::init` (`AlsCorrection.cpp`, lines 96–169) reads the properties of
the device and the calibration files into `conf`, and scales the table of
hysteresis ranges by the calibrated gain.  The constructor of the proxy calls it
for every light sensor below the display that it enters in its table.

Floats are exact numbers, of which a quotient by zero is zero; `HUGE_VALF` in the
table is `⊤`.  `init_eq_iff` finds when several calls of `init` do what one does. -/
namespace SensorsHal

/-! ## What is read -/

/-- A stream of numbers, as the operator `>>` sees it: the values it reads, and
what the extraction after them stores (nothing at the end of the stream, zero or
a limit value after a failed conversion).  Later extractions store nothing. -/
structure NumberStream where
  values : List Rat
  failed : Option Rat
  deriving DecidableEq, Repr

/-- The `n` targets of a chain of extractions. -/
def NumberStream.into {n : Nat} (s : NumberStream) (target : Fin n → Rat) : Fin n → Rat := fun i =>
  match s.values[i.val]? with
  | some value => value
  | none => if i.val = s.values.length then s.failed.getD (target i) else target i

/-- The properties `vendor.sensors.als_correction.*`, and the files below
`/proc/sensor/als_cali` and the backlight directory; a file that is missing or
has no number is `none`. -/
structure AlsFiles where
  hbr : Bool
  bias : Int
  rgbwMaxLuxDiv : NumberStream
  rgbwPoly : Fin 4 → NumberStream
  grayscaleWeights : NumberStream
  sensorGaincalPoints : NumberStream
  sensorInverseGain : NumberStream
  rgbwMaxLux : Fin 4 → Option Rat
  rowCoe : Option Rat
  caliCoe : Option Rat
  maxBrightness : Option Rat

/-! ## The configuration -/

/-- The places of `r`, `g`, `b` and the gray value in an array of four. -/
def red : Fin 4 := 0
def green : Fin 4 := 1
def blue : Fin 4 := 2
def white : Fin 4 := 3

/-- The global `conf`. -/
structure AlsConfig where
  hbr : Bool
  rgbwMaxLux : Fin 4 → Rat
  rgbwMaxLuxDiv : Fin 4 → Rat
  rgbwLuxPostmul : Fin 4 → Rat
  rgbwPoly : Fin 4 → Fin 4 → Rat
  grayscaleWeights : Fin 3 → Rat
  sensorGaincalPoints : Fin 4 → Rat
  sensorInverseGain : Fin 4 → Rat
  agcThreshold : Rat
  calibGain : Rat
  bias : Rat
  maxBrightness : Rat

/-- A row of `hysteresis_ranges`; `HUGE_VALF` is the greatest element. -/
structure HysteresisRange where
  middle : WithTop Rat
  min : Rat
  max : WithTop Rat

/-- The globals `conf` and `hysteresis_ranges`. -/
structure AlsGlobals where
  conf : AlsConfig
  hysteresisRanges : List HysteresisRange

/-- `conf` is zero before the first `init`. -/
def AlsConfig.zero : AlsConfig :=
  { hbr := false, rgbwMaxLux := fun _ => 0, rgbwMaxLuxDiv := fun _ => 0,
    rgbwLuxPostmul := fun _ => 0, rgbwPoly := fun _ _ => 0, grayscaleWeights := fun _ => 0,
    sensorGaincalPoints := fun _ => 0, sensorInverseGain := fun _ => 0, agcThreshold := 0,
    calibGain := 0, bias := 0, maxBrightness := 0 }

/-- The initial table, lines 55–69. -/
def hysteresisRangesAtStart : List HysteresisRange :=
  [⟨(0 : Rat), 0, (4 : Rat)⟩, ⟨(7 : Rat), 1, (12 : Rat)⟩, ⟨(15 : Rat), 5, (30 : Rat)⟩,
    ⟨(30 : Rat), 10, (50 : Rat)⟩, ⟨(360 : Rat), 25, (700 : Rat)⟩, ⟨(1200 : Rat), 300, (1600 : Rat)⟩,
    ⟨(2250 : Rat), 1000, (2940 : Rat)⟩, ⟨(4600 : Rat), 2000, (5900 : Rat)⟩,
    ⟨(10000 : Rat), 4000, (80000 : Rat)⟩, ⟨⊤, 8000, ⊤⟩]

/-- The globals when the program starts. -/
def AlsGlobals.start : AlsGlobals := ⟨AlsConfig.zero, hysteresisRangesAtStart⟩

/-! ## `init` -/

namespace AlsConfig
variable (conf : AlsConfig) (files : AlsFiles)

/-- Lines 99–124. -/
def readProperties : AlsConfig :=
  { conf with
    hbr := files.hbr
    bias := files.bias
    rgbwMaxLuxDiv := files.rgbwMaxLuxDiv.into conf.rgbwMaxLuxDiv
    rgbwPoly := fun i => (files.rgbwPoly i).into (conf.rgbwPoly i)
    grayscaleWeights := files.grayscaleWeights.into conf.grayscaleWeights
    sensorGaincalPoints := files.sensorGaincalPoints.into conf.sensorGaincalPoints
    sensorInverseGain := files.sensorInverseGain.into conf.sensorInverseGain }

/-- Lines 125–138.  A maximum that cannot be read, or is zero, is left as it
was; the multiplier of white is for what the colors do not add up to. -/
def readMaxLux : AlsConfig :=
  let maxLux : Fin 4 → Rat := fun i =>
    let value := (files.rgbwMaxLux i).getD 0
    if value ≠ 0 then value else conf.rgbwMaxLux i
  let rgbwAcc := maxLux red + maxLux green + maxLux blue - maxLux white
  { conf with
    rgbwMaxLux := maxLux
    rgbwLuxPostmul := fun i =>
      if i.val < 3 then maxLux i / conf.rgbwMaxLuxDiv i else rgbwAcc / conf.rgbwMaxLuxDiv i }

/-- Lines 143–153. -/
def readGains : AlsConfig :=
  let rowCoe := files.rowCoe.getD 0
  let caliCoe := files.caliCoe.getD 0
  let inverseGain : Fin 4 → Rat := fun i =>
    if i.val = 0 ∧ rowCoe ≠ 0 then rowCoe / 1000 else conf.sensorInverseGain i
  { conf with
    sensorInverseGain := inverseGain
    agcThreshold := 800 / inverseGain 0
    calibGain := if 0 < caliCoe then caliCoe / 1000 else 1
    maxBrightness := files.maxBrightness.getD 1023 }

/-- All of `init` but the table. -/
def init : AlsConfig := ((conf.readProperties files).readMaxLux files).readGains files

/-- `sensor_inverse_gain[0]`. -/
def baseGain : Rat := conf.sensorInverseGain 0

/-- The divisor of the table. -/
def gain : Rat := conf.calibGain * conf.baseGain

end AlsConfig

def HysteresisRange.scale (gain : Rat) (range : HysteresisRange) : HysteresisRange :=
  { range with min := range.min / gain, max := range.max.map (· / gain) }

/-- Lines 155–159: the table is scaled where it stands. -/
def scaleRanges (gain : Rat) (ranges : List HysteresisRange) : List HysteresisRange :=
  (ranges.map (HysteresisRange.scale gain)).modifyHead fun range => { range with min := -1 }

/-- `AlsCorrection::init`, without the connection to the capture service. -/
def AlsGlobals.init (files : AlsFiles) (globals : AlsGlobals) : AlsGlobals :=
  let conf := globals.conf.init files
  ⟨conf, scaleRanges conf.gain globals.hysteresisRanges⟩

/-! ## Reading twice is reading once -/

theorem NumberStream.into_into {n : Nat} (s : NumberStream) (target : Fin n → Rat) :
    s.into (s.into target) = s.into target := by
  funext i
  unfold NumberStream.into
  split
  · rfl
  · split
    · cases s.failed <;> rfl
    · rfl

/-- What is read is overwritten by the same, and what is not read stays. -/
theorem AlsConfig.init_init (conf : AlsConfig) (files : AlsFiles) :
    (conf.init files).init files = conf.init files := by
  have hdiv : files.rgbwMaxLuxDiv.into (files.rgbwMaxLuxDiv.into conf.rgbwMaxLuxDiv) =
      files.rgbwMaxLuxDiv.into conf.rgbwMaxLuxDiv := NumberStream.into_into _ _
  have hlux : ∀ i, (if (files.rgbwMaxLux i).getD 0 ≠ 0 then (files.rgbwMaxLux i).getD 0
      else if (files.rgbwMaxLux i).getD 0 ≠ 0 then (files.rgbwMaxLux i).getD 0
        else conf.rgbwMaxLux i) =
      if (files.rgbwMaxLux i).getD 0 ≠ 0 then (files.rgbwMaxLux i).getD 0
      else conf.rgbwMaxLux i := by
    intro i
    split <;> rfl
  have hgain : ∀ i : Fin 4, (if i.val = 0 ∧ files.rowCoe.getD 0 ≠ 0 then files.rowCoe.getD 0 / 1000
      else files.sensorInverseGain.into
        (fun i => if i.val = 0 ∧ files.rowCoe.getD 0 ≠ 0 then files.rowCoe.getD 0 / 1000
          else files.sensorInverseGain.into conf.sensorInverseGain i) i) =
      if i.val = 0 ∧ files.rowCoe.getD 0 ≠ 0 then files.rowCoe.getD 0 / 1000
      else files.sensorInverseGain.into conf.sensorInverseGain i := by
    intro i
    split
    · rfl
    · rename_i h
      unfold NumberStream.into
      dsimp only
      split
      · rfl
      · rw [if_neg h]
        split
        · cases files.sensorInverseGain.failed <;> rfl
        · rfl
  simp only [init, readProperties, readMaxLux, readGains, NumberStream.into_into, hlux, hgain]

/-! ## Initialising several times -/

/-- A sensor that `initializeSensorList` enters in the table, and for which it
calls `AlsCorrection::init`. -/
def SensorInfo.initsAls (sensor : SensorInfo) : Bool :=
  subHalIndexIsClear sensor.sensorHandle && decide (sensor.type = SENSOR_TYPE_QTI_WISE_LIGHT)

/-- The number of light sensors below the display that the sub-HALs announce. -/
def numWiseLightSensors (mSubHalList : List SubHal) : Nat :=
  (mSubHalList.map fun subHal => subHal.sensors.countP SensorInfo.initsAls).sum

@[simp] theorem setDirectChannelFlags_type (d : Option Nat) (sensor : SensorInfo) (i : Nat) :
    (setDirectChannelFlags d sensor i).1.type = sensor.type := by
  unfold setDirectChannelFlags
  dsimp only
  split
  · rfl
  · split <;> rfl

theorem alsInits_loadSensor (i : Nat) (t : SensorTable) (sensor : SensorInfo) :
    (t.loadSensor i sensor).alsInits = t.alsInits + if sensor.initsAls then 1 else 0 := by
  unfold SensorTable.loadSensor SensorInfo.initsAls
  by_cases hc : subHalIndexIsClear sensor.sensorHandle = true
  · rw [if_pos hc, hc]
    dsimp only
    rw [setDirectChannelFlags_type]
    by_cases ht : sensor.type = SENSOR_TYPE_QTI_WISE_LIGHT
    · simp [ht]
    · simp [ht]
  · simp [hc]

theorem alsInits_loadSubHal (i : Nat) (t : SensorTable) (sensors : List SensorInfo) :
    (t.loadSubHal i sensors).alsInits = t.alsInits + sensors.countP SensorInfo.initsAls := by
  induction sensors generalizing t with
  | nil => rfl
  | cons sensor sensors ih =>
    rw [SensorTable.loadSubHal, List.foldl_cons, ← SensorTable.loadSubHal, ih, alsInits_loadSensor,
      List.countP_cons]
    omega

theorem alsInits_loadFrom (i : Nat) (t : SensorTable) (subHals : List SubHal) :
    (t.loadFrom i subHals).alsInits = t.alsInits + numWiseLightSensors subHals := by
  induction subHals generalizing t i with
  | nil => rfl
  | cons subHal subHals ih =>
    rw [SensorTable.loadFrom, ih, alsInits_loadSubHal, Nat.add_assoc]
    rfl

theorem alsInits_initializeSensorList (mSubHalList : List SubHal) :
    (initializeSensorList mSubHalList).alsInits = numWiseLightSensors mSubHalList := by
  rw [initializeSensorList, alsInits_loadFrom]
  exact Nat.zero_add _

/-- The globals after the constructor of the proxy. -/
def alsGlobalsAfter (files : AlsFiles) (mSubHalList : List SubHal) : AlsGlobals :=
  (AlsGlobals.init files)^[(initializeSensorList mSubHalList).alsInits] AlsGlobals.start

/-- After the first call the configuration stays, and each call scales the table
once more. -/
theorem iterate_init (files : AlsFiles) (globals : AlsGlobals) (n : Nat) :
    (AlsGlobals.init files)^[n + 1] globals =
      ⟨globals.conf.init files,
        (scaleRanges (globals.conf.init files).gain)^[n + 1] globals.hysteresisRanges⟩ := by
  induction n with
  | zero => rfl
  | succ n ih =>
    rw [Function.iterate_succ_apply', ih, AlsGlobals.init, Function.iterate_succ_apply' _ (n + 1)]
    dsimp only
    rw [AlsConfig.init_init]

/-- A row but the first, after some scalings. -/
theorem getElem?_iterate_scaleRanges (gain : Rat) (ranges : List HysteresisRange) (n i : Nat) :
    ((scaleRanges gain)^[n] ranges)[i + 1]?.map HysteresisRange.min =
      ranges[i + 1]?.map fun range => range.min / gain ^ n := by
  induction n with
  | zero => simp
  | succ n ih =>
    rw [Function.iterate_succ_apply', scaleRanges]
    generalize (scaleRanges gain)^[n] ranges = scaled at ih
    have hrow : ((scaled.map (HysteresisRange.scale gain)).modifyHead fun range =>
        { range with min := -1 })[i + 1]? = scaled[i + 1]?.map (HysteresisRange.scale gain) := by
      cases scaled with
      | nil => rfl
      | cons range scaled => simp
    have hdiv := congrArg (Option.map (· / gain)) ih
    rw [hrow, Option.map_map]
    rw [Option.map_map, Option.map_map] at hdiv
    refine Eq.trans hdiv (congrArg (Option.map · _) ?_)
    funext range
    simp only [Function.comp_apply, pow_succ, div_div]

theorem scaleRanges_one (ranges : List HysteresisRange) :
    scaleRanges 1 (scaleRanges 1 ranges) = scaleRanges 1 ranges := by
  have hscale : HysteresisRange.scale 1 = id := by
    funext range
    have hmap : (fun x : Rat => x / 1) = id := funext div_one
    rw [HysteresisRange.scale, hmap, WithTop.map_id, div_one]
    rfl
  rw [scaleRanges, scaleRanges, hscale, List.map_id, List.map_id]
  cases ranges <;> rfl

/-- Only a positive `cali_coe` is taken. -/
theorem AlsConfig.calibGain_pos (conf : AlsConfig) (files : AlsFiles) :
    0 < (conf.init files).calibGain := by
  show 0 < if 0 < files.caliCoe.getD 0 then files.caliCoe.getD 0 / 1000 else 1
  split
  · rename_i h
    exact div_pos h (by norm_num)
  · exact one_pos

theorem AlsConfig.gain_pos {conf : AlsConfig} {files : AlsFiles}
    (hgain : 0 < (conf.init files).sensorInverseGain 0) : 0 < (conf.init files).gain :=
  mul_pos (conf.calibGain_pos files) hgain

/-- One `init` is not none: the first minimum becomes negative. -/
theorem start_ne_init (files : AlsFiles) :
    AlsGlobals.start ≠ AlsGlobals.init files AlsGlobals.start := by
  intro h
  have hmin := congrArg (fun g => g.hysteresisRanges.head?.map HysteresisRange.min) h
  have hzero : (some 0 : Option Rat) = some (-1) := hmin
  exact absurd hzero (by decide)

/-- Scaling `n` times more changes nothing only if the factor is one. -/
theorem gain_eq_one_of_iterate {gain : Rat} (hgain : 0 < gain) {n : Nat} (hn : n ≠ 0)
    (h : (scaleRanges gain)^[n + 1] hysteresisRangesAtStart =
      scaleRanges gain hysteresisRangesAtStart) : gain = 1 := by
  -- the first minimum is overwritten, so look at the second one, which is 1
  have hrow := getElem?_iterate_scaleRanges gain hysteresisRangesAtStart (n + 1) 0
  have hone := getElem?_iterate_scaleRanges gain hysteresisRangesAtStart 1 0
  rw [h] at hrow
  rw [Function.iterate_one, hrow] at hone
  have hmin : (1 : Rat) / gain ^ (n + 1) = 1 / gain ^ 1 := Option.some.inj hone
  have hpow : gain ^ (n + 1) = gain ^ 1 := by
    rwa [one_div, one_div, inv_inj] at hmin
  have hn' : gain ^ n = 1 := by
    rw [pow_succ, pow_one] at hpow
    exact (mul_eq_right₀ (ne_of_gt hgain)).mp hpow
  exact (pow_eq_one_iff_of_nonneg (le_of_lt hgain) hn).mp hn'

theorem iterate_scaleRanges_one (ranges : List HysteresisRange) (n : Nat) :
    (scaleRanges 1)^[n + 1] ranges = scaleRanges 1 ranges := by
  induction n with
  | zero => rfl
  | succ n ih => rw [Function.iterate_succ_apply', ih, scaleRanges_one]

/-- **When initialising is idempotent.**  With a positive gain, the globals after
the constructor are those after one `init` if and only if it is called once, or
at least once with the gain one. -/
theorem init_eq_iff (files : AlsFiles) (mSubHalList : List SubHal)
    (hgain : 0 < (AlsConfig.zero.init files).sensorInverseGain 0) :
    alsGlobalsAfter files mSubHalList = AlsGlobals.init files AlsGlobals.start ↔
      numWiseLightSensors mSubHalList = 1 ∨
        1 ≤ numWiseLightSensors mSubHalList ∧ (AlsConfig.zero.init files).gain = 1 := by
  rw [alsGlobalsAfter, alsInits_initializeSensorList]
  cases hn : numWiseLightSensors mSubHalList with
  | zero =>
    refine ⟨fun h => absurd h (start_ne_init files), ?_⟩
    rintro (h | ⟨h, -⟩)
    · omega
    · omega
  | succ n =>
    rw [iterate_init]
    constructor
    · -- the configurations agree anyway, so look at the tables
      intro h
      have htable := congrArg AlsGlobals.hysteresisRanges h
      by_cases hzero : n = 0
      · exact Or.inl (by omega)
      · exact Or.inr ⟨by omega, gain_eq_one_of_iterate (AlsConfig.gain_pos hgain) hzero htable⟩
    · rintro (h | ⟨-, h⟩)
      · have hzero : n = 0 := by omega
        subst hzero
        rfl
      · have hinit : AlsGlobals.start.conf.init files = AlsConfig.zero.init files := rfl
        rw [hinit, h, iterate_scaleRanges_one, AlsGlobals.init, hinit, h]

/-- A device whose sensor reads half the light, and is not calibrated further. -/
def halfGainFiles : AlsFiles where
  hbr := false
  bias := 0
  rgbwMaxLuxDiv := ⟨[1, 1, 1, 1], none⟩
  rgbwPoly _ := ⟨[0, 0, 1, 0], none⟩
  grayscaleWeights := ⟨[1 / 4, 1 / 2, 1 / 4], none⟩
  sensorGaincalPoints := ⟨[1, 2, 3, 4], none⟩
  sensorInverseGain := ⟨[2, 1, 1, 1], none⟩
  rgbwMaxLux _ := none
  rowCoe := none
  caliCoe := none
  maxBrightness := none

/-- One light sensor below the display. -/
theorem init_eq_iff_one :
    alsGlobalsAfter halfGainFiles [⟨[⟨7#32, SENSOR_TYPE_QTI_WISE_LIGHT, 0#32⟩]⟩] =
      AlsGlobals.init halfGainFiles AlsGlobals.start :=
  (init_eq_iff halfGainFiles [⟨[⟨7#32, SENSOR_TYPE_QTI_WISE_LIGHT, 0#32⟩]⟩] (by decide)).mpr
    (Or.inl (by decide))

/-- A sub-HAL announces a wake-up and a non-wake-up light sensor: the table is
scaled twice. -/
theorem init_twice_scales_twice :
    ¬ ∀ (files : AlsFiles) (mSubHalList : List SubHal),
      0 < (AlsConfig.zero.init files).calibGain →
      0 < (AlsConfig.zero.init files).sensorInverseGain 0 → 1 ≤ numWiseLightSensors mSubHalList →
      alsGlobalsAfter files mSubHalList = AlsGlobals.init files AlsGlobals.start := by
  intro h
  have heq := h halfGainFiles [⟨[⟨7#32, SENSOR_TYPE_QTI_WISE_LIGHT, 0#32⟩,
    ⟨8#32, SENSOR_TYPE_QTI_WISE_LIGHT, 1#32⟩]⟩] (by decide) (by decide) (by decide)
  have htwice : (initializeSensorList [⟨[⟨7#32, SENSOR_TYPE_QTI_WISE_LIGHT, 0#32⟩,
      ⟨8#32, SENSOR_TYPE_QTI_WISE_LIGHT, 1#32⟩]⟩]).alsInits = 1 + 1 := by
    decide
  rw [alsGlobalsAfter, htwice, iterate_init] at heq
  have hone := gain_eq_one_of_iterate (AlsConfig.gain_pos (by decide)) one_ne_zero
    (congrArg AlsGlobals.hysteresisRanges heq)
  have htwo : (AlsGlobals.start.conf.init halfGainFiles).gain = 2 := one_mul 2
  exact absurd (htwo.symm.trans hone) (by decide)

end SensorsHal
