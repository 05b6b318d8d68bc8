import Std.Data.TreeMap.Lemmas
import Sm8150Common.SensorHandle

/-! # The static sensor table

The constructor of the proxy asks every sub-HAL for its sensors and enters them
in `mSensors` under handles that carry the sub-HAL's index (`HalProxy.cpp`,
`initializeSensorList` and `setDirectChannelFlags`).  A sub-HAL is known to this
code by its position in `mSubHalList` and by the list it reports; a
`getSensorsList` call that fails reports nothing.

`mem_mSensors` is the table in one line: its keys are the encodings of what the
sub-HALs reported with a clear index byte. -/
namespace SensorsHal

/-- The order of the keys of a `std::map<int32_t, _>`. -/
def compareHandle (a b : SensorHandle) : Ordering := compare a.toInt b.toInt

instance : Std.TransCmp compareHandle where
  eq_swap {a b} :=
    (Std.OrientedCmp.eq_swap : compare a.toInt b.toInt = (compare b.toInt a.toInt).swap)
  isLE_trans {a b c} hab hbc := by
    have hint : (compare a.toInt b.toInt).isLE → (compare b.toInt c.toInt).isLE →
        (compare a.toInt c.toInt).isLE := Std.TransCmp.isLE_trans
    exact hint hab hbc

instance : Std.LawfulEqCmp compareHandle where
  eq_of_compare {_ _} h := BitVec.eq_of_toInt_eq (Std.LawfulEqCmp.eq_of_compare h)
  compare_self {a} := (Std.ReflCmp.compare_self : compare a.toInt a.toInt = .eq)

/-- `std::map<int32_t, SensorInfo>`. -/
abbrev SensorMap := Std.TreeMap SensorHandle SensorInfo compareHandle

/-- A sub-HAL, as far as the constructor sees it: the list it reports. -/
structure SubHal where
  sensors : List SensorInfo
  deriving DecidableEq, Repr

/-- What `initializeSensorList` builds: the table, the sub-HAL that provides
direct channels (by index; null is `none`) and the number of calls of
`AlsCorrection::init`. -/
structure SensorTable where
  mSensors : SensorMap
  mDirectChannelSubHal : Option Nat
  alsInits : Nat

def SensorTable.empty : SensorTable := ⟨∅, none, 0⟩

def directChannelMask : BitVec 32 :=
  SensorFlagBits.MASK_DIRECT_REPORT ||| SensorFlagBits.MASK_DIRECT_CHANNEL

/-- The sensor and `mDirectChannelSubHal` after `setDirectChannelFlags`. -/
def setDirectChannelFlags (mDirectChannelSubHal : Option Nat) (sensorInfo : SensorInfo)
    (subHal : Nat) : SensorInfo × Option Nat :=
  let sensorSupportsDirectChannel := sensorInfo.flags &&& directChannelMask != 0#32
  if mDirectChannelSubHal = none ∧ sensorSupportsDirectChannel then
    (sensorInfo, some subHal)
  else if mDirectChannelSubHal ≠ none ∧ some subHal ≠ mDirectChannelSubHal then
    ({ sensorInfo with flags := sensorInfo.flags &&& ~~~directChannelMask }, mDirectChannelSubHal)
  else
    (sensorInfo, mDirectChannelSubHal)

/-- Lines 501–502. -/
def replaceLightType (sensor : SensorInfo) : SensorInfo :=
  if sensor.type = SENSOR_TYPE_QTI_WISE_LIGHT then { sensor with type := SensorType.LIGHT }
  else sensor

/-- The body of the inner loop, lines 495–507. -/
def SensorTable.loadSensor (subHalIndex : Nat) (t : SensorTable) (sensor : SensorInfo) :
    SensorTable :=
  if subHalIndexIsClear sensor.sensorHandle then
    let stamped := { sensor with sensorHandle := setSubHalIndex sensor.sensorHandle subHalIndex }
    let flagged := setDirectChannelFlags t.mDirectChannelSubHal stamped subHalIndex
    { mSensors := t.mSensors.insert flagged.1.sensorHandle (replaceLightType flagged.1)
      mDirectChannelSubHal := flagged.2
      alsInits :=
        if flagged.1.type = SENSOR_TYPE_QTI_WISE_LIGHT then t.alsInits + 1 else t.alsInits }
  else t

/-- One round of the outer loop: the list of one sub-HAL. -/
def SensorTable.loadSubHal (subHalIndex : Nat) (t : SensorTable) (sensors : List SensorInfo) :
    SensorTable :=
  sensors.foldl (SensorTable.loadSensor subHalIndex) t

def SensorTable.loadFrom : Nat → SensorTable → List SubHal → SensorTable
  | _, t, [] => t
  | i, t, subHal :: subHals => loadFrom (i + 1) (t.loadSubHal i subHal.sensors) subHals

def initializeSensorList (mSubHalList : List SubHal) : SensorTable :=
  SensorTable.empty.loadFrom 0 mSubHalList

/-- Sub-HAL `i` reports the handle `h`, and with a clear index byte. -/
def Reports (mSubHalList : List SubHal) (i : Nat) (h : SensorHandle) : Prop :=
  subHalIndexIsClear h = true ∧
    ∃ subHal, mSubHalList[i]? = some subHal ∧ ∃ sensor ∈ subHal.sensors, sensor.sensorHandle = h

/-! ## The keys of the table -/

@[simp] theorem setDirectChannelFlags_sensorHandle (d : Option Nat) (sensor : SensorInfo)
    (i : Nat) : (setDirectChannelFlags d sensor i).1.sensorHandle = sensor.sensorHandle := by
  unfold setDirectChannelFlags
  dsimp only
  split
  · rfl
  · split <;> rfl

@[simp] theorem replaceLightType_sensorHandle (sensor : SensorInfo) :
    (replaceLightType sensor).sensorHandle = sensor.sensorHandle := by
  unfold replaceLightType
  split <;> rfl

namespace SensorTable

/-- Every entry is stored under its own handle. -/
def Keyed (t : SensorTable) : Prop :=
  ∀ (k : SensorHandle) (info : SensorInfo), t.mSensors[k]? = some info → info.sensorHandle = k

theorem keyed_empty : empty.Keyed := by
  intro k info h
  simp [empty] at h

/-- The entry made for an accepted sensor. -/
theorem loadSensor_of_clear {sensor : SensorInfo} (i : Nat) (t : SensorTable)
    (hc : subHalIndexIsClear sensor.sensorHandle = true) :
    ∃ info : SensorInfo, info.sensorHandle = setSubHalIndex sensor.sensorHandle i ∧
      (t.loadSensor i sensor).mSensors =
        t.mSensors.insert (setSubHalIndex sensor.sensorHandle i) info := by
  let stamped := { sensor with sensorHandle := setSubHalIndex sensor.sensorHandle i }
  refine ⟨replaceLightType (setDirectChannelFlags t.mDirectChannelSubHal stamped i).1, ?_, ?_⟩
  · simp [stamped]
  · simp [loadSensor, hc, stamped]

theorem loadSensor_of_not_clear {sensor : SensorInfo} (i : Nat) (t : SensorTable)
    (hc : subHalIndexIsClear sensor.sensorHandle ≠ true) : t.loadSensor i sensor = t := by
  rw [loadSensor, if_neg hc]

theorem keyed_loadSensor {t : SensorTable} (ht : t.Keyed) (i : Nat) (sensor : SensorInfo) :
    (t.loadSensor i sensor).Keyed := by
  by_cases hc : subHalIndexIsClear sensor.sensorHandle = true
  · obtain ⟨info, hinfo, hins⟩ := loadSensor_of_clear i t hc
    intro k v hv
    rw [hins, Std.TreeMap.getElem?_insert] at hv
    split at hv
    · rename_i hk
      cases hv
      rw [hinfo, Std.LawfulEqCmp.eq_of_compare hk]
    · exact ht k v hv
  · rw [loadSensor_of_not_clear i t hc]
    exact ht

theorem mem_loadSensor {t : SensorTable} {i : Nat} {sensor : SensorInfo} {k : SensorHandle} :
    k ∈ (t.loadSensor i sensor).mSensors ↔ k ∈ t.mSensors ∨
      subHalIndexIsClear sensor.sensorHandle = true ∧
        k = setSubHalIndex sensor.sensorHandle i := by
  by_cases hc : subHalIndexIsClear sensor.sensorHandle = true
  · obtain ⟨info, -, hins⟩ := loadSensor_of_clear i t hc
    rw [hins, Std.TreeMap.mem_insert, Std.LawfulEqCmp.compare_eq_iff_eq]
    simp only [hc, true_and]
    constructor
    · rintro (rfl | hk)
      · exact Or.inr rfl
      · exact Or.inl hk
    · rintro (hk | rfl)
      · exact Or.inr hk
      · exact Or.inl rfl
  · rw [loadSensor_of_not_clear i t hc]
    simp [hc]

theorem keyed_loadSubHal {t : SensorTable} (ht : t.Keyed) (i : Nat) (sensors : List SensorInfo) :
    (t.loadSubHal i sensors).Keyed := by
  induction sensors generalizing t with
  | nil => exact ht
  | cons sensor sensors ih => exact ih (keyed_loadSensor ht i sensor)

theorem mem_loadSubHal {t : SensorTable} {i : Nat} {sensors : List SensorInfo} {k : SensorHandle} :
    k ∈ (t.loadSubHal i sensors).mSensors ↔ k ∈ t.mSensors ∨
      ∃ sensor ∈ sensors, subHalIndexIsClear sensor.sensorHandle = true ∧
        k = setSubHalIndex sensor.sensorHandle i := by
  induction sensors generalizing t with
  | nil => simp [loadSubHal]
  | cons sensor sensors ih =>
    rw [loadSubHal, List.foldl_cons, ← loadSubHal, ih, mem_loadSensor, or_assoc]
    simp only [List.mem_cons, exists_eq_or_imp]

theorem keyed_loadFrom {t : SensorTable} (ht : t.Keyed) (i : Nat) (subHals : List SubHal) :
    (t.loadFrom i subHals).Keyed := by
  induction subHals generalizing t i with
  | nil => exact ht
  | cons subHal subHals ih => exact ih (keyed_loadSubHal ht i subHal.sensors) (i + 1)

theorem mem_loadFrom {t : SensorTable} {i : Nat} {subHals : List SubHal} {k : SensorHandle} :
    k ∈ (t.loadFrom i subHals).mSensors ↔ k ∈ t.mSensors ∨
      ∃ j h, Reports subHals j h ∧ k = setSubHalIndex h (i + j) := by
  induction subHals generalizing t i with
  | nil => simp [loadFrom, Reports]
  | cons subHal subHals ih =>
    rw [loadFrom, ih, mem_loadSubHal, or_assoc]
    refine or_congr_right ?_
    constructor
    · rintro (⟨sensor, hs, hc, rfl⟩ | ⟨j, h, hrep, rfl⟩)
      · exact ⟨0, _, ⟨hc, subHal, rfl, sensor, hs, rfl⟩, rfl⟩
      · exact ⟨j + 1, h, hrep, by rw [Nat.add_right_comm, Nat.add_assoc]⟩
    · rintro ⟨j, h, ⟨hc, sh, hsh, sensor, hs, rfl⟩, rfl⟩
      cases j with
      | zero =>
        cases hsh
        exact Or.inl ⟨sensor, hs, hc, rfl⟩
      | succ j =>
        exact Or.inr ⟨j, _, ⟨hc, sh, hsh, sensor, hs, rfl⟩,
          by rw [Nat.add_right_comm, Nat.add_assoc]⟩

end SensorTable

theorem keyed_initializeSensorList (mSubHalList : List SubHal) :
    (initializeSensorList mSubHalList).Keyed :=
  SensorTable.keyed_loadFrom SensorTable.keyed_empty 0 mSubHalList

/-- **The keys of the table** are the encodings of the reported handles. -/
theorem mem_mSensors {mSubHalList : List SubHal} {k : SensorHandle} :
    k ∈ (initializeSensorList mSubHalList).mSensors ↔
      ∃ i h, Reports mSubHalList i h ∧ k = setSubHalIndex h i := by
  rw [initializeSensorList, SensorTable.mem_loadFrom]
  simp [SensorTable.empty]

end SensorsHal
