import Sm8150Common.DynamicSensors
import Sm8150Common.HandleRouting

/-! # Direct channels

One sub-HAL at most provides direct channels: the first that reports a sensor with
direct-report or direct-channel flags.  `setDirectChannelFlags` clears these flags
in the static sensors of all others, so that `configDirectReport` may forward
every request to that sub-HAL without looking at the index in the handle
(`HalProxy.cpp`, lines 339–354 and 737–750).  The flags of dynamic sensors are
passed on as they are (lines 398–416).

`DirectReports` is what the framework relies on: every sensor that shows such flags gets
its direct reports.  Here the provider is followed through the loading of the sensors. -/
namespace SensorsHal

/-! ## Requests -/

inductive RateLevel
  | STOP
  | NORMAL
  | FAST
  | VERY_FAST
  deriving DecidableEq, Repr

/-- A call of `configDirectReport` into a sub-HAL. -/
structure DirectReportCall where
  sensorHandle : SensorHandle
  channelHandle : BitVec 32
  rate : RateLevel
  deriving DecidableEq, Repr

/-- The arguments of the callback, and the calls that were made. -/
structure DirectReportAnswer where
  result : Result
  reportToken : Int
  calls : List (Nat × DirectReportCall)
  deriving DecidableEq, Repr

/-- The handle -1 denotes all sensors. -/
def allSensorsHandle : SensorHandle := 0xFFFFFFFF#32

def HalProxy.configDirectReport (p : HalProxy) (reply : Nat → DirectReportCall → Result × Int)
    (sensorHandle : SensorHandle) (channelHandle : BitVec 32) (rate : RateLevel) :
    DirectReportAnswer :=
  match p.mDirectChannelSubHal with
  | none => ⟨.INVALID_OPERATION, -1, []⟩
  | some subHal =>
    if sensorHandle = allSensorsHandle ∧ rate ≠ .STOP then ⟨.BAD_VALUE, -1, []⟩
    else
      let sensorHandle :=
        if sensorHandle ≠ allSensorsHandle then clearSubHalIndex sensorHandle else sensorHandle
      let call : DirectReportCall := ⟨sensorHandle, channelHandle, rate⟩
      ⟨(reply subHal call).1, (reply subHal call).2, [(subHal, call)]⟩

/-- Direct reports for the handle `k` are configured at sub-HAL `i`, under its own
handle `h`, and nowhere else. -/
def HalProxy.ConfiguresAt (p : HalProxy) (k : SensorHandle) (i : Nat) (h : SensorHandle) : Prop :=
  ∀ reply channelHandle rate, p.configDirectReport reply k channelHandle rate =
    ⟨(reply i ⟨h, channelHandle, rate⟩).1, (reply i ⟨h, channelHandle, rate⟩).2,
      [(i, ⟨h, channelHandle, rate⟩)]⟩

theorem HalProxy.configuresAt_of_ne {p : HalProxy} {i : Nat} {k h : SensorHandle}
    (hp : p.mDirectChannelSubHal = some i) (hk : k ≠ allSensorsHandle)
    (hh : clearSubHalIndex k = h) : p.ConfiguresAt k i h := by
  intro reply channelHandle rate
  rw [configDirectReport, hp]
  dsimp only
  rw [if_neg fun hall => hk hall.1, if_pos hk, hh]

/-- A request for -1 other than to stop is turned down. -/
theorem HalProxy.not_configuresAt_all (p : HalProxy) (i : Nat) (h : SensorHandle) :
    ¬ p.ConfiguresAt allSensorsHandle i h := by
  intro hconf
  have hanswer := congrArg DirectReportAnswer.calls (hconf (fun _ _ => (.OK, 0)) 0#32 .NORMAL)
  unfold configDirectReport at hanswer
  split at hanswer
  · cases hanswer
  · rw [if_pos ⟨rfl, by decide⟩] at hanswer
    cases hanswer

/-! ## What is shown to the framework -/

/-- The sensor has direct-report or direct-channel flags. -/
def supportsDirectChannel (sensor : SensorInfo) : Bool :=
  sensor.flags &&& directChannelMask != 0#32

/-- The entry for a key, if any, is the sensor of a sub-HAL, under the handle that
the sub-HAL reported. -/
abbrev EntryOwners := SensorHandle → Option (Nat × SensorHandle)

/-- Whose the entries are after `loadSensor`. -/
def EntryOwners.loadSensor (subHalIndex : Nat) (owners : EntryOwners) (sensor : SensorInfo) :
    EntryOwners :=
  if subHalIndexIsClear sensor.sensorHandle then
    fun k =>
      if k = setSubHalIndex sensor.sensorHandle subHalIndex then
        some (subHalIndex, sensor.sensorHandle)
      else owners k
  else owners

def EntryOwners.loadFrom : Nat → EntryOwners → List SubHal → EntryOwners
  | _, owners, [] => owners
  | i, owners, subHal :: subHals =>
    loadFrom (i + 1) (subHal.sensors.foldl (EntryOwners.loadSensor i) owners) subHals

def entryOwners (mSubHalList : List SubHal) : EntryOwners :=
  EntryOwners.loadFrom 0 (fun _ => none) mSubHalList

/-- The sensors given to the framework by one connection after another, with the
sub-HAL of each. -/
def dynamicCallbacks : SensorMap → List (Nat × List SensorInfo) → List (Nat × SensorInfo)
  | _, [] => []
  | mDynamicSensors, (i, added) :: connections =>
    let (mDynamicSensors, sensors) := onDynamicSensorsConnected mDynamicSensors added i
    sensors.map (fun sensor => (i, sensor)) ++ dynamicCallbacks mDynamicSensors connections

/-- The framework is shown `info`, which is the sensor of sub-HAL `i` that calls it
`h`. -/
inductive Exposed (mSubHalList : List SubHal) (connections : List (Nat × List SensorInfo)) :
    Nat → SensorHandle → SensorInfo → Prop
  | static {k : SensorHandle} {info : SensorInfo} {i : Nat} {h : SensorHandle} :
    (HalProxy.construct mSubHalList).mSensors[k]? = some info →
    entryOwners mSubHalList k = some (i, h) → Exposed mSubHalList connections i h info
  | dynamic {i : Nat} {h : SensorHandle} {info : SensorInfo} :
    (i, info) ∈ dynamicCallbacks ∅ connections → subHalIndexIsClear h = true →
    info.sensorHandle = setSubHalIndex h i → Exposed mSubHalList connections i h info

/-- **Direct reports reach the right sensor.** -/
def DirectReports (mSubHalList : List SubHal) (connections : List (Nat × List SensorInfo)) : Prop :=
  ∀ i h info, Exposed mSubHalList connections i h info → supportsDirectChannel info = true →
    (HalProxy.construct mSubHalList).mDirectChannelSubHal = some i ∧
      (HalProxy.construct mSubHalList).ConfiguresAt info.sensorHandle i h

/-! ## The static sensors -/

/-- An accepted sensor with direct flags. -/
def offersDirectChannel (sensor : SensorInfo) : Bool :=
  subHalIndexIsClear sensor.sensorHandle && supportsDirectChannel sensor

/-- The first sub-HAL that offers direct channels. -/
def directProvider (mSubHalList : List SubHal) : Option Nat :=
  mSubHalList.findIdx? fun subHal => subHal.sensors.any offersDirectChannel

theorem supportsDirectChannel_cleared (sensor : SensorInfo) :
    supportsDirectChannel { sensor with flags := sensor.flags &&& ~~~directChannelMask } =
      false := by
  have hzero : sensor.flags &&& ~~~directChannelMask &&& directChannelMask = 0#32 := by
    rw [BitVec.and_assoc, BitVec.and_comm (~~~directChannelMask), BitVec.and_not_self]
    exact BitVec.and_zero
  rw [supportsDirectChannel, hzero]
  rfl

/-- The first sub-HAL to offer direct channels provides them. -/
theorem setDirectChannelFlags_snd (d : Option Nat) (sensor : SensorInfo) (i : Nat) :
    (setDirectChannelFlags d sensor i).2 =
      d.or (if supportsDirectChannel sensor then some i else none) := by
  unfold setDirectChannelFlags supportsDirectChannel
  dsimp only
  cases d with
  | none =>
    by_cases hs : (sensor.flags &&& directChannelMask != 0#32) = true
    · rw [if_pos ⟨rfl, hs⟩, if_pos hs]
      rfl
    · rw [if_neg (fun h => hs h.2), if_neg (fun h => h.1 rfl), if_neg hs]
      rfl
  | some j =>
    rw [if_neg (fun h => absurd h.1 (Option.some_ne_none j))]
    split <;> rfl

/-- A sensor that keeps direct flags is the provider's. -/
theorem setDirectChannelFlags_owner {d : Option Nat} {sensor : SensorInfo} {i : Nat}
    (h : supportsDirectChannel (setDirectChannelFlags d sensor i).1 = true) :
    (setDirectChannelFlags d sensor i).2 = some i := by
  unfold setDirectChannelFlags at h ⊢
  dsimp only at h ⊢
  split
  · rfl
  · rename_i hfirst
    rw [if_neg hfirst] at h
    split
    · rename_i hother
      rw [if_pos hother, supportsDirectChannel_cleared] at h
      cases h
    · rename_i hsame
      rw [if_neg hsame] at h
      have hd : d ≠ none := fun hd => hfirst ⟨hd, h⟩
      exact (Classical.not_not.mp fun hne => hsame ⟨hd, hne⟩).symm

@[simp] theorem supportsDirectChannel_replaceLightType (sensor : SensorInfo) :
    supportsDirectChannel (replaceLightType sensor) = supportsDirectChannel sensor := by
  unfold replaceLightType
  split <;> rfl

/-- Each entry has an owner, who reported it with a clear index byte, and an entry
with direct flags is the provider's. -/
structure Provenance (t : SensorTable) (owners : EntryOwners) : Prop where
  owned : ∀ (k : SensorHandle) (info : SensorInfo), t.mSensors[k]? = some info →
    ∃ i h, owners k = some (i, h)
  key : ∀ k i h, owners k = some (i, h) → subHalIndexIsClear h = true ∧ setSubHalIndex h i = k
  direct : ∀ (k : SensorHandle) (info : SensorInfo) (i : Nat) (h : SensorHandle),
    t.mSensors[k]? = some info → owners k = some (i, h) → supportsDirectChannel info = true →
    t.mDirectChannelSubHal = some i

theorem provenance_empty : Provenance SensorTable.empty fun _ => none := by
  refine ⟨?_, ?_, ?_⟩
  · intro k info h
    simp [SensorTable.empty] at h
  · intro k i h howner
    cases howner
  · intro k info i h _ howner
    cases howner

/-- The provider, once there is one, stays. -/
theorem mDirectChannelSubHal_loadSensor (i : Nat) (t : SensorTable) (sensor : SensorInfo) :
    (t.loadSensor i sensor).mDirectChannelSubHal =
      t.mDirectChannelSubHal.or (if offersDirectChannel sensor then some i else none) := by
  unfold SensorTable.loadSensor offersDirectChannel
  by_cases hc : subHalIndexIsClear sensor.sensorHandle = true
  · rw [if_pos hc, hc, Bool.true_and]
    exact setDirectChannelFlags_snd _ _ _
  · rw [if_neg hc, Bool.eq_false_iff.mpr hc, Bool.false_and]
    exact (Option.or_none).symm

/-- The sensor as `setDirectChannelFlags` gets it. -/
def SensorInfo.withSubHalIndex (sensor : SensorInfo) (i : Nat) : SensorInfo :=
  { sensor with sensorHandle := setSubHalIndex sensor.sensorHandle i }

/-- The table after an accepted sensor. -/
theorem loadSensor_clear {sensor : SensorInfo} (i : Nat) (t : SensorTable)
    (hc : subHalIndexIsClear sensor.sensorHandle = true) :
    (t.loadSensor i sensor).mDirectChannelSubHal =
        (setDirectChannelFlags t.mDirectChannelSubHal (sensor.withSubHalIndex i) i).2 ∧
      ∀ k : SensorHandle, (t.loadSensor i sensor).mSensors[k]? =
        if k = setSubHalIndex sensor.sensorHandle i then
          some (replaceLightType
            (setDirectChannelFlags t.mDirectChannelSubHal (sensor.withSubHalIndex i) i).1)
        else t.mSensors[k]? := by
  rw [SensorTable.loadSensor, if_pos hc]
  refine ⟨rfl, fun k => ?_⟩
  simp only [Std.TreeMap.getElem?_insert, Std.LawfulEqCmp.compare_eq_iff_eq,
    eq_comm (a := k), setDirectChannelFlags_sensorHandle, SensorInfo.withSubHalIndex]

/-- The owners after an accepted sensor. -/
theorem EntryOwners.loadSensor_clear {sensor : SensorInfo} (i : Nat) (owners : EntryOwners)
    (hc : subHalIndexIsClear sensor.sensorHandle = true) (k : SensorHandle) :
    owners.loadSensor i sensor k =
      if k = setSubHalIndex sensor.sensorHandle i then some (i, sensor.sensorHandle)
      else owners k := by
  rw [EntryOwners.loadSensor, if_pos hc]

theorem provenance_loadSensor {t : SensorTable} {owners : EntryOwners} (ht : Provenance t owners)
    (i : Nat) (sensor : SensorInfo) :
    Provenance (t.loadSensor i sensor) (owners.loadSensor i sensor) := by
  by_cases hc : subHalIndexIsClear sensor.sensorHandle = true
  · obtain ⟨hdirect, hentry⟩ := loadSensor_clear i t hc
    have howners := EntryOwners.loadSensor_clear i owners hc
    refine ⟨?_, ?_, ?_⟩
    · intro k info hinfo
      rw [hentry] at hinfo
      rw [howners]
      by_cases hk : k = setSubHalIndex sensor.sensorHandle i
      · exact ⟨i, _, if_pos hk⟩
      · rw [if_neg hk] at hinfo ⊢
        exact ht.owned k info hinfo
    · intro k j h howner
      rw [howners] at howner
      split at howner
      · rename_i hk
        cases howner
        exact ⟨hc, hk.symm⟩
      · exact ht.key k j h howner
    · intro k info j h hinfo howner hflags
      rw [hentry] at hinfo
      rw [howners] at howner
      rw [hdirect]
      by_cases hk : k = setSubHalIndex sensor.sensorHandle i
      · -- the new entry keeps its flags only if its sub-HAL is the provider
        rw [if_pos hk] at howner hinfo
        cases howner
        cases hinfo
        rw [supportsDirectChannel_replaceLightType] at hflags
        exact setDirectChannelFlags_owner hflags
      · -- an old one with flags is the provider's, and the provider stays
        rw [if_neg hk] at howner hinfo
        have hold := ht.direct k info j h hinfo howner hflags
        rw [setDirectChannelFlags_snd, hold]
        rfl
  · rw [SensorTable.loadSensor_of_not_clear i t hc, EntryOwners.loadSensor, if_neg hc]
    exact ht

theorem provenance_loadSubHal {t : SensorTable} {owners : EntryOwners} (ht : Provenance t owners)
    (i : Nat) (sensors : List SensorInfo) :
    Provenance (t.loadSubHal i sensors) (sensors.foldl (EntryOwners.loadSensor i) owners) := by
  induction sensors generalizing t owners with
  | nil => exact ht
  | cons sensor sensors ih => exact ih (provenance_loadSensor ht i sensor)

theorem provenance_loadFrom {t : SensorTable} {owners : EntryOwners} (ht : Provenance t owners)
    (i : Nat) (subHals : List SubHal) :
    Provenance (t.loadFrom i subHals) (owners.loadFrom i subHals) := by
  induction subHals generalizing t owners i with
  | nil => exact ht
  | cons subHal subHals ih => exact ih (provenance_loadSubHal ht i subHal.sensors) (i + 1)

theorem mDirectChannelSubHal_loadSubHal (i : Nat) (t : SensorTable) (sensors : List SensorInfo) :
    (t.loadSubHal i sensors).mDirectChannelSubHal =
      t.mDirectChannelSubHal.or (if sensors.any offersDirectChannel then some i else none) := by
  induction sensors generalizing t with
  | nil => simp [SensorTable.loadSubHal]
  | cons sensor sensors ih =>
    rw [SensorTable.loadSubHal, List.foldl_cons, ← SensorTable.loadSubHal, ih,
      mDirectChannelSubHal_loadSensor, Option.or_assoc, List.any_cons]
    cases offersDirectChannel sensor <;> simp

theorem mDirectChannelSubHal_loadFrom (i : Nat) (t : SensorTable) (subHals : List SubHal) :
    (t.loadFrom i subHals).mDirectChannelSubHal =
      t.mDirectChannelSubHal.or ((directProvider subHals).map fun j => i + j) := by
  induction subHals generalizing t i with
  | nil => simp [SensorTable.loadFrom, directProvider]
  | cons subHal subHals ih =>
    rw [SensorTable.loadFrom, ih, mDirectChannelSubHal_loadSubHal, Option.or_assoc]
    unfold directProvider
    rw [List.findIdx?_cons]
    split
    · simp
    · simp [Function.comp_def, Nat.add_assoc, Nat.add_comm 1]

/-- **The provider** is the first sub-HAL that reports an accepted sensor with
direct flags. -/
theorem mDirectChannelSubHal_eq (mSubHalList : List SubHal) :
    (HalProxy.construct mSubHalList).mDirectChannelSubHal = directProvider mSubHalList := by
  have hload := mDirectChannelSubHal_loadFrom 0 SensorTable.empty mSubHalList
  simp only [Nat.zero_add, Option.map_id'] at hload
  exact hload

theorem provenance_initializeSensorList (mSubHalList : List SubHal) :
    Provenance (initializeSensorList mSubHalList) (entryOwners mSubHalList) :=
  provenance_loadFrom provenance_empty 0 mSubHalList

/-! ## The dynamic sensors -/

theorem mem_dynamicCallbacks {m : SensorMap} {connections : List (Nat × List SensorInfo)} {i : Nat}
    {info : SensorInfo} : (i, info) ∈ dynamicCallbacks m connections ↔
      ∃ call ∈ connections, call.1 = i ∧ ∃ sensor ∈ call.2,
        subHalIndexIsClear sensor.sensorHandle = true ∧
        info = { sensor with sensorHandle := setSubHalIndex sensor.sensorHandle i } := by
  induction connections generalizing m with
  | nil => simp [dynamicCallbacks]
  | cons call connections ih =>
    obtain ⟨j, added⟩ := call
    rw [dynamicCallbacks]
    dsimp only
    rw [List.mem_append, ih, List.exists_mem_cons_iff]
    refine or_congr_left ?_
    simp only [List.mem_map, Prod.mk.injEq, mem_onDynamicSensorsConnected_snd]
    constructor
    · rintro ⟨sensor, hsensor, rfl, rfl⟩
      exact ⟨rfl, hsensor⟩
    · rintro ⟨rfl, hsensor⟩
      exact ⟨info, hsensor, rfl, rfl⟩

end SensorsHal
