import Sm8150Common.DirectChannels

/-! # The sensors the framework is told of

`initializeSensorList` (`HalProxy.cpp`, lines 491–515) enters the accepted sensors
one by one, and `setDirectChannelFlags` looks at what has been seen so far.  The
table it ends with is nevertheless that of a single pass that knows the provider of
direct channels beforehand: `announced` is an accepted sensor as that pass enters it.

`one_direct_provider` states this, and what becomes of the flags of each accepted
sensor. -/
namespace SensorsHal

/-! ## The accepted sensors -/

/-- The sensors with a clear index byte, with the sub-HAL of each, in the order in
which they are loaded. -/
def acceptedFrom : Nat → List SubHal → List (Nat × SensorInfo)
  | _, [] => []
  | i, subHal :: subHals =>
    (subHal.sensors.filter fun sensor => subHalIndexIsClear sensor.sensorHandle).map
      (fun sensor => (i, sensor)) ++ acceptedFrom (i + 1) subHals

def acceptedSensors (mSubHalList : List SubHal) : List (Nat × SensorInfo) :=
  acceptedFrom 0 mSubHalList

theorem mem_acceptedFrom {mSubHalList : List SubHal} {i n : Nat} {sensor : SensorInfo} :
    (n, sensor) ∈ acceptedFrom i mSubHalList ↔ ∃ j subHal, n = i + j ∧
      mSubHalList[j]? = some subHal ∧ sensor ∈ subHal.sensors ∧
      subHalIndexIsClear sensor.sensorHandle = true := by
  induction mSubHalList generalizing i with
  | nil => simp [acceptedFrom]
  | cons subHal subHals ih =>
    rw [acceptedFrom, List.mem_append, ih]
    constructor
    · rintro (hmem | ⟨j, other, rfl, hother, hsensor⟩)
      · obtain ⟨found, hfound, heq⟩ := List.mem_map.mp hmem
        obtain ⟨rfl, rfl⟩ := Prod.mk.inj heq
        obtain ⟨hsensor, hclear⟩ := List.mem_filter.mp hfound
        exact ⟨0, subHal, rfl, rfl, hsensor, hclear⟩
      · exact ⟨j + 1, other, by omega, hother, hsensor⟩
    · rintro ⟨_ | j, other, rfl, hother, hsensor, hclear⟩
      · obtain rfl := Option.some.inj hother
        exact .inl (List.mem_map.mpr ⟨sensor, List.mem_filter.mpr ⟨hsensor, hclear⟩, rfl⟩)
      · exact .inr ⟨j, other, by omega, hother, hsensor, hclear⟩

theorem mem_acceptedSensors {mSubHalList : List SubHal} {i : Nat} {sensor : SensorInfo} :
    (i, sensor) ∈ acceptedSensors mSubHalList ↔ ∃ subHal, mSubHalList[i]? = some subHal ∧
      sensor ∈ subHal.sensors ∧ subHalIndexIsClear sensor.sensorHandle = true := by
  simp [acceptedSensors, mem_acceptedFrom]

/-- Loading goes through the accepted sensors only. -/
theorem SensorTable.loadSubHal_eq (i : Nat) (t : SensorTable) (sensors : List SensorInfo) :
    t.loadSubHal i sensors =
      ((sensors.filter fun sensor => subHalIndexIsClear sensor.sensorHandle).map
        fun sensor => (i, sensor)).foldl (fun t e => t.loadSensor e.1 e.2) t := by
  let accepted (sensor : SensorInfo) : Bool := subHalIndexIsClear sensor.sensorHandle
  induction sensors generalizing t with
  | nil => rfl
  | cons sensor sensors ih =>
    by_cases hclear : subHalIndexIsClear sensor.sensorHandle = true
    · rw [List.filter_cons_of_pos (p := accepted) hclear]
      exact ih (t.loadSensor i sensor)
    · rw [List.filter_cons_of_neg (p := accepted) hclear, ← ih]
      exact congrArg (fun t : SensorTable => t.loadSubHal i sensors)
        (loadSensor_of_not_clear i t hclear)

theorem SensorTable.loadFrom_eq (i : Nat) (t : SensorTable) (mSubHalList : List SubHal) :
    t.loadFrom i mSubHalList =
      (acceptedFrom i mSubHalList).foldl (fun t e => t.loadSensor e.1 e.2) t := by
  induction mSubHalList generalizing t i with
  | nil => rfl
  | cons subHal subHals ih =>
    rw [loadFrom, acceptedFrom, List.foldl_append, ih, loadSubHal_eq]

/-! ## What is entered -/

/-- The flags a sensor of sub-HAL `i` is shown with. -/
def announcedFlags (provider : Option Nat) (i : Nat) (flags : BitVec 32) : BitVec 32 :=
  if provider = some i then flags else flags &&& ~~~directChannelMask

/-- An accepted sensor of sub-HAL `i`, as the framework is told of it. -/
def announced (provider : Option Nat) (i : Nat) (sensor : SensorInfo) : SensorInfo :=
  replaceLightType
    { sensor.withSubHalIndex i with flags := announcedFlags provider i sensor.flags }

/-- An accepted sensor is entered under the handle it is given. -/
def SensorTable.enter (provider : Option Nat) (m : SensorMap) (e : Nat × SensorInfo) : SensorMap :=
  m.insert (setSubHalIndex e.2.sensorHandle e.1) (announced provider e.1 e.2)

theorem replaceLightType_flags (sensor : SensorInfo) :
    (replaceLightType sensor).flags = sensor.flags := by
  unfold replaceLightType
  split <;> rfl

theorem announced_flags (provider : Option Nat) (i : Nat) (sensor : SensorInfo) :
    (announced provider i sensor).flags = announcedFlags provider i sensor.flags :=
  replaceLightType_flags _

/-- Bit by bit, clearing the mask. -/
theorem getLsbD_announcedFlags {provider : Option Nat} {i : Nat} (h : provider ≠ some i)
    (flags : BitVec 32) (bit : Nat) :
    (announcedFlags provider i flags).getLsbD bit =
      (flags.getLsbD bit && !directChannelMask.getLsbD bit) := by
  rw [announcedFlags, if_neg h, BitVec.getLsbD_and, BitVec.getLsbD_not]
  by_cases hbit : bit < 32
  · simp [hbit]
  · rw [BitVec.getLsbD_of_ge flags bit (not_lt.mp hbit), Bool.false_and, Bool.false_and]

/-- Flags that have none of the mask's bits are shown as they are. -/
theorem announcedFlags_of_and_eq_zero {flags : BitVec 32}
    (h : flags &&& directChannelMask = 0#32) (provider : Option Nat) (i : Nat) :
    announcedFlags provider i flags = flags := by
  by_cases hprovider : provider = some i
  · exact if_pos hprovider
  · refine BitVec.eq_of_getLsbD_eq fun bit hbit => ?_
    have hand := congrArg (fun flags => flags.getLsbD bit) h
    rw [getLsbD_announcedFlags hprovider]
    rw [BitVec.getLsbD_and, BitVec.getLsbD_zero] at hand
    cases hflag : flags.getLsbD bit with
    | false => rfl
    | true => rw [hflag, Bool.true_and] at hand; rw [hand]; rfl

/-- `setDirectChannelFlags` shows a sensor as the single pass does, whatever it has
seen so far, if the provider it ends up with is the provider of the whole list. -/
theorem setDirectChannelFlags_fst {d provider : Option Nat} {sensor : SensorInfo} {i : Nat}
    (h : ∀ j, (setDirectChannelFlags d sensor i).2 = some j → provider = some j) :
    (setDirectChannelFlags d sensor i).1 =
      { sensor with flags := announcedFlags provider i sensor.flags } := by
  unfold setDirectChannelFlags at h ⊢
  dsimp only at h ⊢
  by_cases hfirst : d = none ∧ (sensor.flags &&& directChannelMask != 0#32) = true
  · -- the sensor makes its sub-HAL the provider
    rw [if_pos hfirst] at h ⊢
    rw [announcedFlags, if_pos (h i rfl)]
  · rw [if_neg hfirst] at h ⊢
    by_cases hother : d ≠ none ∧ some i ≠ d
    · rw [if_pos hother] at h ⊢
      obtain ⟨j, rfl⟩ := Option.ne_none_iff_exists'.mp hother.1
      rw [announcedFlags, h j rfl, if_neg (Ne.symm hother.2)]
    · rw [if_neg hother] at h ⊢
      rcases d with _ | j
      · -- there is no provider yet, and the sensor has nothing to clear
        have hzero : sensor.flags &&& directChannelMask = 0#32 :=
          bne_eq_false_iff_eq.mp (Bool.eq_false_iff.mpr fun hne => hfirst ⟨rfl, hne⟩)
        rw [announcedFlags_of_and_eq_zero hzero]
      · have hsame : some i = some j := Classical.not_not.mp fun hne => hother ⟨nofun, hne⟩
        rw [announcedFlags, h j rfl, if_pos hsame.symm]

/-- The provider, once there is one, stays to the end. -/
theorem SensorTable.provider_stays {j : Nat} {t : SensorTable} (l : List (Nat × SensorInfo))
    (h : t.mDirectChannelSubHal = some j) :
    (l.foldl (fun t e => t.loadSensor e.1 e.2) t).mDirectChannelSubHal = some j := by
  induction l generalizing t with
  | nil => exact h
  | cons e l ih =>
    refine ih ?_
    rw [mDirectChannelSubHal_loadSensor, h]
    rfl

/-- Loading accepted sensors is entering each as the provider has it that there is at
the end. -/
theorem SensorTable.foldl_loadSensor {provider : Option Nat} {l : List (Nat × SensorInfo)}
    (hl : ∀ e ∈ l, subHalIndexIsClear e.2.sensorHandle = true) (t : SensorTable)
    (hprovider :
      (l.foldl (fun t e => t.loadSensor e.1 e.2) t).mDirectChannelSubHal = provider) :
    (l.foldl (fun t e => t.loadSensor e.1 e.2) t).mSensors =
      l.foldl (enter provider) t.mSensors := by
  induction l generalizing t with
  | nil => rfl
  | cons e l ih =>
    obtain ⟨he, hl⟩ := List.forall_mem_cons.mp hl
    rw [List.foldl_cons, List.foldl_cons, ih hl _ hprovider]
    refine congrArg (fun m => l.foldl (enter provider) m) ?_
    have hlast : ∀ j, (setDirectChannelFlags t.mDirectChannelSubHal
        (e.2.withSubHalIndex e.1) e.1).2 = some j → provider = some j := by
      intro j hj
      rw [← (loadSensor_clear e.1 t he).1] at hj
      rw [← hprovider]
      exact provider_stays l hj
    have hshown := setDirectChannelFlags_fst hlast
    dsimp only
    rw [loadSensor, if_pos he]
    exact congrArg (fun sensor : SensorInfo =>
      t.mSensors.insert sensor.sensorHandle (replaceLightType sensor)) hshown

/-- **The table** is that of a single pass that knows the provider beforehand. -/
theorem mSensors_eq (mSubHalList : List SubHal) :
    (initializeSensorList mSubHalList).mSensors =
      (acceptedSensors mSubHalList).foldl (SensorTable.enter (directProvider mSubHalList)) ∅ := by
  have hclear : ∀ e ∈ acceptedSensors mSubHalList,
      subHalIndexIsClear e.2.sensorHandle = true := by
    intro e he
    obtain ⟨-, -, -, hclear⟩ := mem_acceptedSensors.mp he
    exact hclear
  have hprovider := mDirectChannelSubHal_eq mSubHalList
  change (initializeSensorList mSubHalList).mDirectChannelSubHal = _ at hprovider
  rw [initializeSensorList, SensorTable.loadFrom_eq] at hprovider ⊢
  exact SensorTable.foldl_loadSensor hclear SensorTable.empty hprovider

/-- The entry under a handle is that of the last accepted sensor that is given it. -/
theorem getElem?_foldl_enter (provider : Option Nat) (l : List (Nat × SensorInfo)) (m : SensorMap)
    (k : SensorHandle) :
    (l.foldl (SensorTable.enter provider) m)[k]? =
      ((l.reverse.find? fun e => setSubHalIndex e.2.sensorHandle e.1 = k).map
        fun e => announced provider e.1 e.2).or m[k]? := by
  induction l generalizing m with
  | nil => rfl
  | cons e l ih =>
    rw [List.foldl_cons, ih, List.reverse_cons, List.find?_append, Option.map_or, Option.or_assoc]
    refine congrArg _ ?_
    simp only [SensorTable.enter, Std.TreeMap.getElem?_insert, Std.LawfulEqCmp.compare_eq_iff_eq]
    by_cases hk : setSubHalIndex e.2.sensorHandle e.1 = k <;> simp [hk]

theorem getElem?_mSensors (mSubHalList : List SubHal) (k : SensorHandle) :
    (initializeSensorList mSubHalList).mSensors[k]? =
      ((acceptedSensors mSubHalList).reverse.find? fun e =>
        setSubHalIndex e.2.sensorHandle e.1 = k).map
          fun e => announced (directProvider mSubHalList) e.1 e.2 := by
  rw [mSensors_eq, getElem?_foldl_enter]
  simp

/-- **One sub-HAL provides direct channels.**  It is the first with an accepted sensor
that has any of the mask's bits.  The accepted sensors are entered one after another,
those of the provider with their flags, those of every other sub-HAL with the mask's
bits cleared and all others as they were. -/
theorem one_direct_provider (mSubHalList : List SubHal) :
    (initializeSensorList mSubHalList).mDirectChannelSubHal =
      mSubHalList.findIdx? (fun subHal => subHal.sensors.any offersDirectChannel) ∧
    (initializeSensorList mSubHalList).mSensors =
      (acceptedSensors mSubHalList).foldl (fun m e => m.insert
        (setSubHalIndex e.2.sensorHandle e.1) (announced (directProvider mSubHalList) e.1 e.2)) ∅ ∧
    ∀ i sensor, (i, sensor) ∈ acceptedSensors mSubHalList →
      (directProvider mSubHalList = some i →
        (announced (directProvider mSubHalList) i sensor).flags = sensor.flags) ∧
      (directProvider mSubHalList ≠ some i → ∀ bit,
        (announced (directProvider mSubHalList) i sensor).flags.getLsbD bit =
          (sensor.flags.getLsbD bit && !directChannelMask.getLsbD bit)) := by
  refine ⟨mDirectChannelSubHal_eq mSubHalList, mSensors_eq mSubHalList, fun i sensor _ => ?_⟩
  rw [announced_flags]
  exact ⟨fun hprovider => if_pos hprovider,
    fun hother bit => getLsbD_announcedFlags hother sensor.flags bit⟩

/-- The sensors of sub-HAL 1 come without their direct flags, whether sub-HAL 0 had
direct channels in its first sensor or in its last. -/
example : (initializeSensorList [⟨[⟨1#32, 1, 0x001#32⟩, ⟨2#32, 1, 0x400#32⟩]⟩,
      ⟨[⟨1#32, 1, 0x401#32⟩]⟩]).mSensors.toList.map (fun e => e.2.flags) =
    [0x001#32, 0x400#32, 0x001#32] := by
  decide +kernel

end SensorsHal
