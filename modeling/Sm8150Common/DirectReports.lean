import Sm8150Common.AnnouncedSensors

/-! # When direct reports reach the right sensor

`directReports_iff` finds the configurations in which every sensor that shows direct flags
gets its direct reports; `not_directReports_dynamic` is one in which a dynamic sensor does
not. -/
namespace SensorsHal

/-- Every dynamic sensor with direct flags that is accepted comes from the first
sub-HAL that offers direct channels, and no sensor with such flags gets the handle
-1.  Of several static sensors that are given it the last one gets it. -/
structure OneProvider (mSubHalList : List SubHal) (connections : List (Nat × List SensorInfo)) :
    Prop where
  dynamic : ∀ call ∈ connections, ∀ sensor ∈ call.2, offersDirectChannel sensor = true →
    directProvider mSubHalList = some call.1 ∧
      setSubHalIndex sensor.sensorHandle call.1 ≠ allSensorsHandle
  static : ∀ i sensor,
    ((acceptedSensors mSubHalList).reverse.find? fun e =>
      setSubHalIndex e.2.sensorHandle e.1 = allSensorsHandle) = some (i, sensor) →
    directProvider mSubHalList = some i → supportsDirectChannel sensor = false

/-- A static sensor shows direct flags if it has them and is the provider's. -/
theorem supportsDirectChannel_announced (provider : Option Nat) (i : Nat) (sensor : SensorInfo) :
    supportsDirectChannel (announced provider i sensor) = true ↔
      provider = some i ∧ supportsDirectChannel sensor = true := by
  rw [announced, supportsDirectChannel_replaceLightType]
  by_cases hprovider : provider = some i
  · rw [announcedFlags, if_pos hprovider]
    exact (and_iff_right hprovider).symm
  · rw [announcedFlags, if_neg hprovider]
    have hcleared := supportsDirectChannel_cleared (sensor.withSubHalIndex i)
    exact iff_of_false (Bool.eq_false_iff.mp hcleared) fun hboth => hprovider hboth.1

/-- The entry for the handle -1. -/
theorem OneProvider.entry {mSubHalList : List SubHal} {connections : List (Nat × List SensorInfo)}
    (hone : OneProvider mSubHalList connections) {info : SensorInfo}
    (hinfo : (HalProxy.construct mSubHalList).mSensors[allSensorsHandle]? = some info) :
    supportsDirectChannel info = false := by
  obtain ⟨⟨i, sensor⟩, hfind, rfl⟩ :=
    Option.map_eq_some_iff.mp ((getElem?_mSensors mSubHalList allSensorsHandle).symm.trans hinfo)
  refine Bool.eq_false_iff.mpr fun hflags => ?_
  obtain ⟨hprovider, hsensor⟩ := (supportsDirectChannel_announced _ _ _).mp hflags
  exact absurd hsensor (Bool.eq_false_iff.mp (hone.static i sensor hfind hprovider))

/-- A dynamic sensor with direct flags that reaches its own sub-HAL is the
provider's, and no sensor that gets the handle -1 has such flags. -/
theorem OneProvider.of_directReports {mSubHalList : List SubHal}
    {connections : List (Nat × List SensorInfo)}
    (hreports : DirectReports mSubHalList connections) :
    OneProvider mSubHalList connections := by
  constructor
  · intro call hcall sensor hsensor hoffers
    obtain ⟨hc, hflags⟩ := (Bool.and_eq_true _ _).mp hoffers
    have hmem : (call.1, sensor.withSubHalIndex call.1) ∈ dynamicCallbacks ∅ connections :=
      mem_dynamicCallbacks.mpr ⟨call, hcall, rfl, sensor, hsensor, hc, rfl⟩
    obtain ⟨hprovider, hconf⟩ := hreports _ _ _ (.dynamic hmem hc rfl) hflags
    rw [mDirectChannelSubHal_eq] at hprovider
    refine ⟨hprovider, fun hall => ?_⟩
    rw [SensorInfo.withSubHalIndex, hall] at hconf
    exact HalProxy.not_configuresAt_all _ _ _ hconf
  · intro i sensor hfind hprovider
    refine Bool.eq_false_iff.mpr fun hsensor => ?_
    -- the sensor is shown with its flags, under the handle -1
    have hinfo := (getElem?_mSensors mSubHalList allSensorsHandle).trans
      (congrArg (Option.map _) hfind)
    have hflags := (supportsDirectChannel_announced _ _ _).mpr ⟨hprovider, hsensor⟩
    obtain ⟨j, h, howner⟩ := (provenance_initializeSensorList mSubHalList).owned _ _ hinfo
    obtain ⟨-, hconf⟩ := hreports j h _ (.static hinfo howner) hflags
    rw [keyed_initializeSensorList mSubHalList _ _ hinfo] at hconf
    exact HalProxy.not_configuresAt_all _ _ _ hconf

/-- With one provider, a static sensor keeps direct flags only if it is the
provider's, and a dynamic one has them only then. -/
theorem OneProvider.directReports {mSubHalList : List SubHal}
    {connections : List (Nat × List SensorInfo)} (hone : OneProvider mSubHalList connections) :
    DirectReports mSubHalList connections := by
  have hprov := provenance_initializeSensorList mSubHalList
  intro i h info hexposed hflags
  cases hexposed with
  | static hinfo howner =>
    rename_i k
    obtain ⟨hc, hkey⟩ := hprov.key k i h howner
    have hprovider := hprov.direct k info i h hinfo howner hflags
    rw [keyed_initializeSensorList mSubHalList k info hinfo]
    refine ⟨hprovider, HalProxy.configuresAt_of_ne hprovider (fun hall => ?_) ?_⟩
    · rw [hall] at hinfo
      rw [hone.entry hinfo] at hflags
      cases hflags
    · rw [← hkey]
      exact clearSubHalIndex_setSubHalIndex hc i
  | dynamic hmem hc hhandle =>
    obtain ⟨call, hcall, rfl, sensor, hsensor, hclear, rfl⟩ := mem_dynamicCallbacks.mp hmem
    have hoffers : offersDirectChannel sensor = true :=
      (Bool.and_eq_true _ _).mpr ⟨hclear, hflags⟩
    obtain ⟨hprovider, hne⟩ := hone.dynamic call hcall sensor hsensor hoffers
    rw [← mDirectChannelSubHal_eq] at hprovider
    refine ⟨hprovider, HalProxy.configuresAt_of_ne hprovider hne ?_⟩
    rw [hhandle]
    exact clearSubHalIndex_setSubHalIndex hc call.1

/-- **When direct reports reach the right sensor.**  For every configuration of
sub-HALs and every sequence of dynamic sensors connected, the sensors shown with
direct flags are the provider's and get their direct reports, if and only if the
dynamic ones are, and none of them and no static one of the provider gets the handle
-1. -/
theorem directReports_iff (mSubHalList : List SubHal)
    (connections : List (Nat × List SensorInfo)) :
    DirectReports mSubHalList connections ↔ OneProvider mSubHalList connections :=
  ⟨OneProvider.of_directReports, OneProvider.directReports⟩

/-- Sub-HAL 0 provides direct channels; sub-HAL 1 has no static sensor. -/
def providerAndOther : List SubHal := [⟨[⟨1#32, 1, 0x400#32⟩]⟩, ⟨[]⟩]

/-- Sub-HAL 1 connects a dynamic sensor with a direct-channel flag: the framework is
shown the flag, but the sensor is not the provider's. -/
theorem not_directReports_dynamic :
    ¬ DirectReports providerAndOther [(1, [⟨1#32, 1, 0x400#32⟩])] := by
  intro hreports
  have hmem : (1, ⟨0x01000001#32, 1, 0x400#32⟩) ∈
      dynamicCallbacks ∅ [(1, [⟨1#32, 1, 0x400#32⟩])] :=
    mem_dynamicCallbacks.mpr
      ⟨_, List.mem_singleton_self _, rfl, _, List.mem_singleton_self _, by decide, by decide⟩
  have hright := hreports 1 1#32 _ (.dynamic hmem (by decide) (by decide)) (by decide)
  exact absurd hright.1 (by decide +kernel)

/-- A request for that sensor configures the sensor of sub-HAL 0 that shares its low
bits. -/
example : (HalProxy.construct providerAndOther).configDirectReport (fun _ _ => (.OK, 7))
    0x01000001#32 3#32 .FAST = ⟨.OK, 7, [(0, ⟨1#32, 3#32, .FAST⟩)]⟩ := by
  decide +kernel

end SensorsHal
