import Mathlib.Data.List.Nodup
import Sm8150Common.SensorTable

/-! # Requests of the framework, routed by handle

`activate`, `batch`, `flush`, `injectSensorData` and the deactivations of
`disableAllSensors` decode the sub-HAL's index from the handle, check it against
the number of sub-HALs and forward the request with the index cleared
(`HalProxy.cpp`, lines 163–169, 279–317, 563–573 and 752–773).

A request answers with its result and the calls it made, each with the index of
the sub-HAL that was called; what a sub-HAL returns is up to it (`reply`).  An
access to `mSubHalList` beyond its end, which C++ leaves undefined, is `none`. -/
namespace SensorsHal

/-- A call into a sub-HAL. -/
inductive SubHalCall
  | activate (sensorHandle : SensorHandle) (enabled : Bool)
  | batch (sensorHandle : SensorHandle) (samplingPeriodNs maxReportLatencyNs : Int)
  | flush (sensorHandle : SensorHandle)
  | injectSensorData (event : Event)
  deriving DecidableEq, Repr

/-- The result of a request and the calls it made. -/
structure Answer where
  result : Result
  calls : List (Nat × SubHalCall)
  deriving DecidableEq, Repr

/-- The state of the proxy its framework-facing methods use. -/
structure HalProxy where
  mSubHalList : List SubHal
  mSensors : SensorMap
  mDynamicSensors : SensorMap
  mDirectChannelSubHal : Option Nat
  mCurrentOperationMode : OperationMode

namespace HalProxy

/-- The constructor. -/
def construct (mSubHalList : List SubHal) : HalProxy where
  mSubHalList := mSubHalList
  mSensors := (initializeSensorList mSubHalList).mSensors
  mDynamicSensors := ∅
  mDirectChannelSubHal := (initializeSensorList mSubHalList).mDirectChannelSubHal
  mCurrentOperationMode := .NORMAL

variable (p : HalProxy) (reply : Nat → SubHalCall → Result)

def getSensorsList_2_1 : List SensorInfo := p.mSensors.toList.map Prod.snd

def isSubHalIndexValid (sensorHandle : SensorHandle) : Bool :=
  extractSubHalIndex sensorHandle < p.mSubHalList.length

/-- The sub-HAL of a handle, by its index; `none` is an access out of range. -/
def getSubHalForSensorHandle (sensorHandle : SensorHandle) : Option Nat :=
  if extractSubHalIndex sensorHandle < p.mSubHalList.length then
    some (extractSubHalIndex sensorHandle)
  else none

/-- `getSubHalForSensorHandle(sensorHandle)->call`. -/
def callSubHal (sensorHandle : SensorHandle) (call : SubHalCall) : Option Answer :=
  (p.getSubHalForSensorHandle sensorHandle).map fun i => ⟨reply i call, [(i, call)]⟩

/-- The shape shared by the requests: check the index, then forward. -/
def forward (sensorHandle : SensorHandle) (call : SubHalCall) : Option Answer :=
  if !p.isSubHalIndexValid sensorHandle then some ⟨.BAD_VALUE, []⟩
  else p.callSubHal reply sensorHandle call

def activate (sensorHandle : SensorHandle) (enabled : Bool) : Option Answer :=
  p.forward reply sensorHandle (.activate (clearSubHalIndex sensorHandle) enabled)

def batch (sensorHandle : SensorHandle) (samplingPeriodNs maxReportLatencyNs : Int) :
    Option Answer :=
  p.forward reply sensorHandle
    (.batch (clearSubHalIndex sensorHandle) samplingPeriodNs maxReportLatencyNs)

def flush (sensorHandle : SensorHandle) : Option Answer :=
  p.forward reply sensorHandle (.flush (clearSubHalIndex sensorHandle))

/-- In normal mode only additional-info events may be injected. -/
def injectSensorData (event : Event) : Option Answer :=
  if p.mCurrentOperationMode = .NORMAL ∧ event.sensorType ≠ SensorType.ADDITIONAL_INFO then
    some ⟨.BAD_VALUE, []⟩
  else if !p.isSubHalIndexValid event.sensorHandle then
    some ⟨.BAD_VALUE, []⟩
  else
    p.callSubHal reply event.sensorHandle
      (.injectSensorData { event with sensorHandle := clearSubHalIndex event.sensorHandle })

/-- The deactivation of each static, then of each dynamic sensor, with its
answer. -/
def disableAllSensors : Option (List (SensorHandle × Answer)) :=
  (p.mSensors.keys ++ p.mDynamicSensors.keys).mapM fun sensorHandle =>
    (p.activate reply sensorHandle false).map fun a => (sensorHandle, a)

/-- The mode admits the injection of the event. -/
def Admits (event : Event) : Prop :=
  p.mCurrentOperationMode = .NORMAL → event.sensorType = SensorType.ADDITIONAL_INFO

variable {p}

theorem forward_of_valid {sensorHandle : SensorHandle}
    (h : extractSubHalIndex sensorHandle < p.mSubHalList.length) (call : SubHalCall) :
    p.forward reply sensorHandle call =
      some ⟨reply (extractSubHalIndex sensorHandle) call,
        [(extractSubHalIndex sensorHandle, call)]⟩ := by
  simp [forward, isSubHalIndexValid, callSubHal, getSubHalForSensorHandle, h]

theorem forward_of_invalid {sensorHandle : SensorHandle}
    (h : p.mSubHalList.length ≤ extractSubHalIndex sensorHandle) (call : SubHalCall) :
    p.forward reply sensorHandle call = some ⟨.BAD_VALUE, []⟩ := by
  simp [forward, isSubHalIndexValid, Nat.not_lt.mpr h]

/-- An admitted injection is forwarded like the other requests. -/
theorem injectSensorData_of_admits {event : Event} (h : p.Admits event) :
    p.injectSensorData reply event =
      p.forward reply event.sensorHandle
        (.injectSensorData { event with sensorHandle := clearSubHalIndex event.sensorHandle }) := by
  rw [injectSensorData, if_neg (fun hn => hn.2 (h hn.1)), forward]

/-- No request indexes `mSubHalList` out of range. -/
theorem forward_isSome (sensorHandle : SensorHandle) (call : SubHalCall) :
    ∃ a, p.forward reply sensorHandle call = some a := by
  rcases Nat.lt_or_ge (extractSubHalIndex sensorHandle) p.mSubHalList.length with h | h
  · exact ⟨_, forward_of_valid reply h call⟩
  · exact ⟨_, forward_of_invalid reply h call⟩

/-- What `disableAllSensors` does for a handle is what `activate` does. -/
theorem disableAllSensors_eq :
    ∃ log, p.disableAllSensors reply = some log ∧
      ∀ h a, (h, a) ∈ log ↔ (h ∈ p.mSensors ∨ h ∈ p.mDynamicSensors) ∧
        p.activate reply h false = some a := by
  have general : ∀ keys : List SensorHandle, ∃ log,
      (keys.mapM fun h => (p.activate reply h false).map fun a => (h, a)) = some log ∧
        ∀ h a, (h, a) ∈ log ↔ h ∈ keys ∧ p.activate reply h false = some a := by
    intro keys
    induction keys with
    | nil => exact ⟨[], rfl, by simp⟩
    | cons k keys ih =>
      obtain ⟨log, hlog, hmem⟩ := ih
      obtain ⟨a, ha⟩ := forward_isSome reply k (.activate (clearSubHalIndex k) false)
      have hk : p.activate reply k false = some a := ha
      refine ⟨(k, a) :: log, ?_, ?_⟩
      · simp [List.mapM_cons, hlog, hk]
      · intro h b
        simp only [List.mem_cons, Prod.mk.injEq, hmem]
        constructor
        · rintro (⟨rfl, rfl⟩ | ⟨hh, hb⟩)
          · exact ⟨Or.inl rfl, hk⟩
          · exact ⟨Or.inr hh, hb⟩
        · rintro ⟨rfl | hh, hb⟩
          · exact Or.inl ⟨rfl, Option.some.inj (hb.symm.trans hk)⟩
          · exact Or.inr ⟨hh, hb⟩
  obtain ⟨log, hlog, hmem⟩ := general (p.mSensors.keys ++ p.mDynamicSensors.keys)
  exact ⟨log, hlog, fun h a => by simp [hmem, Std.TreeMap.mem_keys]⟩

end HalProxy

/-! ## Exact routing -/

/-- `p` was built for these sub-HALs; its mode and dynamic sensors may be any. -/
structure HalProxy.BuiltFrom (p : HalProxy) (mSubHalList : List SubHal) : Prop where
  subHals : p.mSubHalList = mSubHalList
  sensors : p.mSensors = (initializeSensorList mSubHalList).mSensors

/-- Every request for the handle `k` calls sub-HAL `i` once, nobody else, and
with the sub-HAL's own handle `h`. -/
structure HalProxy.Reaches (p : HalProxy) (k : SensorHandle) (i : Nat) (h : SensorHandle) :
    Prop where
  activate : ∀ reply enabled, p.activate reply k enabled =
    some ⟨reply i (.activate h enabled), [(i, .activate h enabled)]⟩
  batch : ∀ reply period latency, p.batch reply k period latency =
    some ⟨reply i (.batch h period latency), [(i, .batch h period latency)]⟩
  flush : ∀ reply, p.flush reply k = some ⟨reply i (.flush h), [(i, .flush h)]⟩
  inject : ∀ reply event, event.sensorHandle = k → p.Admits event →
    p.injectSensorData reply event =
      some ⟨reply i (.injectSensorData { event with sensorHandle := h }),
        [(i, .injectSensorData { event with sensorHandle := h })]⟩
  disable : ∀ reply, ∃ log, p.disableAllSensors reply = some log ∧
    ∀ a, (k, a) ∈ log ↔ a = ⟨reply i (.activate h false), [(i, .activate h false)]⟩

/-- Requests for the handle `k` are turned down, and no sub-HAL is called. -/
structure HalProxy.Rejects (p : HalProxy) (k : SensorHandle) : Prop where
  activate : ∀ reply enabled, p.activate reply k enabled = some ⟨.BAD_VALUE, []⟩
  batch : ∀ reply period latency, p.batch reply k period latency = some ⟨.BAD_VALUE, []⟩
  flush : ∀ reply, p.flush reply k = some ⟨.BAD_VALUE, []⟩
  inject : ∀ reply event, event.sensorHandle = k →
    p.injectSensorData reply event = some ⟨.BAD_VALUE, []⟩
  disable : ∀ reply, ∃ log, p.disableAllSensors reply = some log ∧
    ∀ a, (k, a) ∈ log → a = ⟨.BAD_VALUE, []⟩

/-- **Exact routing.**  Each reported handle has one entry in the list given to
the framework, no two share an entry, requests for an entry reach its sub-HAL
under its own handle, and requests with an index that names no sub-HAL reach
nobody. -/
structure RoutesExactly (mSubHalList : List SubHal) : Prop where
  entries : ∀ i h, Reports mSubHalList i h →
    ((HalProxy.construct mSubHalList).getSensorsList_2_1.filter
      fun sensor => sensor.sensorHandle = setSubHalIndex h i).length = 1
  distinct : ∀ i h j k, Reports mSubHalList i h → Reports mSubHalList j k →
    setSubHalIndex h i = setSubHalIndex k j → i = j ∧ h = k
  reaches : ∀ i h, Reports mSubHalList i h → ∀ p : HalProxy, p.BuiltFrom mSubHalList →
    p.Reaches (setSubHalIndex h i) i h
  rejects : ∀ k, mSubHalList.length ≤ indexByte k → ∀ p : HalProxy, p.BuiltFrom mSubHalList →
    p.Rejects k

theorem Reports.lt_length {mSubHalList : List SubHal} {i : Nat} {h : SensorHandle}
    (hr : Reports mSubHalList i h) : i < mSubHalList.length := by
  obtain ⟨_, _, hi, _⟩ := hr
  exact (List.getElem?_eq_some_iff.mp hi).1

/-- A key of a table whose entries carry their own handles is listed once. -/
theorem length_filter_sensorHandle {t : SensorTable} (ht : t.Keyed) {k : SensorHandle}
    (hk : k ∈ t.mSensors) :
    ((t.mSensors.toList.map Prod.snd).filter fun sensor => sensor.sensorHandle = k).length = 1 := by
  have hkeys : (t.mSensors.toList.map Prod.snd).map SensorInfo.sensorHandle = t.mSensors.keys := by
    rw [← Std.TreeMap.map_fst_toList_eq_keys, List.map_map]
    refine List.map_congr_left fun kv hkv => ?_
    exact ht kv.1 kv.2 (Std.TreeMap.mem_toList_iff_getElem?_eq_some.mp hkv)
  have hcount := Std.TreeMap.nodup_keys (t := t.mSensors)
  rw [← hkeys] at hcount
  have hmem : k ∈ (t.mSensors.toList.map Prod.snd).map SensorInfo.sensorHandle := by
    rw [hkeys]
    exact Std.TreeMap.mem_keys.mpr hk
  calc ((t.mSensors.toList.map Prod.snd).filter fun sensor => sensor.sensorHandle = k).length
      = ((t.mSensors.toList.map Prod.snd).map SensorInfo.sensorHandle).count k := by
        rw [← List.countP_eq_length_filter, List.count,
          List.countP_map (f := SensorInfo.sensorHandle)]
        exact List.countP_congr fun sensor _ => by simp
    _ = 1 := List.count_eq_one_of_mem hcount hmem

theorem HalProxy.reaches_of_lt {p : HalProxy} {mSubHalList : List SubHal}
    (hp : p.BuiltFrom mSubHalList) {i : Nat} {h : SensorHandle} (hr : Reports mSubHalList i h)
    (hi : i < 128) : p.Reaches (setSubHalIndex h i) i h := by
  have hc := hr.1
  have hx : extractSubHalIndex (setSubHalIndex h i) = i := extractSubHalIndex_setSubHalIndex hc hi
  have hlt : extractSubHalIndex (setSubHalIndex h i) < p.mSubHalList.length := by
    rw [hx, hp.subHals]
    exact hr.lt_length
  have hclear := clearSubHalIndex_setSubHalIndex hc i
  have hactivate : ∀ reply enabled, p.activate reply (setSubHalIndex h i) enabled =
      some ⟨reply i (.activate h enabled), [(i, .activate h enabled)]⟩ := by
    intro reply enabled
    rw [activate, forward_of_valid reply hlt, hx, hclear]
  refine ⟨hactivate, ?_, ?_, ?_, ?_⟩
  · intro reply period latency
    rw [batch, forward_of_valid reply hlt, hx, hclear]
  · intro reply
    rw [flush, forward_of_valid reply hlt, hx, hclear]
  · intro reply event he hadm
    rw [injectSensorData_of_admits reply hadm, he, forward_of_valid reply hlt, hx, hclear]
  · intro reply
    obtain ⟨log, hlog, hmem⟩ := disableAllSensors_eq (p := p) reply
    refine ⟨log, hlog, fun a => ?_⟩
    have hkey : setSubHalIndex h i ∈ p.mSensors := by
      rw [hp.sensors]
      exact mem_mSensors.mpr ⟨i, h, hr, rfl⟩
    rw [hmem, hactivate, Option.some.injEq]
    exact ⟨fun ha => ha.2.symm, fun ha => ⟨Or.inl hkey, ha.symm⟩⟩

theorem HalProxy.rejects_of_le {p : HalProxy} {k : SensorHandle}
    (hk : p.mSubHalList.length ≤ extractSubHalIndex k) : p.Rejects k := by
  have hactivate : ∀ reply enabled, p.activate reply k enabled = some ⟨.BAD_VALUE, []⟩ :=
    fun reply enabled => forward_of_invalid reply hk _
  refine ⟨hactivate, fun reply _ _ => forward_of_invalid reply hk _,
    fun reply => forward_of_invalid reply hk _, ?_, ?_⟩
  · intro reply event he
    by_cases hadm : p.Admits event
    · rw [injectSensorData_of_admits reply hadm, he]
      exact forward_of_invalid reply hk _
    · rw [injectSensorData, if_pos (Classical.not_imp.mp hadm)]
  · intro reply
    obtain ⟨log, hlog, hmem⟩ := disableAllSensors_eq (p := p) reply
    refine ⟨log, hlog, fun a ha => ?_⟩
    have := ((hmem k a).mp ha).2
    rw [hactivate] at this
    exact (Option.some.inj this).symm

/-- The index of a sub-HAL the byte can number but `extractSubHalIndex` cannot
read: the request for its sensor is turned down. -/
theorem HalProxy.rejects_of_ge {p : HalProxy} {mSubHalList : List SubHal}
    (hp : p.BuiltFrom mSubHalList) (hlen : mSubHalList.length ≤ 256) {i : Nat} {h : SensorHandle}
    (hr : Reports mSubHalList i h) (hi : 128 ≤ i) : p.Rejects (setSubHalIndex h i) := by
  have hlt := hr.lt_length
  apply HalProxy.rejects_of_le
  rw [extractSubHalIndex_eq, indexByte_setSubHalIndex_of_clear hr.1 (by omega), if_neg (by omega),
    hp.subHals]
  omega

/-- **Routing is exact for the sub-HALs below 128, and only for these.** -/
theorem routesExactly_iff (mSubHalList : List SubHal) (hlen : mSubHalList.length ≤ 256) :
    RoutesExactly mSubHalList ↔ ∀ i h, Reports mSubHalList i h → i < 128 := by
  constructor
  · intro hroutes i h hr
    have hp : (HalProxy.construct mSubHalList).BuiltFrom mSubHalList := ⟨rfl, rfl⟩
    apply Classical.byContradiction
    intro hi
    have hreach := (hroutes.reaches i h hr _ hp).flush (fun _ _ => .OK)
    rw [(HalProxy.rejects_of_ge hp hlen hr (Nat.le_of_not_lt hi)).flush] at hreach
    exact absurd hreach (by simp)
  · intro hlow
    refine ⟨?_, ?_, ?_, ?_⟩
    · intro i h hr
      exact length_filter_sensorHandle (keyed_initializeSensorList mSubHalList)
        (mem_mSensors.mpr ⟨i, h, hr, rfl⟩)
    · intro i h j k hi hj he
      exact setSubHalIndex_inj hi.1 hj.1 (Nat.lt_of_lt_of_le hi.lt_length hlen)
        (Nat.lt_of_lt_of_le hj.lt_length hlen) he
    · intro i h hr p hp
      exact HalProxy.reaches_of_lt hp hr (hlow i h hr)
    · intro k hk p hp
      apply HalProxy.rejects_of_le
      rw [hp.subHals, extractSubHalIndex_eq]
      split <;> omega

/-- Two sub-HALs that report the same handle. -/
theorem routesExactly_two :
    RoutesExactly [⟨[⟨7#32, 1, 0#32⟩]⟩, ⟨[⟨7#32, 4, 0#32⟩]⟩] :=
  (routesExactly_iff [⟨[⟨7#32, 1, 0#32⟩]⟩, ⟨[⟨7#32, 4, 0#32⟩]⟩] (by decide)).mpr
    fun _ _ hr => Nat.lt_of_lt_of_le hr.lt_length (by decide)

/-- 129 sub-HALs, the last one with a sensor. -/
def crowdedSubHalList : List SubHal := List.replicate 128 ⟨[]⟩ ++ [⟨[⟨7#32, 1, 0#32⟩]⟩]

/-- The sensor of the 129th sub-HAL is listed, but flushing it is turned down. -/
theorem not_routesExactly_crowded : ¬ RoutesExactly crowdedSubHalList := by
  intro hroutes
  have hr : Reports crowdedSubHalList 128 7#32 :=
    ⟨by decide, ⟨[⟨7#32, 1, 0#32⟩]⟩, by decide +kernel, _, List.mem_singleton_self _, rfl⟩
  have hreach := (hroutes.reaches 128 7#32 hr (HalProxy.construct crowdedSubHalList)
    ⟨rfl, rfl⟩).flush fun _ _ => .OK
  have hreject : (HalProxy.construct crowdedSubHalList).flush (fun _ _ => .OK)
      (setSubHalIndex 7#32 128) = some ⟨.BAD_VALUE, []⟩ := by
    decide +kernel
  rw [hreject] at hreach
  exact absurd hreach (by decide)

end SensorsHal
