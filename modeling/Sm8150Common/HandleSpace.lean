import Sm8150Common.HandleRouting

/-! # What a sub-HAL can name

A sub-HAL hands the proxy sensor handles of its own choosing in five places: the
static list, dynamic sensors connected and disconnected, the events it posts and
the dynamic handle inside a `DYNAMIC_SENSOR_META` event.  Each place stamps the
sub-HAL's index into the handle.  The first three refuse handles whose index
byte is taken; `processEvents` (`HalProxyCallback.cpp`, lines 65–82) does not.

`Proxy.Owns` says of one call of sub-HAL `i` that every handle it brings in
decodes to `i` and that it changes no entry of another sub-HAL;
`ownHandleSpace_iff` finds the runs in which every call does. -/
namespace SensorsHal

/-! ## The entry points -/

/-- The loop body of `onDynamicSensorsConnected`: the map, and the argument of
the framework callback so far. -/
def connectSensor (subHalIndex : Nat) (st : SensorMap × List SensorInfo) (sensor : SensorInfo) :
    SensorMap × List SensorInfo :=
  if subHalIndexIsClear sensor.sensorHandle then
    let sensor := { sensor with sensorHandle := setSubHalIndex sensor.sensorHandle subHalIndex }
    (st.1.insert sensor.sensorHandle sensor, st.2 ++ [sensor])
  else st

def onDynamicSensorsConnected (mDynamicSensors : SensorMap) (dynamicSensorsAdded : List SensorInfo)
    (subHalIndex : Nat) : SensorMap × List SensorInfo :=
  dynamicSensorsAdded.foldl (connectSensor subHalIndex) (mDynamicSensors, [])

/-- The loop body of `onDynamicSensorsDisconnected`. -/
def disconnectSensor (subHalIndex : Nat) (st : SensorMap × List SensorHandle)
    (sensorHandle : SensorHandle) : SensorMap × List SensorHandle :=
  if subHalIndexIsClear sensorHandle then
    let sensorHandle := setSubHalIndex sensorHandle subHalIndex
    if sensorHandle ∈ st.1 then (st.1.erase sensorHandle, st.2 ++ [sensorHandle]) else st
  else st

def onDynamicSensorsDisconnected (mDynamicSensors : SensorMap)
    (dynamicSensorHandlesRemoved : List SensorHandle) (subHalIndex : Nat) :
    SensorMap × List SensorHandle :=
  dynamicSensorHandlesRemoved.foldl (disconnectSensor subHalIndex) (mDynamicSensors, [])

/-- `HalProxy.h`: the entry of `mSensors`, a default one if there is none. -/
def getSensorInfo (mSensors : SensorMap) (sensorHandle : SensorHandle) : SensorInfo :=
  mSensors[sensorHandle]?.getD default

/-- The index is or-ed in, whatever the event's handle was (lines 70–74). -/
def stampEvent (mSubHalIndex : Nat) (event : Event) : Event :=
  let event := { event with sensorHandle := setSubHalIndex event.sensorHandle mSubHalIndex }
  if event.sensorType = SensorType.DYNAMIC_SENSOR_META then
    { event with u := { event.u with
        dynamicSensorHandle := setSubHalIndex event.u.dynamicSensorHandle mSubHalIndex } }
  else event

/-- The loop body of `processEvents`: the events out and `numWakeupEvents`. -/
def processEvent (mSensors : SensorMap) (mSubHalIndex : Nat) (st : List Event × Nat)
    (event : Event) : List Event × Nat :=
  let event := stampEvent mSubHalIndex event
  let sensor := getSensorInfo mSensors event.sensorHandle
  (st.1 ++ [event], if sensor.isWakeup then st.2 + 1 else st.2)

def processEvents (mSensors : SensorMap) (mSubHalIndex : Nat) (events : List Event) :
    List Event × Nat :=
  events.foldl (processEvent mSensors mSubHalIndex) ([], 0)

/-! ## Calls of a sub-HAL -/

/-- What a sub-HAL can tell the proxy.  `reportSensors` is the answer to
`getSensorsList`; `postEvents` is a call that found the threads running. -/
inductive SubHalMessage
  | reportSensors (sensors : List SensorInfo)
  | sensorsConnected (dynamicSensorsAdded : List SensorInfo)
  | sensorsDisconnected (dynamicSensorHandlesRemoved : List SensorHandle)
  | postEvents (events : List Event)

/-- From `m` to `m'`, only entries whose handle decodes to `i` are made, replaced
or removed. -/
def ChangesOnly (i : Nat) (m m' : SensorMap) : Prop :=
  ∀ k : SensorHandle, m'[k]? ≠ m[k]? → extractSubHalIndex k = i

/-- The two sensor maps. -/
structure SensorMaps where
  table : SensorTable
  mDynamicSensors : SensorMap

namespace SensorMaps

/-- The maps after a message of sub-HAL `i`. -/
def receive (s : SensorMaps) (i : Nat) : SubHalMessage → SensorMaps
  | .reportSensors sensors => { s with table := s.table.loadSubHal i sensors }
  | .sensorsConnected added =>
    { s with mDynamicSensors := (onDynamicSensorsConnected s.mDynamicSensors added i).1 }
  | .sensorsDisconnected removed =>
    { s with mDynamicSensors := (onDynamicSensorsDisconnected s.mDynamicSensors removed i).1 }
  | .postEvents _ => s

/-- The handles a message of sub-HAL `i` sends on: those of the framework
callbacks, and those in the processed events. -/
def sendsOn (s : SensorMaps) (i : Nat) : SubHalMessage → List SensorHandle
  | .reportSensors _ => []
  | .sensorsConnected added =>
    (onDynamicSensorsConnected s.mDynamicSensors added i).2.map SensorInfo.sensorHandle
  | .sensorsDisconnected removed => (onDynamicSensorsDisconnected s.mDynamicSensors removed i).2
  | .postEvents events =>
    (processEvents s.table.mSensors i events).1.flatMap fun event =>
      if event.sensorType = SensorType.DYNAMIC_SENSOR_META then
        [event.sensorHandle, event.u.dynamicSensorHandle]
      else [event.sensorHandle]

/-- **Speaking for oneself.**  The handles sent on decode to `i`, and so does
every handle whose entry in either map is made, replaced or removed. -/
structure Owns (s : SensorMaps) (i : Nat) (m : SubHalMessage) : Prop where
  sent : ∀ k ∈ s.sendsOn i m, extractSubHalIndex k = i
  static : ChangesOnly i s.table.mSensors (s.receive i m).table.mSensors
  dynamic : ChangesOnly i s.mDynamicSensors (s.receive i m).mDynamicSensors

/-- Every message of the run is one its sender owns. -/
def OwnHandleSpace : SensorMaps → List (Nat × SubHalMessage) → Prop
  | _, [] => True
  | s, (i, m) :: run => s.Owns i m ∧ OwnHandleSpace (s.receive i m) run

end SensorMaps

/-- The index byte of `h` has no bit that `i` does not have, so that the bitwise
or yields `i`. -/
def WithinIndex (i : Nat) (h : SensorHandle) : Prop := indexByte h ||| i = i

instance (i : Nat) (h : SensorHandle) : Decidable (WithinIndex i h) :=
  inferInstanceAs (Decidable (_ = _))

/-- The handles of a posted event, the second one for a meta event only. -/
def PostsWithin (i : Nat) : SubHalMessage → Prop
  | .postEvents events => ∀ event ∈ events, WithinIndex i event.sensorHandle ∧
      (event.sensorType = SensorType.DYNAMIC_SENSOR_META →
        WithinIndex i event.u.dynamicSensorHandle)
  | _ => True

instance (i : Nat) : DecidablePred (PostsWithin i)
  | .postEvents _ => inferInstanceAs (Decidable (∀ event ∈ _, _))
  | .reportSensors _ | .sensorsConnected _ | .sensorsDisconnected _ => isTrue trivial

theorem extract_setSubHalIndex_iff {i : Nat} (hi : i < 128) (h : SensorHandle) :
    extractSubHalIndex (setSubHalIndex h i) = i ↔ WithinIndex i h := by
  rw [extractSubHalIndex_eq_iff _ hi, indexByte_setSubHalIndex h (by omega), WithinIndex]

/-! ## One entry point at a time -/

namespace ChangesOnly
variable {i : Nat} {m m' : SensorMap}

theorem refl (i : Nat) (m : SensorMap) : ChangesOnly i m m := fun _ h => absurd rfl h

theorem insert (hm : ChangesOnly i m m') {h : SensorHandle} (hh : extractSubHalIndex h = i)
    (info : SensorInfo) : ChangesOnly i m (m'.insert h info) := by
  intro k hk
  rw [Std.TreeMap.getElem?_insert] at hk
  split at hk
  · rename_i heq
    exact Std.LawfulEqCmp.eq_of_compare heq ▸ hh
  · exact hm k hk

theorem erase (hm : ChangesOnly i m m') {h : SensorHandle} (hh : extractSubHalIndex h = i) :
    ChangesOnly i m (m'.erase h) := by
  intro k hk
  rw [Std.TreeMap.getElem?_erase] at hk
  split at hk
  · rename_i heq
    exact Std.LawfulEqCmp.eq_of_compare heq ▸ hh
  · exact hm k hk

end ChangesOnly

section Entry
variable {i : Nat} (hi : i < 128)
include hi

theorem changesOnly_loadSubHal (t : SensorTable) (sensors : List SensorInfo) :
    ChangesOnly i t.mSensors (t.loadSubHal i sensors).mSensors := by
  refine List.foldlRecOn (motive := fun t' : SensorTable => ChangesOnly i t.mSensors t'.mSensors)
    sensors _ (ChangesOnly.refl i _) ?_
  intro t' ht' sensor _
  by_cases hc : subHalIndexIsClear sensor.sensorHandle = true
  · obtain ⟨info, -, hins⟩ := SensorTable.loadSensor_of_clear i t' hc
    rw [hins]
    exact ht'.insert (extractSubHalIndex_setSubHalIndex hc hi) info
  · rw [SensorTable.loadSensor_of_not_clear i t' hc]
    exact ht'

theorem onDynamicSensorsConnected_owned (m : SensorMap) (added : List SensorInfo) :
    ChangesOnly i m (onDynamicSensorsConnected m added i).1 ∧
      ∀ sensor ∈ (onDynamicSensorsConnected m added i).2,
        extractSubHalIndex sensor.sensorHandle = i := by
  refine List.foldlRecOn (motive := fun st : SensorMap × List SensorInfo =>
    ChangesOnly i m st.1 ∧ ∀ sensor ∈ st.2, extractSubHalIndex sensor.sensorHandle = i)
    added _ ⟨ChangesOnly.refl i m, by simp⟩ ?_
  rintro st ⟨hmap, hout⟩ sensor -
  unfold connectSensor
  split
  · rename_i hc
    have hx := extractSubHalIndex_setSubHalIndex hc hi
    refine ⟨hmap.insert hx _, fun s hs => ?_⟩
    rcases List.mem_append.mp hs with hs | hs
    · exact hout s hs
    · exact List.mem_singleton.mp hs ▸ hx
  · exact ⟨hmap, hout⟩

theorem onDynamicSensorsDisconnected_owned (m : SensorMap) (removed : List SensorHandle) :
    ChangesOnly i m (onDynamicSensorsDisconnected m removed i).1 ∧
      ∀ k ∈ (onDynamicSensorsDisconnected m removed i).2, extractSubHalIndex k = i := by
  refine List.foldlRecOn (motive := fun st : SensorMap × List SensorHandle =>
    ChangesOnly i m st.1 ∧ ∀ k ∈ st.2, extractSubHalIndex k = i)
    removed _ ⟨ChangesOnly.refl i m, by simp⟩ ?_
  rintro st ⟨hmap, hout⟩ h -
  unfold disconnectSensor
  split
  · rename_i hc
    have hx := extractSubHalIndex_setSubHalIndex hc hi
    dsimp only
    split
    · refine ⟨hmap.erase hx, fun k hk => ?_⟩
      rcases List.mem_append.mp hk with hk | hk
      · exact hout k hk
      · exact List.mem_singleton.mp hk ▸ hx
    · exact ⟨hmap, hout⟩
  · exact ⟨hmap, hout⟩

end Entry

/-- `processEvents` stamps every event. -/
theorem processEvents_fst (mSensors : SensorMap) (i : Nat) (events : List Event) :
    (processEvents mSensors i events).1 = events.map (stampEvent i) := by
  have general : ∀ (events : List Event) (st : List Event × Nat),
      (events.foldl (processEvent mSensors i) st).1 = st.1 ++ events.map (stampEvent i) := by
    intro events
    induction events with
    | nil => intro st; simp
    | cons event events ih =>
      intro st
      rw [List.foldl_cons, ih]
      simp [processEvent]
  rw [processEvents, general, List.nil_append]

@[simp] theorem stampEvent_sensorHandle (i : Nat) (event : Event) :
    (stampEvent i event).sensorHandle = setSubHalIndex event.sensorHandle i := by
  unfold stampEvent
  dsimp only
  split <;> rfl

@[simp] theorem stampEvent_sensorType (i : Nat) (event : Event) :
    (stampEvent i event).sensorType = event.sensorType := by
  unfold stampEvent
  dsimp only
  split <;> rfl

theorem stampEvent_dynamicSensorHandle (i : Nat) {event : Event}
    (h : event.sensorType = SensorType.DYNAMIC_SENSOR_META) :
    (stampEvent i event).u.dynamicSensorHandle =
      setSubHalIndex event.u.dynamicSensorHandle i := by
  simp [stampEvent, h]

/-- **The exact defect**: a posted event stays in its sender's space iff its
handles had no foreign index bit. -/
theorem sendsOn_postEvents_iff {i : Nat} (hi : i < 128) (s : SensorMaps) (events : List Event) :
    (∀ k ∈ s.sendsOn i (.postEvents events), extractSubHalIndex k = i) ↔
      PostsWithin i (.postEvents events) := by
  have hevent : ∀ event : Event,
      (∀ k ∈ (if (stampEvent i event).sensorType = SensorType.DYNAMIC_SENSOR_META then
          [(stampEvent i event).sensorHandle, (stampEvent i event).u.dynamicSensorHandle]
        else [(stampEvent i event).sensorHandle]), extractSubHalIndex k = i) ↔
      WithinIndex i event.sensorHandle ∧ (event.sensorType = SensorType.DYNAMIC_SENSOR_META →
        WithinIndex i event.u.dynamicSensorHandle) := by
    intro event
    by_cases hmeta : event.sensorType = SensorType.DYNAMIC_SENSOR_META
    · simp [hmeta, stampEvent_dynamicSensorHandle, extract_setSubHalIndex_iff hi]
    · simp [hmeta, extract_setSubHalIndex_iff hi]
  simp only [SensorMaps.sendsOn, processEvents_fst, List.flatMap_map, PostsWithin]
  constructor
  · intro h event he
    exact (hevent event).mp fun k hk => h k (List.mem_flatMap.mpr ⟨event, he, hk⟩)
  · intro h k hk
    obtain ⟨event, he, hk⟩ := List.mem_flatMap.mp hk
    exact (hevent event).mpr (h event he) k hk

/-- One message: only a post can step out of its sender's space. -/
theorem owns_iff {i : Nat} (hi : i < 128) (s : SensorMaps) (m : SubHalMessage) :
    s.Owns i m ↔ PostsWithin i m := by
  cases m with
  | reportSensors sensors =>
    exact ⟨fun _ => trivial, fun _ =>
      ⟨by simp [SensorMaps.sendsOn], changesOnly_loadSubHal hi _ _, ChangesOnly.refl i _⟩⟩
  | sensorsConnected added =>
    obtain ⟨hmap, hout⟩ := onDynamicSensorsConnected_owned hi s.mDynamicSensors added
    refine ⟨fun _ => trivial, fun _ => ⟨fun k hk => ?_, ChangesOnly.refl i _, hmap⟩⟩
    obtain ⟨sensor, hs, rfl⟩ := List.mem_map.mp hk
    exact hout sensor hs
  | sensorsDisconnected removed =>
    obtain ⟨hmap, hout⟩ := onDynamicSensorsDisconnected_owned hi s.mDynamicSensors removed
    exact ⟨fun _ => trivial, fun _ => ⟨hout, ChangesOnly.refl i _, hmap⟩⟩
  | postEvents events =>
    rw [← sendsOn_postEvents_iff hi s events]
    exact ⟨fun h => h.sent, fun h => ⟨h, ChangesOnly.refl i _, ChangesOnly.refl i _⟩⟩

/-- **Sub-HALs below 128 speak in their own handle space exactly as long as the
events they post do.**  The static list and the dynamic sensors never leave it,
whatever handles they bring. -/
theorem ownHandleSpace_iff (s : SensorMaps) (run : List (Nat × SubHalMessage))
    (hrun : ∀ a ∈ run, a.1 < 128) :
    SensorMaps.OwnHandleSpace s run ↔ ∀ a ∈ run, PostsWithin a.1 a.2 := by
  induction run generalizing s with
  | nil => simp [SensorMaps.OwnHandleSpace]
  | cons a run ih =>
    obtain ⟨i, m⟩ := a
    rw [SensorMaps.OwnHandleSpace, owns_iff (hrun (i, m) (List.mem_cons_self ..)),
      ih _ fun a ha => hrun a (List.mem_cons_of_mem _ ha)]
    simp

/-- Two sub-HALs: the second connects and drops a sensor, the first posts an
event for it. -/
theorem ownHandleSpace_two :
    SensorMaps.OwnHandleSpace ⟨SensorTable.empty, ∅⟩
      [(1, .sensorsConnected [⟨5#32, 1, 0#32⟩]), (0, .sensorsDisconnected [5#32]),
        (0, .postEvents [⟨5#32, 1, ⟨0, 0, 0#32⟩⟩])] :=
  (ownHandleSpace_iff _ _ (by decide)).mpr (by decide)

/-- Sub-HAL 1 posts an event under the handle `0x02000005`; it leaves the proxy
as an event of sub-HAL 3. -/
theorem not_ownHandleSpace_foreign :
    ¬ SensorMaps.OwnHandleSpace ⟨SensorTable.empty, ∅⟩
      [(1, .postEvents [⟨0x02000005#32, 1, ⟨0, 0, 0#32⟩⟩])] := by
  rintro ⟨h, -⟩
  have hsent := h.sent 0x03000005#32 (by decide)
  exact absurd hsent (by decide)

end SensorsHal
