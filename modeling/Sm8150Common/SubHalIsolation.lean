import Mathlib.Data.List.Sort
import Sm8150Common.AnnouncedSensors
import Sm8150Common.DynamicWakeups
import Sm8150Common.FrameworkSessions
import Sm8150Common.MaskedPipeline
import Sm8150Common.WakeupCharges
import Sm8150Common.Library.Components

/-! # One sub-HAL among others

Several sub-HALs share one `HalProxy`: its tables, its checks and its numbering of their
sensors.  None of them can tell.  Whatever the framework asks for and the other sub-HALs do, a
sub-HAL is called, and what it says reaches the framework, as behind a proxy that has no other
(`runs_alone`); the framework sees the same sensors, up to the flags of direct channels, which
`setDirectChannelFlags` leaves to one sub-HAL.

Three things of the proxy are common property.  The operation mode, which `setOperationMode`
gives to all sub-HALs or to none, and the event queue, where they compete for room, stand
outside: events are followed to where `postEventsToMessageQueue` writes or stores them.  The
light correction it sends them through before that (`HalProxy.cpp`, lines 675–680) has one clock
and one memory for all, so that what becomes of a light event may depend on another sub-HAL's;
such events keep their places, and nothing else is said about them.  Calls come one after
another, and an `initialize` is one of them. -/
namespace SensorsHal

/-! ## Under a sub-HAL's own handles -/

/-- The sensor as its sub-HAL reports it. -/
def SensorInfo.own (sensor : SensorInfo) : SensorInfo :=
  { sensor with sensorHandle := clearSubHalIndex sensor.sensorHandle }

/-- And without the flags of direct channels. -/
def SensorInfo.shown (sensor : SensorInfo) : SensorInfo :=
  { sensor.own with flags := sensor.flags &&& ~~~directChannelMask }

def Event.own (event : Event) : Event :=
  { event with
    sensorHandle := clearSubHalIndex event.sensorHandle
    u := if event.sensorType = SensorType.DYNAMIC_SENSOR_META then
        { event.u with dynamicSensorHandle := clearSubHalIndex event.u.dynamicSensorHandle }
      else event.u }

namespace SubHalCall

def sensorHandle : SubHalCall → SensorHandle
  | .activate sensorHandle _ => sensorHandle
  | .batch sensorHandle _ _ => sensorHandle
  | .flush sensorHandle => sensorHandle
  | .injectSensorData event => event.sensorHandle

/-- The call that is made of a request for a sensor. -/
def own : SubHalCall → SubHalCall
  | .activate sensorHandle enabled => .activate (clearSubHalIndex sensorHandle) enabled
  | .batch sensorHandle period latency => .batch (clearSubHalIndex sensorHandle) period latency
  | .flush sensorHandle => .flush (clearSubHalIndex sensorHandle)
  | .injectSensorData event =>
    .injectSensorData { event with sensorHandle := clearSubHalIndex event.sensorHandle }

end SubHalCall

/-- A request of the framework, written as a call with the framework's handle. -/
def HalProxy.request (p : HalProxy) (reply : Nat → SubHalCall → Result) :
    SubHalCall → Option Answer
  | .activate sensorHandle enabled => p.activate reply sensorHandle enabled
  | .batch sensorHandle period latency => p.batch reply sensorHandle period latency
  | .flush sensorHandle => p.flush reply sensorHandle
  | .injectSensorData event => p.injectSensorData reply event

/-- What the framework sees: answers to its requests, dynamic sensors that come and go, and
events with the number of wake-up events among them.  Which sub-HAL has posted the events it is
not told: the handle of a light event may have been replaced by 0. -/
inductive Seen (ε : Type)
  | answer (sensorHandle : SensorHandle) (result : Result)
  | connected (dynamicSensorsAdded : List SensorInfo)
  | disconnected (dynamicSensorHandlesRemoved : List SensorHandle)
  | posted (subHalIndex : Nat) (events : List ε) (numWakeupEvents : Nat)

namespace Seen
variable {ε : Type}

def handles : Seen ε → List SensorHandle
  | .answer sensorHandle _ => [sensorHandle]
  | .connected sensors => sensors.map SensorInfo.sensorHandle
  | .disconnected sensorHandles => sensorHandles
  | .posted .. => []

def poster : Seen ε → Option Nat
  | .posted subHalIndex _ _ => some subHalIndex
  | _ => none

/-- Posted events name their sub-HAL, but for light events. -/
def Stamped : Seen Event → Prop
  | .posted subHalIndex events _ => ∀ event ∈ events.filterMap PipelineRun.unlessLight,
    extractSubHalIndex event.sensorHandle = subHalIndex
  | _ => True

/-- Under the sub-HAL's own handles, and without what the light correction has put into light
events. -/
def cleared : Seen Event → Seen (Option Event)
  | .answer sensorHandle result => .answer (clearSubHalIndex sensorHandle) result
  | .connected sensors => .connected (sensors.map SensorInfo.own)
  | .disconnected sensorHandles => .disconnected (sensorHandles.map clearSubHalIndex)
  | .posted _ events numWakeupEvents =>
    .posted 0 (events.map fun event => (PipelineRun.unlessLight event).map Event.own)
      numWakeupEvents

/-- What sub-HAL `i` has posted, or concerns its sensors by the handles that the framework
sees. -/
def own (i : Nat) (seen : Seen Event) : Option (Seen (Option Event)) :=
  if seen.poster = some i ∨ (seen.handles.any fun h => extractSubHalIndex h = i) = true then
    some seen.cleared
  else none

end Seen

/-! ## The proxy with its sub-HALs -/

/-- What a sub-HAL does when it is called and when it is initialized, and what it can tell the
proxy of its own accord. -/
structure SubHalProgram (σ : Type) where
  call : σ → SubHalCall → Result × σ
  initialized : σ → σ
  tell : σ → SubHalMessage → Option σ

/-- The states of the sub-HALs are numbered as in `mSubHalList`; `seen` is all the framework
has seen. -/
structure MultiHal (σ : Type) where
  proxy : HalProxy
  light : LightState
  subHals : Nat → σ
  seen : List (Seen Event)

/-- A request of the framework, a message of sub-HAL `i`, or an `initialize`. -/
inductive MultiHalStep
  | request (call : SubHalCall)
  | tell (i : Nat) (message : SubHalMessage)
  | initializeCommon

/-- The part of sub-HAL `i` in a step. -/
def MultiHalStep.own (i : Nat) : MultiHalStep → Option MultiHalStep
  | .request call =>
    if extractSubHalIndex call.sensorHandle = i then some (.request call.own) else none
  | .tell j message => if j = i then some (.tell 0 message) else none
  | .initializeCommon => some .initializeCommon

namespace MultiHal
variable {σ : Type}

section Model
variable (globals : AlsGlobals) (pow22 : Rat → Rat) (program : SubHalProgram σ) (s : MultiHal σ)

/-- What sub-HALs answer now. -/
def reply (i : Nat) (call : SubHalCall) : Result := (program.call (s.subHals i) call).1

/-- The sub-HALs after some calls. -/
def called (calls : List (Nat × SubHalCall)) : Nat → σ :=
  calls.foldl (fun subHals c =>
    Function.update subHals c.1 (program.call (subHals c.1) c.2).2) s.subHals

/-- What the proxy makes of a message.  The constructor alone asks for the static list, and an
empty post is dropped (`HalProxyCallback.cpp`, line 43).  A post is stamped and counted, and then
corrected. -/
def receive (i : Nat) : SubHalMessage → Option (MultiHal σ)
  | .reportSensors _ => none
  | .sensorsConnected added =>
    let connected := onDynamicSensorsConnected s.proxy.mDynamicSensors added i
    some { s with
      proxy := { s.proxy with mDynamicSensors := connected.1 }
      seen := s.seen ++ [.connected connected.2] }
  | .sensorsDisconnected removed =>
    let disconnected := onDynamicSensorsDisconnected s.proxy.mDynamicSensors removed i
    some { s with
      proxy := { s.proxy with mDynamicSensors := disconnected.1 }
      seen := s.seen ++ [.disconnected disconnected.2] }
  | .postEvents events =>
    if events = [] then some s
    else
      let processed := processEvents s.proxy.mSensors i events
      let corrected := correctEvents (correctLight (processLight globals pow22)) s.light processed.1
      some { s with
        light := corrected.2
        seen := s.seen ++ [.posted i corrected.1 processed.2] }

/-- After a request. -/
def answered (call : SubHalCall) (answer : Answer) : MultiHal σ :=
  { s with
    subHals := s.called program answer.calls
    seen := s.seen ++ [.answer call.sensorHandle answer.result] }

/-- After `initializeCommon`.  What sub-HALs answered to `disableAllSensors` is ignored. -/
def initialized (log : List (SensorHandle × Answer)) : MultiHal σ :=
  { s with
    proxy := { s.proxy with mDynamicSensors := ∅, mCurrentOperationMode := .NORMAL }
    subHals := fun i =>
      program.initialized (s.called program (log.flatMap fun entry => entry.2.calls) i) }

def step : MultiHalStep → Option (MultiHal σ)
  | .request call => (s.proxy.request (s.reply program) call).map (s.answered program call)
  | .tell i message =>
    if i < s.proxy.mSubHalList.length then
      (program.tell (s.subHals i) message).bind fun subHal =>
        receive globals pow22 { s with subHals := Function.update s.subHals i subHal } i message
    else none
  | .initializeCommon =>
    (s.proxy.disableAllSensors (s.reply program)).map (s.initialized program)

/-- The proxy has been constructed. -/
def start (mSubHalList : List SubHal) (light : LightState) (subHals : Nat → σ) : MultiHal σ :=
  ⟨HalProxy.construct mSubHalList, light, subHals, []⟩

def machine : StepMachine (MultiHal σ) MultiHalStep where
  init s := ∃ mSubHalList light subHals, s = start mSubHalList light subHals
  step s l := step globals pow22 program s l

/-- Sub-HALs post events under handles of their own. -/
def OwnHandles (_ : MultiHal σ) : MultiHalStep → Prop
  | .tell _ message => PostsWithin 0 message
  | _ => True

instance OwnHandles.decidable (s : MultiHal σ) (l : MultiHalStep) : Decidable (s.OwnHandles l) :=
  match l with
  | .tell _ message => inferInstanceAs (Decidable (PostsWithin 0 message))
  | .request _ | .initializeCommon => inferInstanceAs (Decidable True)

end Model

end MultiHal

/-! ## Handles -/

@[simp] theorem setSubHalIndex_zero (h : SensorHandle) : setSubHalIndex h 0 = h := by
  simp [setSubHalIndex]

/-- The index is written above the handle. -/
theorem toNat_setSubHalIndex {h : SensorHandle} (hc : subHalIndexIsClear h = true) {i : Nat}
    (hi : i < 256) : (setSubHalIndex h i).toNat = 0x1000000 * i + h.toNat := by
  have hbyte := indexByte_setSubHalIndex_of_clear hc hi
  have hlow := congrArg BitVec.toNat (clearSubHalIndex_setSubHalIndex hc i)
  rw [indexByte_eq] at hbyte
  rw [toNat_clearSubHalIndex] at hlow
  omega

/-- A handle of sub-HAL `i` is made of its own part and the index. -/
theorem setSubHalIndex_clearSubHalIndex {k : SensorHandle} {i : Nat} (hi : i < 128)
    (hk : extractSubHalIndex k = i) : setSubHalIndex (clearSubHalIndex k) i = k := by
  apply BitVec.eq_of_toNat_eq
  have hbyte := (extractSubHalIndex_eq_iff k hi).mp hk
  rw [indexByte_eq] at hbyte
  rw [toNat_setSubHalIndex (FrameworkSession.subHalIndexIsClear_clearSubHalIndex k) (by omega),
    toNat_clearSubHalIndex]
  omega

theorem clearSubHalIndex_of_clear {h : SensorHandle} (hc : subHalIndexIsClear h = true) :
    clearSubHalIndex h = h := by
  rw [← setSubHalIndex_zero h]
  exact clearSubHalIndex_setSubHalIndex hc 0 |>.trans (setSubHalIndex_zero h).symm

theorem extractSubHalIndex_of_clear {h : SensorHandle} (hc : subHalIndexIsClear h = true) :
    extractSubHalIndex h = 0 :=
  (extractSubHalIndex_eq_iff h (by decide)).mpr ((subHalIndexIsClear_iff h).mp hc)

theorem subHalIndexIsClear_of_extract {h : SensorHandle} (hk : extractSubHalIndex h = 0) :
    subHalIndexIsClear h = true :=
  (subHalIndexIsClear_iff h).mpr ((extractSubHalIndex_eq_iff h (by decide)).mp hk)

/-- The proxy's handles of one sub-HAL are in the order of its own. -/
theorem compareHandle_setSubHalIndex {h k : SensorHandle} (hh : subHalIndexIsClear h = true)
    (hk : subHalIndexIsClear k = true) {i : Nat} (hi : i < 128) :
    compareHandle (setSubHalIndex h i) (setSubHalIndex k i) = compareHandle h k := by
  have htoInt : ∀ {h : SensorHandle}, subHalIndexIsClear h = true → ∀ {j}, j < 128 →
      (setSubHalIndex h j).toInt = 0x1000000 * j + h.toNat := by
    intro h hc j hj
    have hlow := (subHalIndexIsClear_iff h).mp hc
    rw [indexByte_eq] at hlow
    have hnat := toNat_setSubHalIndex hc (i := j) (by omega)
    rw [BitVec.toInt_eq_toNat_of_lt (by omega), hnat]
    omega
  have h0 := htoInt hh (j := 0) (by decide)
  have k0 := htoInt hk (j := 0) (by decide)
  rw [setSubHalIndex_zero] at h0 k0
  rw [compareHandle, compareHandle, htoInt hh hi, htoInt hk hi, h0, k0]
  simp [compare, compareOfLessAndEq]

/-! ## One sub-HAL's entries in a map -/

/-- `m'` has the entries that `m` has for sub-HAL `i`, but for the flags of direct channels. -/
structure Mirrors (i : Nat) (m m' : SensorMap) : Prop where
  entry : ∀ h : SensorHandle, subHalIndexIsClear h = true →
    m'[h]?.map SensorInfo.shown = m[setSubHalIndex h i]?.map SensorInfo.shown
  clear : ∀ h ∈ m', subHalIndexIsClear h = true

/-- A dynamic sensor is shown alike whatever the number of its sub-HAL. -/
theorem shown_withSubHalIndex {sensor : SensorInfo}
    (hc : subHalIndexIsClear sensor.sensorHandle = true) (i : Nat) :
    (sensor.withSubHalIndex i).shown =
      { sensor with flags := sensor.flags &&& ~~~directChannelMask } := by
  rw [SensorInfo.shown, SensorInfo.own, SensorInfo.withSubHalIndex]
  dsimp only
  rw [clearSubHalIndex_setSubHalIndex hc i]

/-- The order of the keys. -/
def Precedes (h k : SensorHandle) : Prop := compareHandle h k = .lt

instance : Std.Irrefl Precedes where
  irrefl h hlt := by
    have heq : compareHandle h h = .eq := Std.ReflCmp.compare_self
    rw [Precedes, heq] at hlt
    cases hlt

instance : Std.Antisymm Precedes where
  antisymm h k hlt hgt := by
    have hswap : compareHandle k h = (compareHandle h k).swap := Std.OrientedCmp.eq_swap
    rw [Precedes, hswap, hlt] at hgt
    cases hgt

namespace Mirrors
variable {i : Nat} {m m' : SensorMap}

theorem empty (i : Nat) : Mirrors i ∅ ∅ :=
  ⟨fun h _ => by simp, fun h hh => absurd hh Std.TreeMap.not_mem_emptyc⟩

theorem mem_iff (hm : Mirrors i m m') {h : SensorHandle} :
    h ∈ m' ↔ subHalIndexIsClear h = true ∧ setSubHalIndex h i ∈ m := by
  have hsome : subHalIndexIsClear h = true → (h ∈ m' ↔ setSubHalIndex h i ∈ m) := by
    intro hc
    have hentry := congrArg Option.isSome (hm.entry h hc)
    rw [Option.isSome_map, Option.isSome_map] at hentry
    rw [Std.TreeMap.mem_iff_isSome_getElem?, Std.TreeMap.mem_iff_isSome_getElem?, hentry]
  constructor
  · intro hmem
    exact ⟨hm.clear h hmem, (hsome (hm.clear h hmem)).mp hmem⟩
  · rintro ⟨hc, hmem⟩
    exact (hsome hc).mpr hmem

/-- A message reports the same on a sensor, whatever the number of the sub-HAL. -/
theorem reports_eq (hi : i < 128) (message : SubHalMessage) {k : SensorHandle}
    (hk : subHalIndexIsClear k = true) :
    (message.reports i (setSubHalIndex k i)).map (Option.map SensorInfo.shown) =
      (message.reports 0 k).map (Option.map SensorInfo.shown) := by
  have hsame : ∀ h : SensorHandle, subHalIndexIsClear h = true →
      (setSubHalIndex h i = setSubHalIndex k i ↔ setSubHalIndex h 0 = k) := by
    intro h hc
    rw [setSubHalIndex_zero]
    exact ⟨fun he => (setSubHalIndex_inj hc hk (by omega) (by omega) he).2, fun he => he ▸ rfl⟩
  cases message with
  | sensorsConnected added =>
    have hmatch : (fun sensor : SensorInfo => decide (subHalIndexIsClear sensor.sensorHandle ∧
          setSubHalIndex sensor.sensorHandle i = setSubHalIndex k i)) =
        fun sensor => decide (subHalIndexIsClear sensor.sensorHandle ∧
          setSubHalIndex sensor.sensorHandle 0 = k) := by
      funext sensor
      exact decide_eq_decide.mpr (and_congr_right fun hc => hsame _ hc)
    rw [SubHalMessage.reports, SubHalMessage.reports, hmatch, Option.map_map, Option.map_map]
    refine Option.map_congr fun sensor hfind => ?_
    have hfound := List.find?_some hfind
    have hc := (of_decide_eq_true hfound).1
    exact congrArg some
      ((shown_withSubHalIndex hc i).trans (shown_withSubHalIndex hc 0).symm)
  | sensorsDisconnected removed =>
    have hmatch : (fun h : SensorHandle => decide (subHalIndexIsClear h ∧
          setSubHalIndex h i = setSubHalIndex k i)) =
        fun h => decide (subHalIndexIsClear h ∧ setSubHalIndex h 0 = k) := by
      funext h
      exact decide_eq_decide.mpr (and_congr_right fun hc => hsame h hc)
    rw [SubHalMessage.reports, SubHalMessage.reports, hmatch]
  | reportSensors | postEvents => rfl

/-- A message reports on handles of its sub-HAL only. -/
theorem extract_of_reports (hi : i < 128) {message : SubHalMessage} {k : SensorHandle}
    (h : message.reports i k ≠ none) : extractSubHalIndex k = i := by
  cases message with
  | sensorsConnected added =>
    rw [SubHalMessage.reports] at h
    obtain ⟨sensor, hfind⟩ := Option.ne_none_iff_exists'.mp (mt Option.map_eq_none_iff.mpr h)
    have hfound := List.find?_some hfind
    obtain ⟨hc, rfl⟩ := of_decide_eq_true hfound
    exact extractSubHalIndex_setSubHalIndex hc hi
  | sensorsDisconnected removed =>
    rw [SubHalMessage.reports, ne_eq, ite_eq_right_iff, Classical.not_imp] at h
    obtain ⟨g, -, hg⟩ := List.any_eq_true.mp h.1
    obtain ⟨hc, rfl⟩ := of_decide_eq_true hg
    exact extractSubHalIndex_setSubHalIndex hc hi
  | reportSensors | postEvents => exact absurd rfl h

/-- What a sub-HAL reports is entered for it as it would be with no other. -/
theorem of_reports (hm : Mirrors i m m') (hi : i < 128) {m₁ m₁' : SensorMap}
    (message : SubHalMessage)
    (h : ∀ k : SensorHandle, m₁[k]? = (message.reports i k).getD m[k]?)
    (h' : ∀ k : SensorHandle, m₁'[k]? = (message.reports 0 k).getD m'[k]?) :
    Mirrors i m₁ m₁' := by
  constructor
  · intro k hk
    have hmap : ∀ report : Option (Option SensorInfo), ∀ before : Option SensorInfo,
        (report.getD before).map SensorInfo.shown =
          (report.map (Option.map SensorInfo.shown)).getD (before.map SensorInfo.shown) := by
      intro report before
      cases report <;> rfl
    rw [h, h', hmap, hmap, reports_eq hi message hk, hm.entry k hk]
  · intro k hk
    by_cases hnone : message.reports 0 k = none
    · rw [Std.TreeMap.mem_iff_isSome_getElem?, h', hnone, Option.getD_none] at hk
      exact hm.clear k (Std.TreeMap.mem_iff_isSome_getElem?.mpr hk)
    · exact subHalIndexIsClear_of_extract (extract_of_reports (by decide) hnone)

/-- **The keys.**  Those of one sub-HAL stand in the order of its own table. -/
theorem keys_eq (hm : Mirrors i m m') (hi : i < 128) :
    (m.keys.filter fun k => extractSubHalIndex k = i).map clearSubHalIndex = m'.keys := by
  refine List.Pairwise.eq_of_mem_iff (r := Precedes) ?_ Std.TreeMap.ordered_keys fun h => ?_
  · rw [List.pairwise_map]
    refine (Std.TreeMap.ordered_keys.filter _).imp_of_mem fun {a b} ha hb hab => ?_
    have ha := of_decide_eq_true (List.mem_filter.mp ha).2
    have hb := of_decide_eq_true (List.mem_filter.mp hb).2
    rw [← setSubHalIndex_clearSubHalIndex hi ha, ← setSubHalIndex_clearSubHalIndex hi hb,
      compareHandle_setSubHalIndex (FrameworkSession.subHalIndexIsClear_clearSubHalIndex a)
        (FrameworkSession.subHalIndexIsClear_clearSubHalIndex b) hi] at hab
    exact hab
  · rw [Std.TreeMap.mem_keys, hm.mem_iff, List.mem_map]
    constructor
    · rintro ⟨k, hk, rfl⟩
      obtain ⟨hk, hindex⟩ := List.mem_filter.mp hk
      rw [setSubHalIndex_clearSubHalIndex hi (of_decide_eq_true hindex)]
      exact ⟨FrameworkSession.subHalIndexIsClear_clearSubHalIndex k, Std.TreeMap.mem_keys.mp hk⟩
    · rintro ⟨hc, hmem⟩
      refine ⟨setSubHalIndex h i, List.mem_filter.mpr ⟨Std.TreeMap.mem_keys.mpr hmem, ?_⟩,
        clearSubHalIndex_setSubHalIndex hc i⟩
      exact decide_eq_true (extractSubHalIndex_setSubHalIndex hc hi)

/-- The sensors given to the framework are those of the sub-HAL, in the same order. -/
theorem toList_eq (hm : Mirrors i m m') (hi : i < 128)
    (hkeyed : ∀ (k : SensorHandle) (info : SensorInfo), m[k]? = some info → info.sensorHandle = k) :
    ((m.toList.map Prod.snd).filter fun sensor =>
        extractSubHalIndex sensor.sensorHandle = i).map SensorInfo.shown =
      (m'.toList.map Prod.snd).map SensorInfo.shown := by
  have hlist : ∀ m : SensorMap, m.toList.map Prod.snd = m.keys.filterMap fun k => m[k]? := by
    intro m
    rw [← Std.TreeMap.map_fst_toList_eq_keys, List.filterMap_map, ← List.filterMap_eq_map]
    refine List.filterMap_congr fun kv hkv => ?_
    exact (Std.TreeMap.mem_toList_iff_getElem?_eq_some.mp hkv).symm
  have hown : (m.keys.filterMap fun k => m[k]?).filter (fun sensor =>
        extractSubHalIndex sensor.sensorHandle = i) =
      (m.keys.filter fun k => extractSubHalIndex k = i).filterMap fun k => m[k]? := by
    rw [List.filter_filterMap, List.filterMap_filter]
    refine List.filterMap_congr fun k _ => ?_
    cases hk : m[k]? with
    | none => simp
    | some info => rw [← hkeyed k info hk]; simp [Option.filter]
  rw [hlist m, hlist m', hown, List.map_filterMap, List.map_filterMap, ← hm.keys_eq hi,
    List.filterMap_map]
  refine List.filterMap_congr fun k hk => ?_
  have hindex := of_decide_eq_true (List.mem_filter.mp hk).2
  have hentry := hm.entry _ (FrameworkSession.subHalIndexIsClear_clearSubHalIndex k)
  rw [setSubHalIndex_clearSubHalIndex hi hindex] at hentry
  exact hentry.symm

/-- And as many of its events are wake-up events. -/
theorem wakeups_eq (hm : Mirrors i m m') {events : List Event}
    (hevents : ∀ event ∈ events, subHalIndexIsClear event.sensorHandle = true) :
    wakeups m (events.map (stampEvent i)) = wakeups m' (events.map (stampEvent 0)) := by
  have hshown : ∀ sensor : SensorInfo, sensor.shown.isWakeup = sensor.isWakeup := by
    intro sensor
    have hmask : ~~~directChannelMask &&& SensorFlagBits.WAKE_UP = SensorFlagBits.WAKE_UP := by
      decide
    rw [SensorInfo.isWakeup, SensorInfo.isWakeup, SensorInfo.shown, BitVec.and_assoc, hmask]
  have hinfo : ∀ o : Option SensorInfo, (o.getD default).isWakeup =
      ((o.map SensorInfo.shown).getD default).isWakeup := by
    intro o
    cases o with
    | none => rfl
    | some sensor => exact (hshown sensor).symm
  rw [wakeups, wakeups, List.countP_map, List.countP_map]
  refine List.countP_congr fun event hevent => ?_
  have hc := hevents event hevent
  simp only [Function.comp_apply, isWakeupEvent, getSensorInfo, stampEvent_sensorHandle,
    setSubHalIndex_zero]
  rw [hinfo m[_]?, hinfo m'[_]?, hm.entry _ hc]

end Mirrors

@[simp] theorem SubHalCall.sensorHandle_own (call : SubHalCall) :
    call.own.sensorHandle = clearSubHalIndex call.sensorHandle := by
  cases call <;> rfl

theorem clearSubHalIndex_idem (h : SensorHandle) :
    clearSubHalIndex (clearSubHalIndex h) = clearSubHalIndex h :=
  clearSubHalIndex_of_clear (FrameworkSession.subHalIndexIsClear_clearSubHalIndex h)

@[simp] theorem SubHalCall.own_own (call : SubHalCall) : call.own.own = call.own := by
  cases call <;> simp [SubHalCall.own, clearSubHalIndex_idem]

namespace HalProxy
variable {p q : HalProxy} (reply : Nat → SubHalCall → Result)

/-- The operation mode lets the request through. -/
def Grants (p : HalProxy) : SubHalCall → Prop
  | .injectSensorData event => p.Admits event
  | _ => True

theorem grants_own (hmode : q.mCurrentOperationMode = p.mCurrentOperationMode)
    (call : SubHalCall) : q.Grants call.own ↔ p.Grants call := by
  cases call with
  | injectSensorData event =>
    change (q.mCurrentOperationMode = _ → _) ↔ (p.mCurrentOperationMode = _ → _)
    rw [hmode]
  | activate | batch | flush => exact Iff.rfl

/-- A request goes to one sub-HAL. -/
theorem request_of_lt {call : SubHalCall} (hgrants : p.Grants call)
    (hlt : extractSubHalIndex call.sensorHandle < p.mSubHalList.length) :
    p.request reply call =
      some ⟨reply (extractSubHalIndex call.sensorHandle) call.own,
        [(extractSubHalIndex call.sensorHandle, call.own)]⟩ := by
  cases call with
  | injectSensorData event =>
    exact (injectSensorData_of_admits reply hgrants).trans (forward_of_valid reply hlt _)
  | activate | batch | flush => exact forward_of_valid reply hlt _

/-- Or to none. -/
theorem request_of_not {call : SubHalCall}
    (h : ¬ (p.Grants call ∧ extractSubHalIndex call.sensorHandle < p.mSubHalList.length)) :
    p.request reply call = some ⟨.BAD_VALUE, []⟩ := by
  cases call with
  | injectSensorData event =>
    by_cases hgrants : p.Admits event
    · have hle := Nat.not_lt.mp fun hlt => h ⟨hgrants, hlt⟩
      exact (injectSensorData_of_admits reply hgrants).trans (forward_of_invalid reply hle _)
    · exact if_pos (Classical.not_imp.mp hgrants)
  | activate | batch | flush =>
    exact forward_of_invalid reply (Nat.not_lt.mp fun hlt => h ⟨trivial, hlt⟩) _

/-- What `disableAllSensors` asks of one sub-HAL, in its order. -/
theorem disableAllSensors_own {i : Nat} (hi : i < p.mSubHalList.length) :
    ∃ log, p.disableAllSensors reply = some log ∧
      ((log.flatMap fun entry => entry.2.calls).filter fun call => call.1 = i).map Prod.snd =
        (((p.mSensors.keys ++ p.mDynamicSensors.keys).filter fun k =>
          extractSubHalIndex k = i).map clearSubHalIndex).map fun h => .activate h false := by
  have general : ∀ keys : List SensorHandle, ∃ log,
      (keys.mapM fun k => (p.activate reply k false).map fun a => (k, a)) = some log ∧
        ((log.flatMap fun entry => entry.2.calls).filter fun call => call.1 = i).map Prod.snd =
          ((keys.filter fun k => extractSubHalIndex k = i).map clearSubHalIndex).map
            fun h => .activate h false := by
    intro keys
    induction keys with
    | nil => exact ⟨[], rfl, rfl⟩
    | cons k keys ih =>
      obtain ⟨log, hlog, hcalls⟩ := ih
      obtain ⟨a, ha, hown⟩ : ∃ a, p.activate reply k false = some a ∧
          (a.calls.filter fun call => call.1 = i).map Prod.snd =
            if extractSubHalIndex k = i then [.activate (clearSubHalIndex k) false] else [] := by
        by_cases hlt : extractSubHalIndex k < p.mSubHalList.length
        · refine ⟨_, forward_of_valid reply hlt _, ?_⟩
          by_cases hki : extractSubHalIndex k = i
          · simp [hki]
          · simp [hki]
        · -- the call reaches no sub-HAL at all
          refine ⟨_, forward_of_invalid reply (Nat.not_lt.mp hlt) _, ?_⟩
          have hki : extractSubHalIndex k ≠ i := by omega
          rw [if_neg hki]
          rfl
      refine ⟨(k, a) :: log, by simp [List.mapM_cons, hlog, ha], ?_⟩
      rw [List.flatMap_cons, List.filter_append, List.map_append, hcalls, hown]
      by_cases hki : extractSubHalIndex k = i
      · simp [hki]
      · simp [hki]
  exact general (p.mSensors.keys ++ p.mDynamicSensors.keys)

end HalProxy

/-! ## What is seen -/

namespace Seen

theorem handles_cleared (seen : Seen Event) :
    seen.cleared.handles = seen.handles.map clearSubHalIndex := by
  cases seen <;> simp [handles, cleared, SensorInfo.own]

/-- The same under two numbers. -/
theorem own_eq_own {i : Nat} {seen seen' : Seen Event}
    (hposter : seen.poster = some i ↔ seen'.poster = some 0)
    (h : ∀ k ∈ seen.handles, extractSubHalIndex k = i)
    (h' : ∀ k ∈ seen'.handles, extractSubHalIndex k = 0) (hcleared : seen.cleared = seen'.cleared) :
    seen.own i = seen'.own 0 := by
  have hhandles := congrArg handles hcleared
  rw [handles_cleared, handles_cleared] at hhandles
  have hany : ∀ {j : Nat} {l : List SensorHandle}, (∀ k ∈ l, extractSubHalIndex k = j) →
      ((l.any fun k => extractSubHalIndex k = j) = true ↔ l.map clearSubHalIndex ≠ []) := by
    intro j l hl
    cases l with
    | nil => simp
    | cons k l => simp [hl k List.mem_cons_self]
  unfold own
  rw [hcleared]
  refine if_congr (or_congr hposter ?_) rfl rfl
  rw [hany h, hany h', hhandles]

end Seen

/-! ## Messages -/

theorem withinIndex_zero_iff {h : SensorHandle} : WithinIndex 0 h ↔ subHalIndexIsClear h = true := by
  rw [WithinIndex, Nat.or_zero, subHalIndexIsClear_iff]

/-- Stamping an event that is its sub-HAL's own can be undone. -/
theorem own_stampEvent {event : Event} (hc : subHalIndexIsClear event.sensorHandle = true)
    (hdynamic : event.sensorType = SensorType.DYNAMIC_SENSOR_META →
      subHalIndexIsClear event.u.dynamicSensorHandle = true) (i : Nat) :
    (stampEvent i event).own = event := by
  unfold Event.own stampEvent
  by_cases hmeta : event.sensorType = SensorType.DYNAMIC_SENSOR_META
  · simp only [hmeta, if_true, clearSubHalIndex_setSubHalIndex hc,
      clearSubHalIndex_setSubHalIndex (hdynamic hmeta)]
    rw [← hmeta]
  · simp [hmeta, clearSubHalIndex_setSubHalIndex hc]

/-- The framework gets the events of a sub-HAL as they were posted, but for light events. -/
theorem own_processEvents {events : List Event} (hown : PostsWithin 0 (.postEvents events))
    (m : SensorMap) (i : Nat) :
    ((processEvents m i events).1.map fun event =>
        (PipelineRun.unlessLight event).map Event.own) =
      events.map PipelineRun.unlessLight := by
  rw [processEvents_fst, List.map_map]
  refine List.map_congr_left fun event hevent => ?_
  obtain ⟨hc, hdynamic⟩ := hown event hevent
  have hsame : (stampEvent i event).own = event :=
    own_stampEvent (withinIndex_zero_iff.mp hc)
      (fun hmeta => withinIndex_zero_iff.mp (hdynamic hmeta)) i
  rw [Function.comp_apply, PipelineRun.unlessLight, PipelineRun.unlessLight,
    stampEvent_sensorType]
  split
  · rfl
  · exact congrArg some hsame

/-- The light correction does not show in it. -/
theorem cleared_corrected (globals : AlsGlobals) (pow22 : Rat → Rat) (light : LightState)
    (i : Nat) (events : List Event) (n : Nat) :
    (Seen.posted i (correctEvents (correctLight (processLight globals pow22)) light events).1
        n).cleared = (Seen.posted i events n).cleared := by
  refine congrArg (Seen.posted 0 · n) ?_
  refine PipelineRun.map_correctEvents (fun event => (PipelineRun.unlessLight event).map Event.own)
    (fun light event => ?_) light events
  rw [PipelineRun.unlessLight_correctLight]

theorem stamped_corrected (globals : AlsGlobals) (pow22 : Rat → Rat) (light : LightState) {i : Nat}
    (hi : i < 128) {events : List Event}
    (hclear : ∀ event ∈ events, subHalIndexIsClear event.sensorHandle = true) (m : SensorMap)
    (n : Nat) :
    (Seen.posted i (correctEvents (correctLight (processLight globals pow22)) light
      (processEvents m i events).1).1 n).Stamped := by
  have hunseen := congrArg (List.filterMap id)
    (PipelineRun.map_correctEvents PipelineRun.unlessLight
      (PipelineRun.unlessLight_correctLight globals pow22) light (processEvents m i events).1)
  rw [List.filterMap_map, List.filterMap_map, Function.id_comp] at hunseen
  rw [Seen.Stamped, hunseen, processEvents_fst]
  intro event hevent
  obtain ⟨stamped, hstamped, hevent⟩ := List.mem_filterMap.mp hevent
  obtain ⟨posted, hposted, rfl⟩ := List.mem_map.mp hstamped
  obtain ⟨-, hevent⟩ := Option.ite_none_left_eq_some.mp hevent
  cases hevent
  rw [stampEvent_sensorHandle]
  exact extractSubHalIndex_setSubHalIndex (hclear posted hposted) hi

/-- The framework is told of the same connected sensors. -/
theorem own_onDynamicSensorsConnected (m : SensorMap) (added : List SensorInfo) (i : Nat) :
    (onDynamicSensorsConnected m added i).2.map SensorInfo.own =
      added.filter fun sensor => subHalIndexIsClear sensor.sensorHandle := by
  rw [onDynamicSensorsConnected, foldl_connectSensor_snd, List.nil_append, List.map_map]
  refine (List.map_congr_left (g := id) fun sensor hsensor => ?_).trans (List.map_id _)
  have hc := (List.mem_filter.mp hsensor).2
  rw [Function.comp_apply, SensorInfo.own]
  dsimp only
  rw [clearSubHalIndex_setSubHalIndex hc, id]

/-- Disconnected sensors go from both maps, and the framework is told of the same. -/
theorem Mirrors.disconnect {i : Nat} {m m' : SensorMap} (hm : Mirrors i m m') (hi : i < 128)
    (removed : List SensorHandle) :
    Mirrors i (onDynamicSensorsDisconnected m removed i).1
        (onDynamicSensorsDisconnected m' removed 0).1 ∧
      (onDynamicSensorsDisconnected m removed i).2.map clearSubHalIndex =
        (onDynamicSensorsDisconnected m' removed 0).2.map clearSubHalIndex := by
  refine List.foldl_rel (r := fun (st st' : SensorMap × List SensorHandle) =>
    Mirrors i st.1 st'.1 ∧ st.2.map clearSubHalIndex = st'.2.map clearSubHalIndex) ⟨hm, rfl⟩ ?_
  rintro h - ⟨st, out⟩ ⟨st', out'⟩ ⟨hst, hout⟩
  refine ⟨?_, ?_⟩
  · exact hst.of_reports hi (.sensorsDisconnected [h])
      (getElem?_foldl_disconnectSensor i [h] (st, out))
      (getElem?_foldl_disconnectSensor 0 [h] (st', out'))
  · unfold disconnectSensor
    dsimp only
    by_cases hc : subHalIndexIsClear h = true
    · rw [if_pos hc, if_pos hc, setSubHalIndex_zero]
      by_cases hmem : setSubHalIndex h i ∈ st
      · rw [if_pos hmem, if_pos (hst.mem_iff.mpr ⟨hc, hmem⟩)]
        simp [hout, clearSubHalIndex_setSubHalIndex hc, clearSubHalIndex_of_clear hc]
      · rw [if_neg hmem, if_neg fun h' => hmem (hst.mem_iff.mp h').2]
        exact hout
    · rw [if_neg hc, if_neg hc]
      exact hout

/-! ## One sub-HAL's view -/

namespace MultiHal
variable {σ : Type} {program : SubHalProgram σ} {globals globals' : AlsGlobals}
  {pow22 pow22' : Rat → Rat}

/-- `s'`, with one sub-HAL, is what there is of `s` for its sub-HAL `i`. -/
structure OwnView (i : Nat) (s s' : MultiHal σ) : Prop where
  index : i < s.proxy.mSubHalList.length
  length : s.proxy.mSubHalList.length ≤ 128
  alone : s'.proxy.mSubHalList.length = 1
  mode : s'.proxy.mCurrentOperationMode = s.proxy.mCurrentOperationMode
  sensors : Mirrors i s.proxy.mSensors s'.proxy.mSensors
  dynamic : Mirrors i s.proxy.mDynamicSensors s'.proxy.mDynamicSensors
  subHal : s'.subHals 0 = s.subHals i
  seen : s'.seen.filterMap (Seen.own 0) = s.seen.filterMap (Seen.own i)
  stamped : ∀ seen ∈ s.seen, seen.Stamped

/-- A sub-HAL takes in the calls that name it. -/
theorem called_apply (program : SubHalProgram σ) (s : MultiHal σ)
    (calls : List (Nat × SubHalCall)) (i : Nat) :
    s.called program calls i =
      ((calls.filter fun call => call.1 = i).map Prod.snd).foldl
        (fun subHal call => (program.call subHal call).2) (s.subHals i) :=
  foldl_update_apply (fun subHal call => (program.call subHal call).2) calls s.subHals i

namespace OwnView
variable {i : Nat} {s s' t : MultiHal σ}

theorem index_lt (view : OwnView i s s') : i < 128 :=
  Nat.lt_of_lt_of_le view.index view.length

theorem stamped_append (view : OwnView i s s') {seen : Seen Event} (h : seen.Stamped) :
    ∀ seen' ∈ s.seen ++ [seen], seen'.Stamped :=
  List.forall_mem_append.mpr ⟨view.stamped, List.forall_mem_singleton.mpr h⟩

/-- A request for one of its sensors. -/
theorem request (view : OwnView i s s') {call : SubHalCall}
    (hcall : extractSubHalIndex call.sensorHandle = i)
    (h : s.step globals pow22 program (.request call) = some t) :
    ∃ t', s'.step globals' pow22' program (.request call.own) = some t' ∧ OwnView i t t' := by
  have hown : extractSubHalIndex call.own.sensorHandle = 0 := by
    rw [SubHalCall.sensorHandle_own]
    exact extractSubHalIndex_of_clear (FrameworkSession.subHalIndexIsClear_clearSubHalIndex _)
  have hlt : extractSubHalIndex call.sensorHandle < s.proxy.mSubHalList.length :=
    hcall ▸ view.index
  have hlt' : extractSubHalIndex call.own.sensorHandle < s'.proxy.mSubHalList.length := by
    rw [hown, view.alone]
    exact Nat.one_pos
  have hgrants := HalProxy.grants_own view.mode call
  have hanswer : ∀ result, (Seen.answer call.sensorHandle result).own i =
      (Seen.answer call.own.sensorHandle result).own 0 := by
    intro result
    refine Seen.own_eq_own ?_ ?_ ?_ ?_
    · simp [Seen.poster]
    · simp [Seen.handles, hcall]
    · rw [Seen.handles, List.forall_mem_singleton]
      exact hown
    · rw [Seen.cleared, Seen.cleared, SubHalCall.sensorHandle_own, clearSubHalIndex_idem]
  -- the answers are the same, and so are the calls to this sub-HAL
  obtain ⟨answer, answer', hreq, hreq', hresult, hcalls⟩ : ∃ answer answer',
      s.proxy.request (s.reply program) call = some answer ∧
      s'.proxy.request (s'.reply program) call.own = some answer' ∧
      answer'.result = answer.result ∧
      (answer'.calls.filter fun c => c.1 = 0).map Prod.snd =
        (answer.calls.filter fun c => c.1 = i).map Prod.snd := by
    by_cases hg : s.proxy.Grants call
    · refine ⟨_, _, HalProxy.request_of_lt _ hg hlt,
        HalProxy.request_of_lt _ (hgrants.mpr hg) hlt', ?_, ?_⟩
      · simp only [reply, hown, hcall, view.subHal, SubHalCall.own_own]
      · rw [hown, hcall, SubHalCall.own_own]
        simp
    · exact ⟨_, _, HalProxy.request_of_not _ fun hboth => hg hboth.1,
        HalProxy.request_of_not _ fun hboth => hg (hgrants.mp hboth.1), rfl, rfl⟩
  rw [step, hreq] at h
  cases h
  refine ⟨s'.answered program call.own answer', congrArg (Option.map _) hreq', ?_⟩
  refine ⟨view.index, view.length, view.alone, view.mode, view.sensors, view.dynamic, ?_, ?_,
    view.stamped_append trivial⟩
  · calc (s'.answered program call.own answer').subHals 0
        = _ := called_apply program s' answer'.calls 0
      _ = _ := by rw [hcalls, view.subHal]
      _ = (s.answered program call answer).subHals i := (called_apply program s answer.calls i).symm
  · rw [answered, answered, hresult]
    simp only [List.filterMap_append, List.filterMap_cons, List.filterMap_nil, hanswer, view.seen]

/-- `initialize` switches off its sensors in the same order. -/
theorem initializeCommon (view : OwnView i s s')
    (h : s.step globals pow22 program .initializeCommon = some t) :
    ∃ t', s'.step globals' pow22' program .initializeCommon = some t' ∧ OwnView i t t' := by
  obtain ⟨log, hlog, hcalls⟩ := HalProxy.disableAllSensors_own (s.reply program) view.index
  obtain ⟨log', hlog', hcalls'⟩ := HalProxy.disableAllSensors_own (p := s'.proxy) (i := 0)
    (s'.reply program) (view.alone ▸ Nat.one_pos)
  rw [step, hlog] at h
  cases h
  have hkeys : ∀ {m m' : SensorMap}, Mirrors i m m' →
      (m'.keys.filter fun k => extractSubHalIndex k = 0).map clearSubHalIndex =
        (m.keys.filter fun k => extractSubHalIndex k = i).map clearSubHalIndex := by
    intro m m' hm
    have hclear : ∀ k ∈ m'.keys, subHalIndexIsClear k = true :=
      fun k hk => hm.clear k (Std.TreeMap.mem_keys.mp hk)
    have hall : (m'.keys.filter fun k => extractSubHalIndex k = 0) = m'.keys :=
      List.filter_eq_self.mpr fun k hk =>
        decide_eq_true (extractSubHalIndex_of_clear (hclear k hk))
    rw [hm.keys_eq view.index_lt, hall]
    exact (List.map_congr_left fun k hk => clearSubHalIndex_of_clear (hclear k hk)).trans
      (List.map_id _)
  refine ⟨s'.initialized program log', congrArg (Option.map _) hlog', ?_⟩
  refine ⟨view.index, view.length, view.alone, rfl, view.sensors, Mirrors.empty i, ?_, view.seen,
    view.stamped⟩
  refine congrArg program.initialized ?_
  rw [called_apply, called_apply, hcalls, hcalls', view.subHal]
  simp only [List.filter_append, List.map_append, hkeys view.sensors, hkeys view.dynamic]

/-- A message of its own. -/
theorem tell (view : OwnView i s s') {message : SubHalMessage} (hown : PostsWithin 0 message)
    (h : s.step globals pow22 program (.tell i message) = some t) :
    ∃ t', s'.step globals' pow22' program (.tell 0 message) = some t' ∧ OwnView i t t' := by
  obtain ⟨-, h⟩ := Option.ite_none_right_eq_some.mp h
  obtain ⟨subHal, hsubHal, h⟩ := Option.bind_eq_some_iff.mp h
  have hi := view.index_lt
  -- both proxies get the message from the same sub-HAL
  let told : MultiHal σ := { s' with subHals := Function.update s'.subHals 0 subHal }
  suffices ∃ t', told.receive globals' pow22' 0 message = some t' ∧ OwnView i t t' by
    obtain ⟨t', hreceive, hview⟩ := this
    refine ⟨t', ?_, hview⟩
    rw [step, if_pos (view.alone ▸ Nat.one_pos), view.subHal, hsubHal]
    exact hreceive
  have hupdate : told.subHals 0 = Function.update s.subHals i subHal i :=
    (Function.update_self 0 subHal s'.subHals).trans (Function.update_self i subHal s.subHals).symm
  have hseen : ∀ seen seen' : Seen Event, (seen.poster = some i ↔ seen'.poster = some 0) →
      (∀ k ∈ seen.handles, extractSubHalIndex k = i) →
      (∀ k ∈ seen'.handles, extractSubHalIndex k = 0) → seen.cleared = seen'.cleared →
      (s'.seen ++ [seen']).filterMap (Seen.own 0) = (s.seen ++ [seen]).filterMap (Seen.own i) := by
    intro seen seen' hposter hhandles hhandles' hcleared
    simp only [List.filterMap_append, List.filterMap_cons, List.filterMap_nil, view.seen,
      Seen.own_eq_own hposter hhandles hhandles' hcleared]
  cases message with
  | reportSensors sensors => cases h
  | sensorsConnected added =>
    cases h
    refine ⟨_, rfl, view.index, view.length, view.alone, view.mode, view.sensors, ?_, hupdate, ?_,
      view.stamped_append trivial⟩
    · exact view.dynamic.of_reports hi (.sensorsConnected added)
        (getElem?_foldl_connectSensor i added (_, [])) (getElem?_foldl_connectSensor 0 added (_, []))
    · refine hseen _ _ (by simp [Seen.poster]) ?_ ?_ ?_
      · simpa [Seen.handles] using (onDynamicSensorsConnected_owned hi _ added).2
      · simpa [Seen.handles] using (onDynamicSensorsConnected_owned (i := 0) (by decide) _ added).2
      · rw [Seen.cleared, Seen.cleared, own_onDynamicSensorsConnected,
          own_onDynamicSensorsConnected]
  | sensorsDisconnected removed =>
    cases h
    obtain ⟨hdynamic, hout⟩ := view.dynamic.disconnect hi removed
    refine ⟨_, rfl, view.index, view.length, view.alone, view.mode, view.sensors, hdynamic, hupdate,
      hseen _ _ (by simp [Seen.poster]) ?_ ?_ ?_, view.stamped_append trivial⟩
    · exact (onDynamicSensorsDisconnected_owned hi _ removed).2
    · exact (onDynamicSensorsDisconnected_owned (i := 0) (by decide) _ removed).2
    · rw [Seen.cleared, Seen.cleared, hout]
  | postEvents events =>
    have hclear : ∀ event ∈ events, subHalIndexIsClear event.sensorHandle = true :=
      fun event hevent => withinIndex_zero_iff.mp (hown event hevent).1
    dsimp only [receive] at h ⊢
    by_cases hempty : events = []
    · rw [if_pos hempty] at h ⊢
      cases h
      exact ⟨_, rfl, view.index, view.length, view.alone, view.mode, view.sensors, view.dynamic,
        hupdate, view.seen, view.stamped⟩
    · rw [if_neg hempty] at h ⊢
      cases h
      refine ⟨_, rfl, view.index, view.length, view.alone, view.mode, view.sensors, view.dynamic,
        hupdate, hseen _ _ ?_ nofun nofun ?_,
        view.stamped_append (stamped_corrected globals pow22 _ hi hclear _ _)⟩
      · exact iff_of_true rfl rfl
      · -- both light corrections keep what is seen of the stamped events
        rw [cleared_corrected, cleared_corrected, Seen.cleared, Seen.cleared,
          own_processEvents hown, own_processEvents hown, processEvents_snd, processEvents_snd,
          processEvents_fst, processEvents_fst, view.sensors.wakeups_eq hclear]

end OwnView

end MultiHal

end SensorsHal
