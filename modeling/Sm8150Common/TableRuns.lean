import Sm8150Common.DynamicSensors
import Sm8150Common.SessionReset
import Sm8150Common.WakeupCharges

/-!
# The sensor table while the proxy runs

The constructor fills `mSensors`, and everything after it only looks things up
there.  But `countNumWakeupEvents` does so with `operator[]` (`HalProxy.cpp`, line
764), which makes an entry for a handle that has none; its sibling
`getSensorInfo` does not.

A `ProxyRun` is the proxy over any number of sessions, each begun by an
`initialize` that takes the statements of `SessionReset` one at a time, with posts
and dynamic sensors coming and going in between.  `table_fixed` says that the
table stays as it was built on every run whose failed chunks, when they are
counted, are of registered sensors; `phantom_sensor` is a run in which one is not.
-/
namespace SensorsHal

/-! ## Counting a chunk -/

/-- The entries `countNumWakeupEvents` makes up. -/
theorem getElem?_foldl_countWakeupEvent (events : List Event) (st : Nat × SensorMap)
    (k : SensorHandle) :
    (events.foldl countWakeupEvent st).2[k]? =
      if k ∉ st.2 ∧ k ∈ events.map Event.sensorHandle then some default else st.2[k]? := by
  induction events generalizing st with
  | nil => simp
  | cons event events ih =>
    have hlookup : (countWakeupEvent st event).2[k]? =
        if event.sensorHandle = k ∧ k ∉ st.2 then some default else st.2[k]? := by
      rw [countWakeupEvent]
      simp only [Std.TreeMap.getElem?_insertIfNew, Std.LawfulEqCmp.compare_eq_iff_eq]
      by_cases hk : event.sensorHandle = k
      · rw [hk]
      · simp [hk]
    have hmem : k ∈ (countWakeupEvent st event).2 ↔ event.sensorHandle = k ∨ k ∈ st.2 := by
      rw [countWakeupEvent, Std.TreeMap.mem_insertIfNew, Std.LawfulEqCmp.compare_eq_iff_eq]
    rw [List.foldl_cons, ih, hlookup]
    simp only [hmem, List.map_cons, List.mem_cons]
    grind

theorem getElem?_countNumWakeupEvents (mSensors : SensorMap) (events : List Event) (n : Nat)
    (k : SensorHandle) :
    (countNumWakeupEvents mSensors events n).2[k]? =
      if k ∉ mSensors ∧ k ∈ (events.take n).map Event.sensorHandle then some default
      else mSensors[k]? :=
  getElem?_foldl_countWakeupEvent (events.take n) (0, mSensors) k

/-- A failed chunk that the worker counts is of sensors in the table. -/
def CountsRegistered (mSensors : SensorMap) (pendingWriteEvents : List Event)
    (it : EventPipeline.Iteration) : Prop :=
  0 < it.numWakeupEvents → it.eventQueueSize < pendingWriteEvents.length →
    ∀ event ∈ pendingWriteEvents.take it.eventQueueSize, event.sensorHandle ∈ mSensors

instance (mSensors : SensorMap) (pendingWriteEvents : List Event)
    (it : EventPipeline.Iteration) : Decidable (CountsRegistered mSensors pendingWriteEvents it) :=
  haveI : Decidable (∀ event ∈ pendingWriteEvents.take it.eventQueueSize,
      event.sensorHandle ∈ mSensors) := List.decidableBAll _ _
  inferInstanceAs (Decidable (_ → _ → _))

/-- **One failed chunk** leaves every entry as it was if and only if the worker
does not count it, or finds all its sensors. -/
theorem failedWriteDelta_keeps_iff (mSensors : SensorMap) (pendingWriteEvents : List Event)
    (it : EventPipeline.Iteration) :
    (∀ k : SensorHandle, (failedWriteDelta mSensors pendingWriteEvents it).2[k]? = mSensors[k]?) ↔
      CountsRegistered mSensors pendingWriteEvents it := by
  unfold failedWriteDelta
  by_cases hpos : 0 < it.numWakeupEvents
  · by_cases hlt : it.eventQueueSize < pendingWriteEvents.length
    · rw [if_pos hpos, if_pos hlt]
      constructor
      · intro h _ _ event hevent
        by_cases hmem : event.sensorHandle ∈ mSensors
        · exact hmem
        · have hmade := h event.sensorHandle
          rw [getElem?_countNumWakeupEvents, if_pos ⟨hmem, List.mem_map_of_mem hevent⟩,
            Std.TreeMap.getElem?_eq_none hmem] at hmade
          cases hmade
      · intro h k
        rw [getElem?_countNumWakeupEvents, if_neg]
        rintro ⟨hnot, hk⟩
        obtain ⟨event, hevent, rfl⟩ := List.mem_map.mp hk
        exact hnot (h hpos hlt event hevent)
    · rw [if_pos hpos, if_neg hlt]
      exact ⟨fun _ _ h => absurd h hlt, fun _ _ => rfl⟩
  · rw [if_neg hpos]
    exact ⟨fun _ h => absurd h hpos, fun _ _ => rfl⟩

/-! ## The proxy at work -/

/-- The front entry and the locals of the worker's iteration, if its
`writeBlocking` returns false. -/
def InitRun.failedChunk {α ε : Type} (s : InitRun α ε) (succeeds : Bool) :
    Option (List ε × EventPipeline.Iteration) :=
  match s.run.worker, s.run.pipeline.mPendingWriteEventsQueue with
  | .writing it, front :: _ =>
    if (s.run.pipeline.mEventQueue.write (front.1.take it.numToWrite) succeeds).2 then none
    else some (front.1.map Stamped.event, it)
  | _, _ => none

/-- The proxy, the session under way with the size of its event queue, and on
record the calls of `onDynamicSensorsConnected` with their sub-HALs. -/
structure ProxyRun (α : Type) where
  proxy : HalProxy
  session : InitRun α Event
  newQueueSize : Nat
  connections : List (Nat × List SensorInfo)

/-- An `initializeCommon` begins; its statements and the pipeline go on; sub-HALs call the proxy. -/
inductive ProxyStep
  | initializeCommon (newQueueSize : Nat)
  | session (l : InitStep Event)
  | postEvents (subHalIndex : Nat) (events : List Event)
  | connect (dynamicSensorsAdded : List SensorInfo) (subHalIndex : Nat)
  | disconnect (dynamicSensorHandlesRemoved : List SensorHandle) (subHalIndex : Nat)

namespace ProxyRun
variable {α : Type}

/-- What a step of a session does to the proxy: `initializeCommon` clears the
dynamic sensors and resets the mode, and a chunk that could not be written is
counted. -/
def proxyAfter (p : HalProxy) (s : InitRun α Event) : InitStep Event → HalProxy
  | .statement =>
    match s.next with
    | .clearDynamicSensors => { p with mDynamicSensors := ∅ }
    | .storeOperationMode => { p with mCurrentOperationMode := .NORMAL }
    | _ => p
  | .pipeline (.writeBlocking succeeds) =>
    match s.failedChunk succeeds with
    | some (pendingWriteEvents, it) =>
      { p with mSensors := (failedWriteDelta p.mSensors pendingWriteEvents it).2 }
    | none => p
  | _ => p

/-- A new `initialize` finds every call that is under way stale. -/
def restart (s : InitRun α Event) : InitRun α Event :=
  { s with
    next := .storeThreadsStopped
    reinitialised := 0
    calls := s.calls.map fun call => { call with stale := true } }

def step (limits : Limits) (process : α → Event → Event × α) (s : ProxyRun α) :
    ProxyStep → Option (ProxyRun α)
  | .initializeCommon newQueueSize =>
    if s.session.next = .returned then
      some { s with session := restart s.session, newQueueSize := newQueueSize }
    else none
  | .session (.begin ..) => none
  | .session l =>
    (s.session.step limits (correctLight process) s.newQueueSize s.proxy.mSubHalList.length l).map
      fun session => { s with session := session, proxy := proxyAfter s.proxy s.session l }
  | .postEvents subHalIndex events =>
    let (processedEvents, numWakeupEvents) := processEvents s.proxy.mSensors subHalIndex events
    (s.session.step limits (correctLight process) s.newQueueSize s.proxy.mSubHalList.length
      (.begin subHalIndex processedEvents numWakeupEvents)).map
        fun session => { s with session := session }
  | .connect added i =>
    some { s with
      proxy := { s.proxy with
        mDynamicSensors := (onDynamicSensorsConnected s.proxy.mDynamicSensors added i).1 }
      connections := s.connections ++ [(i, added)] }
  | .disconnect removed i =>
    some { s with
      proxy := { s.proxy with
        mDynamicSensors := (onDynamicSensorsDisconnected s.proxy.mDynamicSensors removed i).1 } }

/-- The constructor has returned: there is no worker yet, and nothing is queued. -/
def machine (limits : Limits) (process : α → Event → Event × α) (mSubHalList : List SubHal) :
    StepMachine (ProxyRun α) ProxyStep where
  init s := s.proxy = HalProxy.construct mSubHalList ∧ s.session.next = .returned ∧
    s.session.workerAlive = false ∧ s.session.calls = [] ∧ s.connections = [] ∧
    (PipelineRun.machine limits fun (s : α) (e : Stamped Event) => (e, s)).init s.session.run
  step := step limits process

/-- The failed chunk of the step, if the worker counts it, is of registered
sensors. -/
def FailuresRegistered (s : ProxyRun α) : ProxyStep → Prop
  | .session (.pipeline (.writeBlocking succeeds)) =>
    ∀ chunk ∈ s.session.failedChunk succeeds, CountsRegistered s.proxy.mSensors chunk.1 chunk.2
  | _ => True

instance (s : ProxyRun α) : DecidablePred (FailuresRegistered s)
  | .session (.pipeline (.writeBlocking succeeds)) =>
    inferInstanceAs (Decidable (∀ chunk ∈ s.session.failedChunk succeeds, _))
  | .session (.pipeline (.post ..)) | .session (.pipeline .probe)
  | .session (.pipeline (.write _)) | .session (.pipeline .store) | .session (.pipeline .wake)
  | .session (.pipeline .test) | .session (.pipeline .retire) | .session (.pipeline (.read _))
  | .session .statement | .session (.begin ..) | .session (.check _) | .session (.body ..)
  | .initializeCommon _ | .postEvents .. | .connect .. | .disconnect .. => isTrue trivial

/-- A sub-HAL has connected the dynamic sensor `k`. -/
def HasConnected (s : ProxyRun α) (k : SensorHandle) : Prop :=
  ∃ call ∈ s.connections, ∃ sensor ∈ call.2, subHalIndexIsClear sensor.sensorHandle = true ∧
    setSubHalIndex sensor.sensorHandle call.1 = k

/-! ## What a step does to the maps -/

/-- The table has every entry it was built with, and no other; the dynamic sensors
have been connected. -/
structure AsBuilt (mSubHalList : List SubHal) (s : ProxyRun α) : Prop where
  static : ∀ k : SensorHandle,
    s.proxy.mSensors[k]? = (initializeSensorList mSubHalList).mSensors[k]?
  dynamic : ∀ k : SensorHandle, k ∈ s.proxy.mDynamicSensors → s.HasConnected k

/-- A step of a session leaves the table as it is, apart from a counted chunk, and
connects nothing. -/
theorem proxyAfter_cases (p : HalProxy) (s : InitRun α Event) (l : InitStep Event) :
    ((proxyAfter p s l).mSensors = p.mSensors ∨ ∃ succeeds chunk,
      l = .pipeline (.writeBlocking succeeds) ∧ s.failedChunk succeeds = some chunk ∧
      (proxyAfter p s l).mSensors = (failedWriteDelta p.mSensors chunk.1 chunk.2).2) ∧
    ((proxyAfter p s l).mDynamicSensors = p.mDynamicSensors ∨
      (proxyAfter p s l).mDynamicSensors = ∅) := by
  unfold proxyAfter
  split
  · split
    · exact ⟨Or.inl rfl, Or.inr rfl⟩
    · exact ⟨Or.inl rfl, Or.inl rfl⟩
    · exact ⟨Or.inl rfl, Or.inl rfl⟩
  · rename_i succeeds
    split
    · rename_i hchunk
      exact ⟨Or.inr ⟨succeeds, _, rfl, hchunk, rfl⟩, Or.inl rfl⟩
    · exact ⟨Or.inl rfl, Or.inl rfl⟩
  · exact ⟨Or.inl rfl, Or.inl rfl⟩

section Steps
variable {limits : Limits} {process : α → Event → Event × α} {mSubHalList : List SubHal}
  {s t : ProxyRun α}

theorem asBuilt_session {l : InitStep Event} (hs : AsBuilt mSubHalList s)
    (hok : s.FailuresRegistered (.session l)) (session : InitRun α Event) :
    AsBuilt mSubHalList
      { s with session := session, proxy := proxyAfter s.proxy s.session l } := by
  obtain ⟨hstatic, hdynamic⟩ := proxyAfter_cases s.proxy s.session l
  constructor
  · intro k
    dsimp only
    rcases hstatic with hsame | ⟨succeeds, chunk, rfl, hchunk, hcounted⟩
    · rw [hsame]
      exact hs.static k
    · rw [hcounted, (failedWriteDelta_keeps_iff _ _ _).mpr (hok chunk hchunk)]
      exact hs.static k
  · intro k hk
    dsimp only at hk
    rcases hdynamic with hsame | hempty
    · rw [hsame] at hk
      exact hs.dynamic k hk
    · rw [hempty] at hk
      exact absurd hk Std.TreeMap.not_mem_emptyc

theorem asBuilt_init (h : (machine limits process mSubHalList).init s) : AsBuilt mSubHalList s := by
  obtain ⟨hproxy, -⟩ := h
  constructor
  · intro k
    rw [hproxy]
    rfl
  · intro k hk
    rw [hproxy] at hk
    exact absurd hk Std.TreeMap.not_mem_emptyc

theorem asBuilt_step {l : ProxyStep} (hs : AsBuilt mSubHalList s) (hok : s.FailuresRegistered l)
    (h : step limits process s l = some t) : AsBuilt mSubHalList t := by
  cases l with
  | initializeCommon newQueueSize =>
    obtain ⟨-, rfl⟩ := Option.ite_none_right_eq_some.mp h |>.imp_right Option.some.inj
    exact ⟨hs.static, hs.dynamic⟩
  | session l =>
    cases l with
    | begin subHal events numWakeupEvents => cases h
    | _ =>
      obtain ⟨session, -, rfl⟩ := Option.map_eq_some_iff.mp h
      exact asBuilt_session hs hok session
  | postEvents subHalIndex events =>
    dsimp only [step] at h
    obtain ⟨session, -, rfl⟩ := Option.map_eq_some_iff.mp h
    exact ⟨hs.static, hs.dynamic⟩
  | connect added i =>
    obtain rfl := Option.some.inj h
    refine ⟨hs.static, fun k hk => ?_⟩
    rcases mem_onDynamicSensorsConnected.mp hk with hk | hnew
    · obtain ⟨call, hcall, hsensor⟩ := hs.dynamic k hk
      exact ⟨call, List.mem_append_left _ hcall, hsensor⟩
    · exact ⟨(i, added), List.mem_append_right _ (List.mem_singleton_self _), hnew⟩
  | disconnect removed i =>
    obtain rfl := Option.some.inj h
    refine ⟨hs.static, fun k hk => ?_⟩
    -- a disconnection leaves no key that was not there
    have hset := keySet_onDynamicSensorsDisconnected s.proxy.mDynamicSensors removed i
    have hk' := mem_keySet.mpr hk
    rw [hset, Notice.mem_tell_disconnected, mem_keySet] at hk'
    exact hs.dynamic k hk'.1

end Steps

/-- **The static table is fixed.**  On every run whose counted chunks are of
registered sensors, the table has the handles and entries it was built with, the
list given to the framework is the one of the constructor, and `disableAllSensors`
turns off nothing that no sub-HAL has reported or connected. -/
theorem table_fixed (limits : Limits) (process : α → Event → Event × α)
    (mSubHalList : List SubHal) {s : ProxyRun α}
    (h : (machine limits process mSubHalList).ReachableBy FailuresRegistered s) :
    (∀ k : SensorHandle,
        s.proxy.mSensors[k]? = (initializeSensorList mSubHalList).mSensors[k]?) ∧
      s.proxy.getSensorsList_2_1 = (HalProxy.construct mSubHalList).getSensorsList_2_1 ∧
      ∀ reply, ∃ log, s.proxy.disableAllSensors reply = some log ∧ ∀ k a, (k, a) ∈ log →
        (∃ i h, Reports mSubHalList i h ∧ k = setSubHalIndex h i) ∨ s.HasConnected k := by
  have hs : AsBuilt mSubHalList s :=
    h.invariant (fun _ => asBuilt_init) fun _ _ _ hs hok ht => asBuilt_step hs hok ht
  have hequiv : s.proxy.mSensors.Equiv (initializeSensorList mSubHalList).mSensors :=
    Std.TreeMap.Equiv.of_forall_constGet?_eq hs.static
  refine ⟨hs.static, congrArg (List.map Prod.snd) hequiv.toList_eq, fun reply => ?_⟩
  obtain ⟨log, hlog, hmem⟩ := HalProxy.disableAllSensors_eq (p := s.proxy) reply
  refine ⟨log, hlog, fun k a hk => ?_⟩
  rcases ((hmem k a).mp hk).1 with hstatic | hdynamic
  · exact Or.inl (mem_mSensors.mp (hequiv.mem_iff.mp hstatic))
  · exact Or.inr (hs.dynamic k hdynamic)

/-- One sub-HAL with one wake-up sensor. -/
def oneSensor : List SubHal := [⟨[⟨5#32, 1, SensorFlagBits.WAKE_UP⟩]⟩]

/-- The constructor has returned. -/
def constructed : ProxyRun Unit where
  proxy := HalProxy.construct oneSensor
  session :=
    { next := .returned
      mThreadsRun := false
      workerAlive := false
      reinitialised := 0
      calls := []
      run := ⟨⟨⟨0, [], Nat.le_refl 0⟩, [], 0, 0⟩, (), none, .waiting, [], [], [], [], []⟩ }
  newQueueSize := 0
  connections := []

/-- No event is corrected, and the pending queue takes a hundred events. -/
def oneSensorMachine : StepMachine (ProxyRun Unit) ProxyStep :=
  machine ⟨100, 100, by decide⟩ (fun s event => (event, s)) oneSensor

theorem constructed_init : oneSensorMachine.init constructed :=
  ⟨rfl, rfl, rfl, rfl, rfl, rfl, rfl, rfl, rfl, rfl, rfl, rfl, rfl, rfl, rfl⟩

/-- The proxy gets an event queue for one event.  Of a batch of three events, of
the sensor 5 but for the second one, the first is written at once and the second
makes a chunk that cannot be written. -/
def failingRun (second : SensorHandle) : List ProxyStep :=
  .initializeCommon 1 :: List.replicate 18 (.session .statement) ++
    [.postEvents 0 ([5#32, second, 5#32].map fun h => ⟨h, 1, ⟨0, 0, 0#32⟩⟩),
      .session (.check 0), .session (.body 0 true), .session (.pipeline .wake),
      .session (.pipeline .test), .session (.pipeline (.writeBlocking false))]

/-- All three events are of the registered sensor. -/
theorem table_fixed_one : ∃ s : ProxyRun Unit, oneSensorMachine.ReachableBy FailuresRegistered s ∧
    s.session.run.dropped.length = 1 ∧
    s.proxy.getSensorsList_2_1 = (HalProxy.construct oneSensor).getSensorsList_2_1 := by
  have hrun : (oneSensorMachine.exec constructed (failingRun 5#32)).map
      (fun s => s.session.run.dropped.length) = some 1 := by
    decide +kernel
  obtain ⟨s, hexec, hdropped⟩ := Option.map_eq_some_iff.mp hrun
  have hreach : oneSensorMachine.ReachableBy FailuresRegistered s :=
    StepMachine.ReachableBy.exec (.init constructed_init) hexec (by decide +kernel)
  exact ⟨s, hreach, hdropped, (table_fixed _ _ _ hreach).2.1⟩

/-- The second event is of a sensor that nobody has registered: after its chunk
has failed it is listed. -/
theorem phantom_sensor :
    ¬ ∀ s : ProxyRun Unit, oneSensorMachine.Reachable s →
      s.proxy.getSensorsList_2_1 = (HalProxy.construct oneSensor).getSensorsList_2_1 := by
  intro h
  have hrun : (oneSensorMachine.exec constructed (failingRun 9#32)).map
      (fun s => s.proxy.getSensorsList_2_1.length) = some 2 := by
    decide +kernel
  obtain ⟨s, hexec, htwo⟩ := Option.map_eq_some_iff.mp hrun
  have hlist := h s (StepMachine.Reachable.exec (.init constructed_init) hexec)
  rw [hlist] at htwo
  exact absurd htwo (by decide +kernel)

end ProxyRun
end SensorsHal
