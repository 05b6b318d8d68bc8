import Sm8150Common.AlsCorrection
import Sm8150Common.PipelineOrder
import Sm8150Common.WakeupCharges

/-! # Light events on their way

Posts send the events of the light sensor below the display through
`AlsCorrection::process` (`HalProxy.cpp`, lines 675–680), which drops an event by
giving it the handle 0.  The event goes on to the queues all the same, as one of
whichever sensor has this handle.

`attributed_iff` says when the events of a post keep their handles, and that what
keeps it then arrives with it on every run; `counters_agree_iff` when the two
counters of wake-up events agree on a batch. -/
namespace SensorsHal

/-- The correction, and its surroundings from one light event to the next. -/
abbrev LightState := AlsState × (Nat → Surroundings)

section Light
variable (globals : AlsGlobals) (pow22 : Rat → Rat)

/-- `AlsCorrection::process`, in the surroundings that come next. -/
def processLight (s : LightState) (event : Event) : Event × LightState :=
  ((s.1.process globals pow22 (s.2 0) event).1,
    (s.1.process globals pow22 (s.2 0) event).2, fun n => s.2 (n + 1))

/-- The events as a post writes or stores them. -/
def correctBatch (s : LightState) (events : List Event) : List Event :=
  (correctEvents (correctLight (processLight globals pow22)) s events).1

/-- The event is a light event that `process` decides to drop. -/
def DropsLight (s : LightState) (event : Event) : Prop :=
  event.sensorType = SENSOR_TYPE_QTI_WISE_LIGHT ∧ s.1.Drops globals (s.2 0) event

instance (s : LightState) (event : Event) : Decidable (DropsLight globals s event) :=
  inferInstanceAs (Decidable (_ ∧ _))

/-- Every event of the batch that is dropped when its turn comes satisfies `P`. -/
def ForDropped (P : Event → Prop) : LightState → List Event → Prop
  | _, [] => True
  | s, event :: events => (DropsLight globals s event → P event) ∧
      ForDropped P (correctLight (processLight globals pow22) s event).2 events

instance ForDropped.decidable (P : Event → Prop) [DecidablePred P] (s : LightState)
    (events : List Event) : Decidable (ForDropped globals pow22 P s events) :=
  match events with
  | [] => isTrue trivial
  | event :: events =>
    haveI := ForDropped.decidable P (correctLight (processLight globals pow22) s event).2 events
    inferInstanceAs (Decidable ((_ → _) ∧ _))

variable {globals pow22}

/-- What becomes of an event's handle. -/
theorem correctLight_sensorHandle (s : LightState) (event : Event) :
    (correctLight (processLight globals pow22) s event).1.sensorHandle =
      if DropsLight globals s event then 0#32 else event.sensorHandle := by
  unfold correctLight
  by_cases hlight : event.sensorType = SENSOR_TYPE_QTI_WISE_LIGHT
  · rw [if_pos hlight]
    rw [processLight, AlsState.process_sensorHandle]
    by_cases hdrop : s.1.Drops globals (s.2 0) event
    · rw [if_pos hdrop, if_pos ⟨hlight, hdrop⟩]
    · rw [if_neg hdrop, if_neg fun h => hdrop h.2]
  · rw [if_neg hlight, if_neg fun h => hlight h.1]

theorem correctBatch_cons (s : LightState) (event : Event) (events : List Event) :
    correctBatch globals pow22 s (event :: events) =
      (correctLight (processLight globals pow22) s event).1 ::
        correctBatch globals pow22 (correctLight (processLight globals pow22) s event).2 events :=
  rfl

theorem length_correctBatch (s : LightState) (events : List Event) :
    (correctBatch globals pow22 s events).length = events.length :=
  length_correctEvents _ _ _

theorem correctBatch_take (s : LightState) (events : List Event) (n : Nat) :
    (correctBatch globals pow22 s events).take n =
      correctBatch globals pow22 s (events.take n) := by
  induction events generalizing s n with
  | nil => simp [correctBatch, correctEvents]
  | cons event events ih =>
    cases n with
    | zero => rfl
    | succ n =>
      rw [correctBatch_cons, List.take_succ_cons, List.take_succ_cons, correctBatch_cons, ih]

/-- A batch keeps its handles if and only if what is dropped had the handle 0. -/
theorem map_sensorHandle_correctBatch (s : LightState) (events : List Event) :
    (correctBatch globals pow22 s events).map Event.sensorHandle = events.map Event.sensorHandle ↔
      ForDropped globals pow22 (fun event => event.sensorHandle = 0#32) s events := by
  induction events generalizing s with
  | nil => exact ⟨fun _ => trivial, fun _ => rfl⟩
  | cons event events ih =>
    rw [correctBatch_cons, List.map_cons, List.map_cons, List.cons.injEq, ih, ForDropped,
      correctLight_sensorHandle]
    refine and_congr_left fun _ => ?_
    by_cases hdrop : DropsLight globals s event
    · rw [if_pos hdrop]
      exact ⟨fun h _ => h.symm, fun h => (h hdrop).symm⟩
    · rw [if_neg hdrop]
      exact ⟨fun _ h => absurd h hdrop, fun _ => rfl⟩

end Light

/-! ## Attribution -/

/-- The part of a batch that a post takes in. -/
def keptPart (limits : Limits) (p : EventPipeline Event) (events : List Event) (succeeds : Bool) :
    List Event :=
  if p.Overflows limits events.length succeeds then
    events.take (p.writtenAtOnce events.length succeeds)
  else events

/-- **Keeping attribution.**  What went, between `p` and `p'`, into the event
queue (the front of the batch) and into the pending queue (its back) has the
handles of the posted events. -/
def KeepsAttribution (events : List Event) (p p' : EventPipeline Event) : Prop :=
  let written := p'.mEventQueue.unread.drop p.mEventQueue.unread.length
  let stored := p'.pendingEvents.drop p.pendingEvents.length
  written.map Event.sensorHandle = (events.take written.length).map Event.sensorHandle ∧
    stored.map Event.sensorHandle =
      (events.drop (events.length - stored.length)).map Event.sensorHandle

instance (events : List Event) (p p' : EventPipeline Event) :
    Decidable (KeepsAttribution events p p') :=
  inferInstanceAs (Decidable (_ ∧ _))

/-- A post that finds the threads stopped, or has no events, does nothing. -/
theorem postEvents_idle {α : Type} (limits : Limits) (process : α → Event → Event × α)
    {s : PostTarget α} (mSensors : SensorMap) (i : Nat) {events : List Event}
    (h : s.wakelock.mThreadsRun = false ∨ events = []) (isLocked : Bool) (now : Int)
    (succeeds : Bool) :
    s.postEvents limits process mSensors i events isLocked now succeeds = s := by
  unfold PostTarget.postEvents
  rcases h with h | h
  · simp [h]
  · simp [h]

theorem keepsAttribution_self (events : List Event) (p : EventPipeline Event) :
    KeepsAttribution events p p := by
  simp [KeepsAttribution]

theorem eq_iff_take_drop {α : Type} (l k : List α) (n : Nat) :
    l = k ↔ l.take n = k.take n ∧ l.drop n = k.drop n := by
  constructor
  · rintro rfl
    exact ⟨rfl, rfl⟩
  · rintro ⟨htake, hdrop⟩
    rw [← List.take_append_drop n l, htake, hdrop, List.take_append_drop]

/-- The part of the pipeline: what is taken in keeps its handles if and only if what
is dropped of it had the handle 0. -/
theorem keepsAttribution_writeOrStore_iff (globals : AlsGlobals) (pow22 : Rat → Rat)
    (limits : Limits) (s : LightState) (p : EventPipeline Event) (events : List Event)
    (numWakeupEvents : Nat) (succeeds : Bool) :
    KeepsAttribution events p
        (p.writeOrStore limits (correctBatch globals pow22 s events) numWakeupEvents succeeds) ↔
      ForDropped globals pow22 (fun event => event.sensorHandle = 0#32) s
        (keptPart limits p events succeeds) := by
  have hlen : (correctBatch globals pow22 s events).length = events.length :=
    length_correctBatch _ _
  obtain ⟨hunread, hpending⟩ := p.writeOrStore_spec limits
    (correctBatch globals pow22 s events) numWakeupEvents succeeds
  rw [hlen] at hunread hpending
  have hle := p.writtenAtOnce_le events.length succeeds
  unfold KeepsAttribution keptPart
  dsimp only
  rw [hunread, hpending, List.drop_left, List.drop_left, List.length_take, hlen,
    Nat.min_eq_left hle]
  by_cases hover : p.Overflows limits events.length succeeds
  · -- only the front of the batch is taken in
    rw [if_pos hover, if_pos hover, ← map_sensorHandle_correctBatch, correctBatch_take]
    simp
  · rw [if_neg hover, if_neg hover, ← map_sensorHandle_correctBatch, List.length_drop, hlen,
      Nat.sub_sub_self hle,
      eq_iff_take_drop _ (events.map _) (p.writtenAtOnce events.length succeeds)]
    simp only [List.map_take, List.map_drop]

theorem keptPart_nil (limits : Limits) (p : EventPipeline Event) (succeeds : Bool) :
    keptPart limits p [] succeeds = [] := by
  unfold keptPart
  split
  · exact List.take_nil
  · rfl

/-- One post: it keeps attribution if and only if every event it drops and takes
in had the handle 0. -/
theorem keepsAttribution_postEvents_iff (globals : AlsGlobals) (pow22 : Rat → Rat) (limits : Limits)
    (s : PostTarget LightState) (mSensors : SensorMap) (i : Nat) (events : List Event)
    (isLocked : Bool) (now : Int) (succeeds : Bool) :
    KeepsAttribution (processEvents mSensors i events).1 s.pipeline
        (s.postEvents limits (processLight globals pow22) mSensors i events isLocked now
          succeeds).pipeline ↔
      (s.wakelock.mThreadsRun = true →
        ForDropped globals pow22 (fun event => event.sensorHandle = 0#32) s.correction
          (keptPart limits s.pipeline (processEvents mSensors i events).1 succeeds)) := by
  by_cases hrun : s.wakelock.mThreadsRun = true
  · by_cases hne : events = []
    · subst hne
      rw [postEvents_idle _ _ _ _ (Or.inr rfl)]
      refine ⟨fun _ _ => ?_, fun _ => keepsAttribution_self _ _⟩
      show ForDropped globals pow22 _ _ (keptPart limits s.pipeline [] succeeds)
      rw [keptPart_nil]
      trivial
    · rw [postEvents_pipeline limits _ hrun mSensors i hne, ← correctBatch,
        keepsAttribution_writeOrStore_iff]
      exact ⟨fun h _ => h, fun h => h hrun⟩
  · rw [postEvents_idle _ _ _ _ (Or.inl (Bool.eq_false_iff.mpr hrun))]
    exact ⟨fun _ h => absurd h hrun, fun _ => keepsAttribution_self _ _⟩

/-- An event with, as ghost state, the handle under which its sensor was
announced. -/
structure Announced where
  event : Event
  own : SensorHandle

/-- The events of a post, before their correction. -/
def announce (events : List Event) : List Announced := events.map fun e => ⟨e, e.sensorHandle⟩

section Announced
variable (globals : AlsGlobals) (pow22 : Rat → Rat) (mSubHalList : List SubHal)

/-- The correction leaves the ghost state alone. -/
def processAnnounced (s : LightState) (e : Announced) : Announced × LightState :=
  (⟨(correctLight (processLight globals pow22) s e.event).1, e.own⟩,
    (correctLight (processLight globals pow22) s e.event).2)

/-- A sub-HAL posts events of sensors it registered, and what is dropped of them
had the handle 0. -/
def DropsOnlyZero (s : PipelineRun LightState Announced) : PipelineStep Announced → Prop
  | .post eventsList _ =>
    (∃ i events, (∀ event ∈ events, Reports mSubHalList i event.sensorHandle) ∧ eventsList =
      announce (processEvents (initializeSensorList mSubHalList).mSensors i events).1) ∧
    ForDropped globals pow22 (fun event => event.sensorHandle = 0#32) s.correction
      (eventsList.map Announced.event)
  | _ => True

/-- The event carries the handle under which its own sensor was announced. -/
def Announced.Attributed (e : Announced) : Prop :=
  e.event.sensorHandle = e.own ∧ ∃ i h, Reports mSubHalList i h ∧ e.own = setSubHalIndex h i

variable {globals pow22 mSubHalList}

theorem attributed_correctEvents {s : LightState} {eventsList : List Announced}
    (hevents : ∀ e ∈ eventsList, e.Attributed mSubHalList)
    (hdrops : ForDropped globals pow22 (fun event => event.sensorHandle = 0#32) s
      (eventsList.map Announced.event)) :
    ∀ e ∈ (correctEvents (processAnnounced globals pow22) s eventsList).1,
      e.Attributed mSubHalList := by
  induction eventsList generalizing s with
  | nil =>
    rintro e ⟨⟩
  | cons first eventsList ih =>
    obtain ⟨hfirst, hrest⟩ := hdrops
    intro e he
    rcases List.mem_cons.mp he with rfl | he
    · obtain ⟨hhandle, hown⟩ := hevents first List.mem_cons_self
      refine ⟨?_, hown⟩
      show (correctLight (processLight globals pow22) s first.event).1.sensorHandle = first.own
      rw [correctLight_sensorHandle]
      split
      · rename_i hdrop
        rw [← hhandle, hfirst hdrop]
      · exact hhandle
    · exact ih (fun e he => hevents e (List.mem_cons_of_mem _ he)) hrest e he

theorem attributed_announce {i : Nat} {events : List Event}
    (hevents : ∀ event ∈ events, Reports mSubHalList i event.sensorHandle) (mSensors : SensorMap) :
    ∀ e ∈ announce (processEvents mSensors i events).1, e.Attributed mSubHalList := by
  intro e he
  obtain ⟨processed, hprocessed, rfl⟩ := List.mem_map.mp he
  rw [processEvents_fst] at hprocessed
  obtain ⟨event, hevent, rfl⟩ := List.mem_map.mp hprocessed
  exact ⟨rfl, i, event.sensorHandle, hevents event hevent, stampEvent_sensorHandle i event⟩

/-- What is written or pending keeps its handle, in every run in which no other
handle than 0 is dropped. -/
theorem attributed_of_reachable {limits : Limits} {s : PipelineRun LightState Announced}
    (h : (PipelineRun.machine limits (processAnnounced globals pow22)).ReachableBy
      (DropsOnlyZero globals pow22 mSubHalList) s) :
    ∀ e ∈ s.written ++ s.unwritten, e.Attributed mSubHalList := by
  refine PipelineRun.forall_of_posts ?_ h
  rintro s eventsList numWakeupEvents ⟨⟨i, events, hevents, rfl⟩, hdrops⟩
  exact attributed_correctEvents (attributed_announce hevents _) hdrops

end Announced

/-- **When the light correction keeps attribution.**  A post of any events, in any
state, keeps the handles of what it takes in if and only if every event it drops
and takes in had the handle 0.  On every run of the pipeline whose posts are of
registered sensors and drop nothing but the handle 0, each event that reaches the
event queue, or is on its way there, has the handle under which its sensor was
announced. -/
theorem attributed_iff (globals : AlsGlobals) (pow22 : Rat → Rat) (limits : Limits) :
    (∀ (s : PostTarget LightState) mSensors i events isLocked now succeeds,
      KeepsAttribution (processEvents mSensors i events).1 s.pipeline
          (s.postEvents limits (processLight globals pow22) mSensors i events isLocked now
            succeeds).pipeline ↔
        (s.wakelock.mThreadsRun = true →
          ForDropped globals pow22 (fun event => event.sensorHandle = 0#32) s.correction
            (keptPart limits s.pipeline (processEvents mSensors i events).1 succeeds))) ∧
    ∀ mSubHalList s, (PipelineRun.machine limits (processAnnounced globals pow22)).ReachableBy
        (DropsOnlyZero globals pow22 mSubHalList) s →
      ∀ e ∈ s.written ++ s.unwritten, e.Attributed mSubHalList :=
  ⟨fun s mSensors i events isLocked now succeeds =>
    keepsAttribution_postEvents_iff globals pow22 limits s mSensors i events isLocked now succeeds,
    fun _ _ h => attributed_of_reachable h⟩

/-- Sub-HAL 0 has a proximity sensor with the handle 0 and a light sensor below the
display with the handle 5. -/
def proximityAndLight : List SubHal :=
  [⟨[⟨0#32, 8, SensorFlagBits.WAKE_UP⟩, ⟨5#32, SENSOR_TYPE_QTI_WISE_LIGHT, 0#32⟩]⟩]

/-- A light event of the sensor 5. -/
def lightEvent : Event := ⟨5#32, SENSOR_TYPE_QTI_WISE_LIGHT, ⟨100, 0, 0#32⟩⟩

/-- The first light event comes after one nanosecond, and the next ones at the
same time; both queues are empty. -/
def crowdedLight : PostTarget LightState where
  wakelock := SharedWakelock.idle
  pipeline := ⟨⟨4, [], by decide⟩, [], 0, 0⟩
  correction := (AlsState.start, fun _ => ⟨1, 0, some ⟨0, 0, 0⟩⟩)

/-- Of two light events at one time the second is dropped: it is written as an
event of the proximity sensor. -/
theorem dropped_light_becomes_proximity :
    ¬ ∀ (globals : AlsGlobals) (pow22 : Rat → Rat) (limits : Limits) (s : PostTarget LightState)
      (mSubHalList : List SubHal) i events isLocked now succeeds,
      (∀ event ∈ events, Reports mSubHalList i event.sensorHandle) →
      KeepsAttribution (processEvents (initializeSensorList mSubHalList).mSensors i events).1
        s.pipeline
        (s.postEvents limits (processLight globals pow22)
          (initializeSensorList mSubHalList).mSensors i events isLocked now succeeds).pipeline := by
  intro h
  have hkeeps := h AlsGlobals.start id ⟨100, 100, by decide⟩ crowdedLight proximityAndLight 0
    [lightEvent, lightEvent] false 1 true fun event hevent => by
      have : event = lightEvent := by simpa using hevent
      subst this
      exact ⟨by decide, _, rfl, ⟨5#32, SENSOR_TYPE_QTI_WISE_LIGHT, 0#32⟩, by decide, rfl⟩
  exact absurd hkeeps (by decide +kernel)

/-! ## The two counters -/

/-- The sum of `countNumWakeupEvents` over the chunks, one after the other. -/
def countChunks : SensorMap → List (List Event) → Nat
  | _, [] => 0
  | mSensors, chunk :: chunks =>
    (countNumWakeupEvents mSensors chunk chunk.length).1 +
      countChunks (countNumWakeupEvents mSensors chunk chunk.length).2 chunks

theorem countChunks_eq (mSensors : SensorMap) (chunks : List (List Event)) :
    countChunks mSensors chunks = wakeups mSensors chunks.flatten := by
  induction chunks generalizing mSensors with
  | nil => rfl
  | cons chunk chunks ih =>
    obtain ⟨hcount, hlookup⟩ := countNumWakeupEvents_spec mSensors chunk chunk.length
    rw [countChunks, ih, hcount, List.take_length, wakeups_congr hlookup, List.flatten_cons,
      wakeups_append]

section Counters
variable {globals : AlsGlobals} {pow22 : Rat → Rat} (mSensors : SensorMap)

/-- The handle 0 is that of a wake-up sensor. -/
def zeroIsWakeup : Bool := (getSensorInfo mSensors 0#32).isWakeup

theorem isWakeupEvent_correctLight (s : LightState) (event : Event) :
    isWakeupEvent mSensors (correctLight (processLight globals pow22) s event).1 =
      if DropsLight globals s event then zeroIsWakeup mSensors
      else isWakeupEvent mSensors event := by
  rw [isWakeupEvent, correctLight_sensorHandle]
  split <;> rfl

theorem wakeups_cons (event : Event) (events : List Event) :
    wakeups mSensors (event :: events) =
      wakeups mSensors events + if isWakeupEvent mSensors event then 1 else 0 := by
  rw [wakeups, List.countP_cons, wakeups]

/-- One more event: if it is dropped, it counts as the handle 0 does (`zero`)
instead of by itself (`own`). -/
theorem count_cons_iff {zero own : Bool} {a b : Nat} (dropped : Prop) [Decidable dropped]
    (h : if zero then b ≤ a else a ≤ b) :
    (a + (if (if dropped then zero else own) then 1 else 0) = b + (if own then 1 else 0) ↔
      (dropped → own = zero) ∧ a = b) ∧
    if zero then b + (if own then 1 else 0) ≤ a + (if (if dropped then zero else own) then 1 else 0)
    else a + (if (if dropped then zero else own) then 1 else 0) ≤ b + if own then 1 else 0 := by
  by_cases hdrop : dropped
  · cases zero <;> cases own <;> simp [hdrop] at h ⊢ <;> omega
  · cases zero <;> cases own <;> simp [hdrop] at h ⊢ <;> omega

/-- All dropped events count the same after the correction, so the numbers before
and after are in one order, and are equal only if each of them is. -/
theorem wakeups_correctBatch_iff (s : LightState) (events : List Event) :
    (wakeups mSensors (correctBatch globals pow22 s events) = wakeups mSensors events ↔
      ForDropped globals pow22
        (fun event => isWakeupEvent mSensors event = zeroIsWakeup mSensors) s events) ∧
    if zeroIsWakeup mSensors then
      wakeups mSensors events ≤ wakeups mSensors (correctBatch globals pow22 s events)
    else wakeups mSensors (correctBatch globals pow22 s events) ≤ wakeups mSensors events := by
  induction events generalizing s with
  | nil =>
    refine ⟨⟨fun _ => trivial, fun _ => rfl⟩, ?_⟩
    split <;> exact Nat.le_refl _
  | cons event events ih =>
    obtain ⟨hiff, horder⟩ := ih (correctLight (processLight globals pow22) s event).2
    rw [correctBatch_cons, wakeups_cons, wakeups_cons, ForDropped, ← hiff,
      isWakeupEvent_correctLight]
    exact count_cons_iff (DropsLight globals s event) horder

end Counters

/-- **When the two counters agree.**  For every batch of every sub-HAL and every
way to cut it up after its correction, `countNumWakeupEvents` adds up to the
number of `processEvents` if and only if every dropped event counts as the handle
0 does. -/
theorem counters_agree_iff (globals : AlsGlobals) (pow22 : Rat → Rat) (mSensors : SensorMap)
    (i : Nat) (events : List Event) (s : LightState) (chunks : List (List Event))
    (hchunks : chunks.flatten.Perm
      (correctBatch globals pow22 s (processEvents mSensors i events).1)) :
    countChunks mSensors chunks = (processEvents mSensors i events).2 ↔
      ForDropped globals pow22
        (fun event => isWakeupEvent mSensors event = zeroIsWakeup mSensors) s
        (processEvents mSensors i events).1 := by
  rw [countChunks_eq, processEvents_snd, ← (wakeups_correctBatch_iff mSensors s _).1]
  have hcount : wakeups mSensors chunks.flatten =
      wakeups mSensors (correctBatch globals pow22 s (processEvents mSensors i events).1) :=
    hchunks.countP_eq _
  rw [hcount]

/-- Two wake-up events that are not light events, in chunks of one. -/
theorem counters_agree_two :
    countChunks oneWakeupSensor [[oneWakeupEvent], [oneWakeupEvent]] =
      (processEvents oneWakeupSensor 0 [oneWakeupEvent, oneWakeupEvent]).2 :=
  (counters_agree_iff AlsGlobals.start id oneWakeupSensor 0 [oneWakeupEvent, oneWakeupEvent]
    crowdedLight.correction _ (List.Perm.refl _)).mpr (by decide)

/-- Of two events of a wake-up light sensor at one time the second is dropped, and
is not counted any more. -/
theorem dropped_light_is_not_counted :
    ¬ ∀ (globals : AlsGlobals) (pow22 : Rat → Rat) (mSubHalList : List SubHal) i events
      (s : LightState) (chunks : List (List Event)),
      (∀ event ∈ events, Reports mSubHalList i event.sensorHandle) →
      chunks.flatten.Perm (correctBatch globals pow22 s
        (processEvents (initializeSensorList mSubHalList).mSensors i events).1) →
      countChunks (initializeSensorList mSubHalList).mSensors chunks =
        (processEvents (initializeSensorList mSubHalList).mSensors i events).2 := by
  intro h
  have hcount := h AlsGlobals.start id
    [⟨[⟨5#32, SENSOR_TYPE_QTI_WISE_LIGHT, SensorFlagBits.WAKE_UP⟩]⟩] 0 [lightEvent, lightEvent]
    crowdedLight.correction [correctBatch AlsGlobals.start id crowdedLight.correction
      [lightEvent, lightEvent]] (fun event hevent => by
        have : event = lightEvent := by simpa using hevent
        subst this
        exact ⟨by decide, _, rfl, ⟨5#32, SENSOR_TYPE_QTI_WISE_LIGHT, SensorFlagBits.WAKE_UP⟩,
          by decide, rfl⟩)
    (by decide +kernel)
  exact absurd hcount (by decide +kernel)

end SensorsHal
