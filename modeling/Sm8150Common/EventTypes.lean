import Sm8150Common.AnnouncedSensors
import Sm8150Common.LightEvents

/-! # The types of events

`initializeSensorList` announces the light sensor below the display as a plain light
sensor (`HalProxy.cpp`, lines 501–505).  Its events are recognized by the vendor's
type (lines 675–680), and `AlsCorrection::process` leaves this type in them: they
reach the framework with a type that no announced sensor has.

`event_type_iff` finds the events that have the type their sensor was announced with,
on every run of the pipeline; `light_event_keeps_vendor_type` is one that has not. -/
namespace SensorsHal

/-! ## Whose the events are -/

/-- An event with, as ghost state, the sub-HAL that posts it and the sensor it is of,
as that sub-HAL reported it. -/
structure TypedEvent where
  event : Event
  subHal : Nat
  sensor : SensorInfo

namespace TypedEvent

/-- The handle under which the sensor of the event is announced. -/
def announcedHandle (e : TypedEvent) : SensorHandle :=
  setSubHalIndex e.sensor.sensorHandle e.subHal

/-- The correction leaves the ghost state alone. -/
def process (globals : AlsGlobals) (pow22 : Rat → Rat) (s : LightState) (e : TypedEvent) :
    TypedEvent × LightState :=
  ({ e with event := (correctLight (processLight globals pow22) s e.event).1 },
    (correctLight (processLight globals pow22) s e.event).2)

/-- The events of a post of sub-HAL `i`, before their correction. -/
def ofPost (i : Nat) (posted : List (Event × SensorInfo)) : List TypedEvent :=
  posted.map fun p => ⟨stampEvent i p.1, i, p.2⟩

theorem map_event_ofPost (mSensors : SensorMap) (i : Nat) (posted : List (Event × SensorInfo)) :
    (ofPost i posted).map TypedEvent.event =
      (processEvents mSensors i (posted.map Prod.fst)).1 := by
  rw [processEvents_fst, ofPost, List.map_map, List.map_map]
  rfl

end TypedEvent

section Types
variable (mSubHalList : List SubHal)

/-- The entry under the sensor's announced handle is the sensor's: it is the last
accepted sensor that is given this handle. -/
def OwnsEntry (i : Nat) (sensor : SensorInfo) : Prop :=
  ((acceptedSensors mSubHalList).reverse.find? fun e =>
    setSubHalIndex e.2.sensorHandle e.1 = setSubHalIndex sensor.sensorHandle i) = some (i, sensor)

instance (i : Nat) (sensor : SensorInfo) : Decidable (OwnsEntry mSubHalList i sensor) :=
  inferInstanceAs (Decidable (_ = _))

/-- A sub-HAL posts events of sensors it has entries of, with the handles and the
types it reported for them. -/
def PostsOwnTypes : PipelineStep TypedEvent → Prop
  | .post eventsList _ => ∃ i posted, eventsList = TypedEvent.ofPost i posted ∧
      ∀ p ∈ posted, OwnsEntry mSubHalList i p.2 ∧ p.1.sensorHandle = p.2.sensorHandle ∧
        p.1.sensorType = p.2.type
  | _ => True

/-- The event has the type its sub-HAL reported for the sensor. -/
def TypedEvent.AsReported (e : TypedEvent) : Prop :=
  OwnsEntry mSubHalList e.subHal e.sensor ∧ e.event.sensorType = e.sensor.type

end Types

variable {globals : AlsGlobals} {pow22 : Rat → Rat} {mSubHalList : List SubHal}

/-- The entry of a sensor that has one. -/
theorem OwnsEntry.getElem? {i : Nat} {sensor : SensorInfo} (h : OwnsEntry mSubHalList i sensor) :
    (initializeSensorList mSubHalList).mSensors[setSubHalIndex sensor.sensorHandle i]? =
      some (announced (directProvider mSubHalList) i sensor) := by
  unfold OwnsEntry at h
  rw [getElem?_mSensors, h]
  rfl

theorem type_announced (provider : Option Nat) (i : Nat) (sensor : SensorInfo) :
    (announced provider i sensor).type =
      if sensor.type = SENSOR_TYPE_QTI_WISE_LIGHT then SensorType.LIGHT else sensor.type := by
  show (replaceLightType _).type = _
  unfold replaceLightType
  split
  · next hlight => exact (if_pos hlight).symm
  · next hother => exact (if_neg hother).symm

/-- Only the vendor's type is announced as another. -/
theorem type_announced_iff (provider : Option Nat) (i : Nat) (sensor : SensorInfo) :
    sensor.type = (announced provider i sensor).type ↔
      sensor.type ≠ SENSOR_TYPE_QTI_WISE_LIGHT := by
  rw [type_announced]
  by_cases hlight : sensor.type = SENSOR_TYPE_QTI_WISE_LIGHT
  · rw [if_pos hlight, hlight]
    exact iff_of_false (by decide) fun h => h rfl
  · rw [if_neg hlight]
    exact iff_of_true rfl hlight

/-! ## What the correction does to types -/

@[simp] theorem subtractBias_sensorType (conf : AlsConfig) (event : Event) :
    (subtractBias conf event).sensorType = event.sensorType := by
  unfold subtractBias
  split <;> rfl

/-- The correction never changes the type of an event. -/
theorem correctLight_sensorType (s : LightState) (event : Event) :
    (correctLight (processLight globals pow22) s event).1.sensorType = event.sensorType := by
  unfold correctLight
  by_cases hlight : event.sensorType = SENSOR_TYPE_QTI_WISE_LIGHT
  · rw [if_pos hlight]
    rcases s.1.process_cases globals pow22 (s.2 0) event with
      ⟨-, -, hproc⟩ | ⟨-, -, lux, next, hproc, -⟩ | ⟨-, -, -, hproc⟩
    · rw [processLight, hproc]
      exact subtractBias_sensorType _ _
    · rw [processLight, hproc]
      exact subtractBias_sensorType _ _
    · rw [processLight, hproc]
      exact subtractBias_sensorType _ _
  · rw [if_neg hlight]

theorem asReported_ofPost {i : Nat} {posted : List (Event × SensorInfo)}
    (h : ∀ p ∈ posted, OwnsEntry mSubHalList i p.2 ∧ p.1.sensorHandle = p.2.sensorHandle ∧
      p.1.sensorType = p.2.type) :
    ∀ e ∈ TypedEvent.ofPost i posted, e.AsReported mSubHalList := by
  intro e he
  obtain ⟨p, hp, rfl⟩ := List.mem_map.mp he
  obtain ⟨howns, -, htype⟩ := h p hp
  exact ⟨howns, (stampEvent_sensorType i p.1).trans htype⟩

theorem asReported_correctEvents {s : LightState} {eventsList : List TypedEvent}
    (h : ∀ e ∈ eventsList, e.AsReported mSubHalList) :
    ∀ e ∈ (correctEvents (TypedEvent.process globals pow22) s eventsList).1,
      e.AsReported mSubHalList := by
  induction eventsList generalizing s with
  | nil => exact nofun
  | cons first eventsList ih =>
    intro e he
    rcases List.mem_cons.mp he with rfl | he
    · obtain ⟨howns, htype⟩ := h first List.mem_cons_self
      exact ⟨howns, (correctLight_sensorType s first.event).trans htype⟩
    · exact ih (fun e he => h e (List.mem_cons_of_mem _ he)) e he

/-- **Which events have the type their sensor was announced with.**  On every run of
the pipeline on which sub-HALs post events as they reported their sensors, an event
that is written, or is on its way, has the type of the entry its sensor is announced
with if and only if the sub-HAL did not report the vendor's light type. -/
theorem event_type_iff {limits : Limits} {s : PipelineRun LightState TypedEvent}
    (h : (PipelineRun.machine limits (TypedEvent.process globals pow22)).ReachableBy
      (fun _ l => PostsOwnTypes mSubHalList l) s) :
    ∀ e ∈ s.written ++ s.unwritten, ∃ info : SensorInfo,
      (initializeSensorList mSubHalList).mSensors[e.announcedHandle]? = some info ∧
      (e.event.sensorType = info.type ↔ e.sensor.type ≠ SENSOR_TYPE_QTI_WISE_LIGHT) := by
  have hreported : ∀ e ∈ s.written ++ s.unwritten, e.AsReported mSubHalList := by
    refine PipelineRun.forall_of_posts ?_ h
    rintro s eventsList numWakeupEvents ⟨i, posted, rfl, hposted⟩
    exact asReported_correctEvents (asReported_ofPost hposted)
  intro e he
  obtain ⟨howns, htype⟩ := hreported e he
  refine ⟨_, howns.getElem?, ?_⟩
  rw [htype]
  exact type_announced_iff _ _ _

/-- A session begins, before any light event. -/
def quietSession : PipelineRun LightState TypedEvent where
  pipeline := ⟨⟨4, [], by decide⟩, [], 0, 0⟩
  correction := (AlsState.start, fun _ => ⟨1, 0, some ⟨0, 0, 0⟩⟩)
  post := none
  worker := .waiting
  posted := []
  written := []
  received := []
  refusals := []
  dropped := []

/-- One sensor of sub-HAL 0 posts one event, which is written at once. -/
def postOne (sensor : SensorInfo) : List (PipelineStep TypedEvent) :=
  [.post (TypedEvent.ofPost 0 [(⟨sensor.sensorHandle, sensor.type, ⟨100, 0, 0#32⟩⟩, sensor)]) 0,
    .probe, .write true, .store]

/-- A post of one event meets the condition. -/
theorem along_postOne
    {M : StepMachine (PipelineRun LightState TypedEvent) (PipelineStep TypedEvent)}
    {s : PipelineRun LightState TypedEvent} {sensor : SensorInfo}
    (howns : OwnsEntry mSubHalList 0 sensor) :
    M.Along (fun _ l => PostsOwnTypes mSubHalList l) s (postOne sensor) := by
  refine ⟨⟨0, _, rfl, fun p hp => ?_⟩, fun _ _ => ⟨trivial, fun _ _ => ⟨trivial, fun _ _ =>
    ⟨trivial, fun _ _ => trivial⟩⟩⟩⟩
  obtain rfl := List.mem_singleton.mp hp
  exact ⟨howns, rfl, rfl⟩

/-- The proximity sensor posts an event. -/
theorem event_type_proximity : ∃ s : PipelineRun LightState TypedEvent,
    s.written.map (fun e => e.sensor.type) = [8] ∧ ∀ e ∈ s.written, ∃ info : SensorInfo,
      (initializeSensorList proximityAndLight).mSensors[e.announcedHandle]? = some info ∧
      e.event.sensorType = info.type := by
  have hrun : ((PipelineRun.machine ⟨100, 100, by decide⟩
      (TypedEvent.process AlsGlobals.start id)).exec quietSession
        (postOne ⟨0#32, 8, SensorFlagBits.WAKE_UP⟩)).map
        (fun s => s.written.map fun e => e.sensor.type) = some [8] := by
    decide +kernel
  obtain ⟨s, hexec, hwritten⟩ := Option.map_eq_some_iff.mp hrun
  have hreach : (PipelineRun.machine ⟨100, 100, by decide⟩
      (TypedEvent.process AlsGlobals.start id)).ReachableBy
        (fun _ l => PostsOwnTypes proximityAndLight l) s :=
    StepMachine.ReachableBy.exec (.init ⟨rfl, rfl, rfl, rfl, rfl, rfl, rfl, rfl, rfl, rfl⟩) hexec
      (along_postOne (by decide +kernel))
  refine ⟨s, hwritten, fun e he => ?_⟩
  obtain ⟨info, hinfo, hiff⟩ := event_type_iff hreach e (List.mem_append_left _ he)
  have htype : e.sensor.type ∈ s.written.map fun e => e.sensor.type := List.mem_map_of_mem he
  rw [hwritten, List.mem_singleton] at htype
  exact ⟨info, hinfo, hiff.mpr (by rw [htype]; decide)⟩

/-- The light sensor below the display posts an event: it is announced as a light
sensor, and the event is written with the vendor's type. -/
theorem light_event_keeps_vendor_type :
    ¬ ∀ (globals : AlsGlobals) (pow22 : Rat → Rat) (mSubHalList : List SubHal) (limits : Limits)
      (s : PipelineRun LightState TypedEvent),
      (PipelineRun.machine limits (TypedEvent.process globals pow22)).ReachableBy
        (fun _ l => PostsOwnTypes mSubHalList l) s →
      ∀ e ∈ s.written, ∀ info : SensorInfo,
        (initializeSensorList mSubHalList).mSensors[e.announcedHandle]? = some info →
        e.event.sensorType = info.type := by
  intro h
  have hrun : ((PipelineRun.machine ⟨100, 100, by decide⟩
      (TypedEvent.process AlsGlobals.start id)).exec quietSession
        (postOne ⟨5#32, SENSOR_TYPE_QTI_WISE_LIGHT, 0#32⟩)).map
        (fun s => s.written.map fun e => (e.event.sensorType,
          ((initializeSensorList proximityAndLight).mSensors[e.announcedHandle]?).map
            SensorInfo.type)) = some [(SENSOR_TYPE_QTI_WISE_LIGHT, some SensorType.LIGHT)] := by
    decide +kernel
  obtain ⟨s, hexec, hwritten⟩ := Option.map_eq_some_iff.mp hrun
  obtain ⟨e, hlist, he⟩ := List.map_eq_singleton_iff.mp hwritten
  obtain ⟨htype, hentry⟩ := Prod.mk.inj he
  obtain ⟨info, hinfo, hlight⟩ := Option.map_eq_some_iff.mp hentry
  have hsame := h AlsGlobals.start id proximityAndLight _ s
    (StepMachine.ReachableBy.exec (.init ⟨rfl, rfl, rfl, rfl, rfl, rfl, rfl, rfl, rfl, rfl⟩) hexec
      (along_postOne (by decide +kernel))) e (by rw [hlist]; exact List.mem_singleton_self e)
    info hinfo
  rw [htype, hlight] at hsame
  exact absurd hsame (by decide)

end SensorsHal
