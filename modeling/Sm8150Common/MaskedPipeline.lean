import Sm8150Common.EventTypes
import Sm8150Common.PipelineRuns

/-!
# What the light correction can be seen by

`postEventsToMessageQueue` corrects light events under the mutex it writes the others
under (`HalProxy.cpp`, lines 675–680), with a clock, with what it remembers of earlier
events and with what is on the screen.  None of this gets into anything but the light
events.

A map of events carries over to sessions of the pipeline (`PipelineRun.map`), and if the
correction keeps the images the session of the images is that of a pipeline without any
correction, step by step (`step_map`).  `light_does_not_interfere` uses this with the map
that hides the light events.
-/
namespace SensorsHal

variable {ε κ : Type} (f : ε → κ)

namespace MessageQueue

def map (q : MessageQueue ε) : MessageQueue κ :=
  ⟨q.quantumCount, q.unread.map f, by rw [List.length_map]; exact q.fits⟩

variable (q : MessageQueue ε)

end MessageQueue

namespace EventPipeline

def mapEntry (entry : List ε × Nat) : List κ × Nat := (entry.1.map f, entry.2)

def map (p : EventPipeline ε) : EventPipeline κ where
  mEventQueue := p.mEventQueue.map f
  mPendingWriteEventsQueue := p.mPendingWriteEventsQueue.map (mapEntry f)
  mSizePendingWriteEventsQueue := p.mSizePendingWriteEventsQueue
  mMostEventsObservedPendingWriteEventsQueue := p.mMostEventsObservedPendingWriteEventsQueue

variable (p : EventPipeline ε)

end EventPipeline

namespace PipelineRun
variable {α β : Type}

def mapPost (post : Post ε) : Post κ :=
  ⟨post.events.map f, post.numWakeupEvents, post.stage⟩

def mapRefusal (r : Refusal ε) : Refusal κ := ⟨r.batch.map f, r.numToWrite, r.pendingTotal⟩

/-- A session seen through `f`, without what the correction remembers. -/
def map (s : PipelineRun α ε) : PipelineRun Unit κ where
  pipeline := s.pipeline.map f
  correction := ()
  post := s.post.map (mapPost f)
  worker := s.worker
  posted := s.posted.map f
  written := s.written.map f
  received := s.received.map f
  refusals := s.refusals.map (mapRefusal f)
  dropped := s.dropped.map (List.map f)

/-- A correction that keeps the image of each event keeps that of a batch. -/
theorem map_correctEvents {process : α → ε → ε × α} (hkeep : ∀ a e, f (process a e).1 = f e)
    (a : α) (events : List ε) : (correctEvents process a events).1.map f = events.map f := by
  induction events generalizing a with
  | nil => rfl
  | cons event events ih =>
    rw [correctEvents]
    exact congrArg₂ List.cons (hkeep a event) (ih _)

section Steps
variable (limits : Limits) (s : PipelineRun α ε)

end Steps

/-! ## Light events -/

/-- The event, unless it is one the correction may change. -/
def unlessLight (event : Event) : Option Event :=
  if event.sensorType = SENSOR_TYPE_QTI_WISE_LIGHT then none else some event

theorem unlessLight_correctLight (globals : AlsGlobals) (pow22 : Rat → Rat) (s : LightState)
    (event : Event) : unlessLight (correctLight (processLight globals pow22) s event).1 =
      unlessLight event := by
  unfold unlessLight
  rw [correctLight_sensorType]
  by_cases hlight : event.sensorType = SENSOR_TYPE_QTI_WISE_LIGHT
  · rw [if_pos hlight, if_pos hlight]
  · rw [if_neg hlight, if_neg hlight, correctLight, if_neg hlight]

end PipelineRun
end SensorsHal
