import Sm8150Common.EventPipeline
import Sm8150Common.Library.StepMachine

/-!
# Posts and the worker, interleaved

`EventPipeline` has the stretches of `postEventsToMessageQueue` and
`handlePendingWrites`; here they run against each other.  `mEventQueueWriteMutex`
lets one post at a time through and keeps the worker out meanwhile, except that
the worker gives the mutex up during `writeBlocking`: posts come in while it
holds a reference to the front of the pending queue.

A `PipelineRun` is the state of one session, between two calls of `initialize`:
the pipeline, where the post that holds the mutex and the worker stand, and a
record of what has been posted, written, read, refused and dropped.  Waiting for
the mutex is no step, so that any number of sub-HALs may be about to post.

`Consistent` is the invariant; that every step keeps it is proved with what the
step does to the events, in `PipelineOrder`.
-/
namespace SensorsHal

/-- How far the post that holds the mutex has come. -/
inductive PostStage
  | probing
  | writing (numToWrite : Nat)
  | storing (numToWrite : Nat)
  deriving DecidableEq, Repr

/-- A post that holds the mutex, with its corrected events. -/
structure Post (ε : Type) where
  events : List ε
  numWakeupEvents : Nat
  stage : PostStage

/-- The worker waits without the mutex, holds it, is in `writeBlocking`, or is
back from it and asks for the mutex again. -/
inductive WorkerStage
  | waiting
  | holding
  | writing (it : EventPipeline.Iteration)
  | returned (it : EventPipeline.Iteration)
  deriving DecidableEq, Repr

/-- A batch whose tail, from `numToWrite` on, was not taken in when the pending
queue had `pendingTotal` events. -/
structure Refusal (ε : Type) where
  batch : List ε
  numToWrite : Nat
  pendingTotal : Nat

namespace Refusal
variable {ε : Type} (r : Refusal ε)

def tail : List ε := r.batch.drop r.numToWrite

/-- There was a tail, and with it the pending queue would have exceeded its
bound. -/
def Overflows (limits : Limits) : Prop :=
  r.tail ≠ [] ∧ limits.kMaxSizePendingWriteEventsQueue < r.pendingTotal + r.tail.length

end Refusal

/-- A session of the event pipeline: the queues, the post that has `mEventQueueWriteMutex`,
the pending-writes thread, and what has become of all events so far. -/
structure PipelineRun (α ε : Type) where
  pipeline : EventPipeline ε
  /-- What the light correction remembers. -/
  correction : α
  post : Option (Post ε)
  worker : WorkerStage
  /-- The corrected events, in the order in which the posts took the mutex. -/
  posted : List ε
  written : List ε
  /-- What the framework has read. -/
  received : List ε
  refusals : List (Refusal ε)
  /-- The chunks whose `writeBlocking` returned false. -/
  dropped : List (List ε)

/-- A post takes four steps from `post` to `store`, the pending-writes thread the next four in
turn; the framework reads. -/
inductive PipelineStep (ε : Type)
  | post (eventsList : List ε) (numWakeupEvents : Nat)
  | probe
  | write (succeeds : Bool)
  | store
  | wake
  | test
  | writeBlocking (succeeds : Bool)
  | retire
  | read (n : Nat)

namespace PipelineRun
variable {α ε : Type}

/-- Nobody holds `mEventQueueWriteMutex`. -/
def MutexFree (s : PipelineRun α ε) : Prop := s.post.isNone = true ∧ s.worker ≠ .holding

instance (s : PipelineRun α ε) : Decidable s.MutexFree :=
  inferInstanceAs (Decidable (_ ∧ _))

/-- `storeRemainder` and the record of a refusal: there was a tail, and the
pending queue is as before. -/
def store (limits : Limits) (s : PipelineRun α ε) (post : Post ε) (numToWrite : Nat) :
    PipelineRun α ε :=
  let pipeline := s.pipeline.storeRemainder limits post.events post.numWakeupEvents numToWrite
  { s with
    pipeline := pipeline
    post := none
    refusals :=
      if numToWrite < post.events.length ∧
          pipeline.pendingEvents.length = s.pipeline.pendingEvents.length then
        s.refusals ++ [⟨post.events, numToWrite, s.pipeline.pendingEvents.length⟩]
      else s.refusals }

/-- `writeBlocking` of a chunk of the front entry, and its outcome. -/
def writeChunk (s : PipelineRun α ε) (it : EventPipeline.Iteration) (chunk : List ε)
    (succeeds : Bool) : PipelineRun α ε :=
  let (queue, ok) := s.pipeline.mEventQueue.write chunk succeeds
  { s with
    pipeline := { s.pipeline with mEventQueue := queue }
    worker := .returned it
    written := if ok then s.written ++ chunk else s.written
    dropped := if ok then s.dropped else s.dropped ++ [chunk] }

/-- One step of a post, of the worker or of the framework. -/
def step (limits : Limits) (process : α → ε → ε × α) (s : PipelineRun α ε) :
    PipelineStep ε → Option (PipelineRun α ε)
  | .post eventsList numWakeupEvents =>
    -- the mutex is taken and the events are corrected (lines 671–680)
    if s.MutexFree ∧ eventsList.length ≤ limits.maxBatch then
      let (events, correction) := correctEvents process s.correction eventsList
      some { s with
        correction := correction
        post := some ⟨events, numWakeupEvents, .probing⟩
        posted := s.posted ++ events }
    else none
  | .probe =>
    match s.post with
    | some ⟨events, numWakeupEvents, .probing⟩ =>
      some { s with
        post := some
          ⟨events, numWakeupEvents, .writing (s.pipeline.directWriteCount events)⟩ }
    | _ => none
  | .write succeeds =>
    match s.post with
    | some ⟨events, numWakeupEvents, .writing numToWrite⟩ =>
      let (pipeline, numToWrite) := s.pipeline.directWrite events numToWrite succeeds
      some { s with
        pipeline := pipeline
        post := some ⟨events, numWakeupEvents, .storing numToWrite⟩
        written := s.written ++ events.take numToWrite }
    | _ => none
  | .store =>
    match s.post with
    | some ⟨events, numWakeupEvents, .storing numToWrite⟩ =>
      some (s.store limits ⟨events, numWakeupEvents, .storing numToWrite⟩ numToWrite)
    | _ => none
  | .wake =>
    -- also the first time, when the thread starts
    if s.worker = .waiting ∧ s.MutexFree then some { s with worker := .holding } else none
  | .test =>
    if s.worker = .holding then
      match s.pipeline.mPendingWriteEventsQueue with
      | [] => some { s with worker := .waiting }
      | front :: _ => some { s with worker := .writing (s.pipeline.beginIteration front) }
    else none
  | .writeBlocking succeeds =>
    match s.worker, s.pipeline.mPendingWriteEventsQueue with
    | .writing it, front :: _ => some (s.writeChunk it (front.1.take it.numToWrite) succeeds)
    | _, _ => none
  | .retire =>
    match s.worker with
    | .returned it =>
      if s.MutexFree then
        some { s with pipeline := s.pipeline.retireChunk it, worker := .holding }
      else none
    | _ => none
  | .read n =>
    let (items, queue) := s.pipeline.mEventQueue.read n
    some { s with
      pipeline := { s.pipeline with mEventQueue := queue }
      received := s.received ++ items }

/-- A session starts with both queues empty. -/
def machine (limits : Limits) (process : α → ε → ε × α) :
    StepMachine (PipelineRun α ε) (PipelineStep ε) where
  init s := s.pipeline.mEventQueue.unread = [] ∧ s.pipeline.mPendingWriteEventsQueue = [] ∧
    s.pipeline.mSizePendingWriteEventsQueue = 0 ∧ s.post = none ∧ s.worker = .waiting ∧
    s.posted = [] ∧ s.written = [] ∧ s.received = [] ∧ s.refusals = [] ∧ s.dropped = []
  step := step limits process

/-- Only a post adds to what has been posted. -/
theorem posted_step {limits : Limits} {process : α → ε → ε × α} {s t : PipelineRun α ε}
    {l : PipelineStep ε} (h : step limits process s l = some t) :
    t.posted = s.posted ∨ ∃ eventsList numWakeupEvents, l = .post eventsList numWakeupEvents ∧
      t.posted = s.posted ++ (correctEvents process s.correction eventsList).1 := by
  cases l with
  | post eventsList numWakeupEvents =>
    obtain ⟨-, rfl⟩ := Option.ite_none_right_eq_some.mp h |>.imp_right Option.some.inj
    exact Or.inr ⟨eventsList, numWakeupEvents, rfl, rfl⟩
  | probe | write | store | writeBlocking =>
    dsimp only [step] at h
    split at h
    · cases h
      exact Or.inl rfl
    · cases h
  | wake | test =>
    obtain ⟨-, ht⟩ := Option.ite_none_right_eq_some.mp h
    first
    | split at ht <;> cases ht <;> exact Or.inl rfl
    | cases ht; exact Or.inl rfl
  | retire =>
    dsimp only [step] at h
    split at h
    · obtain ⟨-, rfl⟩ := Option.ite_none_right_eq_some.mp h |>.imp_right Option.some.inj
      exact Or.inl rfl
    · cases h
  | read n =>
    cases h
    exact Or.inl rfl

/-! ## A post in one go -/

/-- What the four steps of a post make of the session if nothing comes in
between. -/
def postBody (limits : Limits) (process : α → ε → ε × α) (s : PipelineRun α ε)
    (eventsList : List ε) (numWakeupEvents : Nat) (succeeds : Bool) : PipelineRun α ε :=
  let (events, correction) := correctEvents process s.correction eventsList
  let (pipeline, numToWrite) :=
    s.pipeline.directWrite events (s.pipeline.directWriteCount events) succeeds
  store limits { s with
    pipeline := pipeline
    correction := correction
    posted := s.posted ++ events
    written := s.written ++ events.take numToWrite } ⟨events, numWakeupEvents, .storing numToWrite⟩
    numToWrite

theorem exec_post (limits : Limits) (process : α → ε → ε × α) {s : PipelineRun α ε}
    (hfree : s.MutexFree) {eventsList : List ε} (hlen : eventsList.length ≤ limits.maxBatch)
    (numWakeupEvents : Nat) (succeeds : Bool) :
    (machine limits process).exec s
        [.post eventsList numWakeupEvents, .probe, .write succeeds, .store] =
      some (s.postBody limits process eventsList numWakeupEvents succeeds) := by
  have hpost : (machine limits process).step s (.post eventsList numWakeupEvents) = some { s with
      correction := (correctEvents process s.correction eventsList).2
      post := some ⟨(correctEvents process s.correction eventsList).1, numWakeupEvents, .probing⟩
      posted := s.posted ++ (correctEvents process s.correction eventsList).1 } :=
    if_pos ⟨hfree, hlen⟩
  rw [StepMachine.exec, hpost]
  rfl

section PostBody
variable (limits : Limits) (process : α → ε → ε × α) (s : PipelineRun α ε) (eventsList : List ε)
  (numWakeupEvents : Nat) (succeeds : Bool)

@[simp] theorem postBody_pipeline :
    (s.postBody limits process eventsList numWakeupEvents succeeds).pipeline =
      s.pipeline.writeOrStore limits (correctEvents process s.correction eventsList).1
        numWakeupEvents succeeds := rfl

theorem postBody_written :
    (s.postBody limits process eventsList numWakeupEvents succeeds).written =
      s.written ++ (correctEvents process s.correction eventsList).1.take
        (s.pipeline.writtenAtOnce eventsList.length succeeds) := by
  obtain ⟨queue, hwrite, -, -⟩ :=
    s.pipeline.directWrite_spec (correctEvents process s.correction eventsList).1 succeeds
  rw [length_correctEvents] at hwrite
  unfold postBody
  dsimp only
  rw [hwrite]
  rfl

end PostBody

/-! ## What is on its way -/

/-- The events the post that holds the mutex has not yet placed. -/
def held (s : PipelineRun α ε) : List ε :=
  match s.post with
  | none => []
  | some ⟨events, _, .storing numToWrite⟩ => events.drop numToWrite
  | some ⟨events, _, _⟩ => events

/-- The events of the pending queue, without a chunk that `writeBlocking` is
done with. -/
def unwritten (s : PipelineRun α ε) : List ε :=
  match s.worker with
  | .returned it => s.pipeline.pendingEvents.drop it.numToWrite
  | _ => s.pipeline.pendingEvents

/-- A post is inside `mEventQueue->write`. -/
def DirectWriteRunning (s : PipelineRun α ε) : Prop :=
  ∃ events numWakeupEvents numToWrite, 0 < numToWrite ∧
    s.post = some ⟨events, numWakeupEvents, .writing numToWrite⟩

/-- The worker is inside `mEventQueue->writeBlocking`. -/
def WriteBlockingRunning (s : PipelineRun α ε) : Prop := ∃ it, s.worker = .writing it

/-! ## The invariant -/

/-- What a post may rely on: it writes directly only while nothing is pending,
and what it writes fits. -/
def PostStage.Ok (p : EventPipeline ε) (events : List ε) : PostStage → Prop
  | .probing => True
  | .writing n => n ≤ events.length ∧ n ≤ p.mEventQueue.availableToWrite ∧
      (0 < n → p.mPendingWriteEventsQueue = [])
  | .storing n => n ≤ events.length ∧ (0 < n → p.mPendingWriteEventsQueue = [])

/-- What the worker relies on: the front entry is the one its iteration began
with. -/
def WorkerStage.Ok (p : EventPipeline ε) : WorkerStage → Prop
  | .writing it | .returned it => ∃ front rest,
      p.mPendingWriteEventsQueue = front :: rest ∧ it = p.beginIteration front
  | _ => True

/-- The invariant of a session: what the post and the worker have seen is still so. -/
structure Consistent (limits : Limits) (s : PipelineRun α ε) : Prop where
  sized : s.pipeline.Sized limits
  post_length : ∀ post, s.post = some post → post.events.length ≤ limits.maxBatch
  post_stage : ∀ post, s.post = some post → PostStage.Ok s.pipeline post.events post.stage
  exclusive : s.worker = .holding → s.post = none
  worker_stage : WorkerStage.Ok s.pipeline s.worker
  received : s.received ++ s.pipeline.mEventQueue.unread = s.written
  refusals : ∀ r ∈ s.refusals, r.Overflows limits

theorem consistent_init {limits : Limits} {process : α → ε → ε × α} {s : PipelineRun α ε}
    (h : (machine limits process).init s) : Consistent limits s := by
  obtain ⟨hunread, hpend, hsize, hpost, hworker, -, hwritten, hreceived, hrefusals, -⟩ := h
  have hevents : s.pipeline.pendingEvents = [] := by
    rw [EventPipeline.pendingEvents, hpend]
    rfl
  refine ⟨⟨?_, ?_, ?_, ?_⟩, ?_, ?_, fun _ => hpost, ?_, ?_, ?_⟩
  · rw [hsize, hevents]
    rfl
  · omega
  · simp [hpend]
  · omega
  · simp [hpost]
  · simp [hpost]
  · rw [hworker]
    trivial
  · rw [hunread, hreceived, hwritten]
    rfl
  · simp [hrefusals]

section Steps
variable {limits : Limits} {s : PipelineRun α ε} (hs : Consistent limits s)
include hs

/-- While a post holds the mutex the worker does not. -/
theorem Consistent.not_holding {post : Post ε} (h : s.post = some post) : s.worker ≠ .holding := by
  intro hworker
  rw [hs.exclusive hworker] at h
  cases h

/-- The worker is inside an iteration only if something is pending. -/
theorem Consistent.worker_of_empty (h : s.pipeline.mPendingWriteEventsQueue = []) :
    s.worker = .waiting ∨ s.worker = .holding := by
  have hworker := hs.worker_stage
  cases hw : s.worker with
  | waiting => exact Or.inl rfl
  | holding => exact Or.inr rfl
  | writing it =>
    rw [hw] at hworker
    obtain ⟨front, rest, hcons, -⟩ := hworker
    rw [h] at hcons
    cases hcons
  | returned it =>
    rw [hw] at hworker
    obtain ⟨front, rest, hcons, -⟩ := hworker
    rw [h] at hcons
    cases hcons

theorem Consistent.unwritten_of_empty (h : s.pipeline.mPendingWriteEventsQueue = []) :
    s.unwritten = [] := by
  have hevents : s.pipeline.pendingEvents = [] := by
    rw [EventPipeline.pendingEvents, h]
    rfl
  rcases hs.worker_of_empty h with hw | hw
  · rw [unwritten, hw]
    exact hevents
  · rw [unwritten, hw]
    exact hevents

/-- A batch added at the back is added behind what is unwritten. -/
theorem Consistent.unwritten_pushPending (eventsLeft : List ε) (numWakeupEvents : Nat) :
    unwritten { s with
      pipeline := s.pipeline.pushPending eventsLeft numWakeupEvents
      post := none } = s.unwritten ++ eventsLeft := by
  have hworker := hs.worker_stage
  cases hw : s.worker with
  | returned it =>
    rw [hw] at hworker
    obtain ⟨front, rest, hpend, rfl⟩ := hworker
    have hle : (s.pipeline.beginIteration front).numToWrite ≤ s.pipeline.pendingEvents.length := by
      rw [EventPipeline.pendingEvents_cons hpend, List.length_append]
      exact Nat.le_trans (Nat.min_le_left _ _) (Nat.le_add_right _ _)
    simp only [unwritten, hw, EventPipeline.pendingEvents_pushPending]
    exact List.drop_append_of_le_length hle
  | _ => simp only [unwritten, hw, EventPipeline.pendingEvents_pushPending]

end Steps

/-- With something pending, a post writes nothing directly, whatever becomes of
the queues. -/
theorem PostStage.Ok.of_pending {p : EventPipeline ε} {events : List ε} {stage : PostStage}
    (h : PostStage.Ok p events stage) (hne : p.mPendingWriteEventsQueue ≠ [])
    (p' : EventPipeline ε) : PostStage.Ok p' events stage := by
  cases stage with
  | probing => trivial
  | writing n =>
    obtain ⟨hle, -, hempty⟩ := h
    have hzero : n = 0 := Nat.eq_zero_of_not_pos fun hpos => hne (hempty hpos)
    rw [hzero]
    exact ⟨Nat.zero_le _, Nat.zero_le _, fun hpos => absurd hpos (Nat.lt_irrefl 0)⟩
  | storing n =>
    obtain ⟨hle, hempty⟩ := h
    have hzero : n = 0 := Nat.eq_zero_of_not_pos fun hpos => hne (hempty hpos)
    rw [hzero]
    exact ⟨Nat.zero_le _, fun hpos => absurd hpos (Nat.lt_irrefl 0)⟩

/-- Reading makes room. -/
theorem PostStage.Ok.of_room {p : EventPipeline ε} {events : List ε} {stage : PostStage}
    (h : PostStage.Ok p events stage) {queue : MessageQueue ε}
    (hroom : p.mEventQueue.availableToWrite ≤ queue.availableToWrite) :
    PostStage.Ok { p with mEventQueue := queue } events stage := by
  cases stage with
  | probing => trivial
  | writing n => exact ⟨h.1, Nat.le_trans h.2.1 hroom, h.2.2⟩
  | storing n => exact h

/-- The worker's front entry stays in place when a batch is added behind it. -/
theorem WorkerStage.Ok.of_append {p p' : EventPipeline ε} {w : WorkerStage}
    (h : WorkerStage.Ok p w) (hq : p'.mEventQueue.quantumCount = p.mEventQueue.quantumCount)
    {more : List (List ε × Nat)}
    (hpend : p'.mPendingWriteEventsQueue = p.mPendingWriteEventsQueue ++ more) :
    WorkerStage.Ok p' w := by
  cases w with
  | waiting => trivial
  | holding => trivial
  | writing it =>
    obtain ⟨front, rest, hcons, rfl⟩ := h
    refine ⟨front, rest ++ more, ?_, ?_⟩
    · rw [hpend, hcons, List.cons_append]
    · rw [EventPipeline.beginIteration, EventPipeline.beginIteration, hq]
  | returned it =>
    obtain ⟨front, rest, hcons, rfl⟩ := h
    refine ⟨front, rest ++ more, ?_, ?_⟩
    · rw [hpend, hcons, List.cons_append]
    · rw [EventPipeline.beginIteration, EventPipeline.beginIteration, hq]

theorem WorkerStage.Ok.of_queue {p : EventPipeline ε} {w : WorkerStage} (h : WorkerStage.Ok p w)
    {queue : MessageQueue ε} (hq : queue.quantumCount = p.mEventQueue.quantumCount) :
    WorkerStage.Ok { p with mEventQueue := queue } w :=
  h.of_append hq (List.append_nil _).symm

end PipelineRun
end SensorsHal
