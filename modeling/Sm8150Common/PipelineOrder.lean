import Sm8150Common.PipelineRuns
import Sm8150Common.Library.LossyChannel

/-! # The pipeline is first in, first out

Every session of the event pipeline is a run of a `LossyChannel` (`simulation`):
a post offers its corrected events, the direct write bypasses the queue, the
remainder is accepted or refused, `writeBlocking` delivers a chunk or loses it,
and all other steps leave the channel alone.  `pipeline_fifo` reads off what such
a channel guarantees. -/
namespace SensorsHal
namespace PipelineRun
variable {α ε : Type}

/-- The session as a lossy channel: the written events have been delivered, the
pending ones are queued, and a post holds the offer that is being decided. -/
def channel (s : PipelineRun α ε) : LossyChannel.Channel ε where
  offered := s.posted
  delivered := s.written
  queued := s.unwritten
  pending := s.held
  refused := s.refusals.flatMap Refusal.tail
  lost := s.dropped.flatten

/-- `t` keeps the invariant, and the channel gets from `s` to `t`. -/
def Simulated (limits : Limits) (s t : PipelineRun α ε) : Prop :=
  Consistent limits t ∧ ∃ ops, (LossyChannel.machine ε).exec s.channel ops = some t.channel

section Steps
variable {limits : Limits} {s : PipelineRun α ε} (hs : Consistent limits s)
include hs

theorem simulated_post {events : List ε} (hlen : events.length ≤ limits.maxBatch)
    (hfree : s.MutexFree) (numWakeupEvents : Nat) (correction : α) :
    Simulated limits s { s with
      correction := correction
      post := some ⟨events, numWakeupEvents, .probing⟩
      posted := s.posted ++ events } := by
  obtain ⟨hnone, hworker⟩ := hfree
  have hpost : s.post = none := Option.isNone_iff_eq_none.mp hnone
  refine ⟨⟨hs.sized, ?_, ?_, fun h => absurd h hworker, hs.worker_stage, hs.received,
    hs.refusals⟩, [.offer events], ?_⟩
  · rintro _ ⟨⟩
    exact hlen
  · rintro _ ⟨⟩
    trivial
  · have hheld : s.held = [] := by
      rw [held, hpost]
    rw [StepMachine.exec_singleton]
    show LossyChannel.step s.channel (.offer events) = _
    rw [LossyChannel.step, if_pos (by rw [channel, hheld]; rfl)]
    rfl

theorem simulated_probe {events : List ε} {numWakeupEvents : Nat}
    (hpost : s.post = some ⟨events, numWakeupEvents, .probing⟩) :
    Simulated limits s { s with
      post := some ⟨events, numWakeupEvents, .writing (s.pipeline.directWriteCount events)⟩ } := by
  have hlen : events.length ≤ limits.maxBatch := hs.post_length _ hpost
  refine ⟨⟨hs.sized, ?_, ?_, fun h => absurd h (hs.not_holding hpost), hs.worker_stage,
    hs.received, hs.refusals⟩, [], ?_⟩
  · rintro _ ⟨⟩
    exact hlen
  · rintro _ ⟨⟩
    obtain ⟨hle, havail⟩ := s.pipeline.directWriteCount_le events
    exact ⟨hle, havail, EventPipeline.isEmpty_of_directWriteCount_pos⟩
  · simp [channel, unwritten, held, hpost]

/-- The direct write bypasses an empty pending queue. -/
theorem simulated_write {events : List ε} {numWakeupEvents numToWrite : Nat}
    (hpost : s.post = some ⟨events, numWakeupEvents, .writing numToWrite⟩) (succeeds : Bool) :
    Simulated limits s { s with
      pipeline := (s.pipeline.directWrite events numToWrite succeeds).1
      post := some ⟨events, numWakeupEvents,
        .storing (s.pipeline.directWrite events numToWrite succeeds).2⟩
      written :=
        s.written ++ events.take (s.pipeline.directWrite events numToWrite succeeds).2 } := by
  have hlen : events.length ≤ limits.maxBatch := hs.post_length _ hpost
  obtain ⟨hle, -, hempty⟩ := hs.post_stage _ hpost
  have hnot := hs.not_holding hpost
  rcases s.pipeline.directWrite_cases events numToWrite succeeds with
    h | ⟨hcount, hpos, queue, hunread, hq, h⟩
  · rw [h]
    refine ⟨⟨hs.sized, ?_, ?_, fun hw => absurd hw hnot, hs.worker_stage, ?_, hs.refusals⟩, [], ?_⟩
    · rintro _ ⟨⟩
      exact hlen
    · rintro _ ⟨⟩
      exact ⟨Nat.zero_le _, fun h0 => absurd h0 (Nat.lt_irrefl 0)⟩
    · rw [List.take_zero, List.append_nil]
      exact hs.received
    · simp [channel, unwritten, held, hpost]
  · rw [h, hcount]
    refine ⟨⟨hs.sized.of_queue queue, ?_, ?_, fun hw => absurd hw hnot,
      hs.worker_stage.of_queue hq, ?_, hs.refusals⟩, [.bypass numToWrite], ?_⟩
    · rintro _ ⟨⟩
      exact hlen
    · rintro _ ⟨⟩
      exact ⟨hle, hempty⟩
    · show s.received ++ queue.unread = s.written ++ events.take numToWrite
      rw [hunread, ← List.append_assoc, hs.received]
    · have hqueued : s.channel.queued = [] := hs.unwritten_of_empty (hempty hpos)
      have hheld : s.held = events := by
        rw [held, hpost]
      rw [StepMachine.exec_singleton]
      show LossyChannel.step s.channel (.bypass numToWrite) = _
      rw [LossyChannel.step, if_pos (by rw [hqueued]; rfl), channel, hheld]
      rfl

/-- The remainder joins the pending queue. -/
theorem simulated_accept {post : Post ε} {numToWrite : Nat}
    (hheld : s.held = post.events.drop numToWrite)
    (hsized : (s.pipeline.pushPending (post.events.drop numToWrite)
      post.numWakeupEvents).Sized limits) :
    Simulated limits s { s with
      pipeline := s.pipeline.pushPending (post.events.drop numToWrite) post.numWakeupEvents
      post := none } := by
  refine ⟨⟨hsized, ?_, ?_, fun _ => rfl, ?_, hs.received, hs.refusals⟩, [.accept], ?_⟩
  · rintro _ ⟨⟩
  · rintro _ ⟨⟩
  · exact hs.worker_stage.of_append rfl rfl
  · have hqueued := hs.unwritten_pushPending (post.events.drop numToWrite) post.numWakeupEvents
    rw [StepMachine.exec_singleton]
    show LossyChannel.step s.channel .accept = _
    rw [LossyChannel.step, channel, hheld, ← hqueued]
    rfl

/-- The remainder is refused: the pending queue would have become too long. -/
theorem simulated_refuse {post : Post ε} {numToWrite : Nat}
    (hheld : s.held = post.events.drop numToWrite) (hlt : numToWrite < post.events.length)
    (hover : limits.kMaxSizePendingWriteEventsQueue <
      s.pipeline.pendingEvents.length + (post.events.length - numToWrite)) :
    Simulated limits s { s with
      post := none
      refusals := s.refusals ++
        [⟨post.events, numToWrite, s.pipeline.pendingEvents.length⟩] } := by
  refine ⟨⟨hs.sized, ?_, ?_, fun _ => rfl, hs.worker_stage, hs.received, ?_⟩, [.refuse], ?_⟩
  · rintro _ ⟨⟩
  · rintro _ ⟨⟩
  · intro r hr
    rcases List.mem_append.mp hr with hr | hr
    · exact hs.refusals r hr
    · rw [List.mem_singleton.mp hr]
      refine ⟨fun hnil => ?_, by rw [Refusal.tail, List.length_drop]; exact hover⟩
      rw [Refusal.tail, List.drop_eq_nil_iff] at hnil
      exact absurd hnil (Nat.not_le_of_lt hlt)
  · rw [StepMachine.exec_singleton]
    show LossyChannel.step s.channel .refuse = _
    rw [LossyChannel.step, channel, hheld]
    simp [channel, unwritten, held, Refusal.tail]

/-- Nothing is left after the direct write. -/
theorem simulated_allWritten (hheld : s.held = []) :
    Simulated limits s { s with post := none } := by
  refine ⟨⟨hs.sized, ?_, ?_, fun _ => rfl, hs.worker_stage, hs.received, hs.refusals⟩, [], ?_⟩
  · rintro _ ⟨⟩
  · rintro _ ⟨⟩
  · rw [StepMachine.exec_nil, channel, hheld]
    rfl

/-- The remainder joins the pending queue, or is refused, or is empty. -/
theorem simulated_store {post : Post ε} {numToWrite : Nat} (hpost : s.post = some post)
    (hstage : post.stage = .storing numToWrite) :
    Simulated limits s (s.store limits post numToWrite) := by
  have hlen := hs.post_length _ hpost
  have hheld : s.held = post.events.drop numToWrite := by
    obtain ⟨events, numWakeupEvents, stage⟩ := post
    cases hstage
    rw [held, hpost]
  rcases s.pipeline.storeRemainder_cases limits post.events post.numWakeupEvents numToWrite with
    ⟨hlt, -, hst⟩ | ⟨hover, hst⟩
  · have hsized := hs.sized.storeRemainder hlen post.numWakeupEvents numToWrite
    rw [hst] at hsized
    have hstore : s.store limits post numToWrite = { s with
        pipeline := s.pipeline.pushPending (post.events.drop numToWrite) post.numWakeupEvents
        post := none } := by
      rw [store, hst]
      rw [if_neg]
      -- the pending events have become more
      rintro ⟨-, hsame⟩
      rw [EventPipeline.pendingEvents_pushPending, List.length_append, List.length_drop] at hsame
      omega
    rw [hstore]
    exact simulated_accept hs hheld hsized
  · by_cases hlt : numToWrite < post.events.length
    · have hstore : s.store limits post numToWrite = { s with
          post := none
          refusals := s.refusals ++
            [⟨post.events, numToWrite, s.pipeline.pendingEvents.length⟩] } := by
        rw [store, hst]
        rw [if_pos ⟨hlt, rfl⟩]
      have hfull := hover hlt
      rw [hs.sized.sizeAdd_eq (by omega)] at hfull
      rw [hstore]
      exact simulated_refuse hs hheld hlt hfull
    · have hstore : s.store limits post numToWrite = { s with post := none } := by
        rw [store, hst]
        rw [if_neg (fun h => hlt h.1)]
      rw [hstore]
      refine simulated_allWritten hs (hheld.trans ?_)
      exact List.drop_eq_nil_iff.mpr (Nat.le_of_not_lt hlt)

theorem simulated_wake (hfree : s.MutexFree) (hworker : s.worker = .waiting) :
    Simulated limits s { s with worker := .holding } := by
  have hpost : s.post = none := Option.isNone_iff_eq_none.mp hfree.1
  refine ⟨⟨hs.sized, hs.post_length, hs.post_stage, fun _ => hpost, trivial, hs.received,
    hs.refusals⟩, [], ?_⟩
  simp [channel, unwritten, held, hworker]

theorem simulated_wait (hworker : s.worker = .holding) :
    Simulated limits s { s with worker := .waiting } := by
  refine ⟨⟨hs.sized, hs.post_length, hs.post_stage, ?_, trivial, hs.received, hs.refusals⟩, [], ?_⟩
  · rintro ⟨⟩
  · simp [channel, unwritten, held, hworker]

theorem simulated_begin {front : List ε × Nat} {rest : List (List ε × Nat)}
    (hworker : s.worker = .holding) (hpend : s.pipeline.mPendingWriteEventsQueue = front :: rest) :
    Simulated limits s { s with worker := .writing (s.pipeline.beginIteration front) } := by
  refine ⟨⟨hs.sized, hs.post_length, hs.post_stage, ?_, ⟨front, rest, hpend, rfl⟩, hs.received,
    hs.refusals⟩, [], ?_⟩
  · rintro ⟨⟩
  · simp [channel, unwritten, held, hworker]

/-- `writeBlocking` delivers the chunk at the front, or loses it. -/
theorem simulated_writeBlocking {it : EventPipeline.Iteration} {front : List ε × Nat}
    {rest : List (List ε × Nat)} (hworker : s.worker = .writing it)
    (hpend : s.pipeline.mPendingWriteEventsQueue = front :: rest) (succeeds : Bool) :
    Simulated limits s (s.writeChunk it (front.1.take it.numToWrite) succeeds) := by
  have hok := hs.worker_stage
  rw [hworker] at hok
  obtain ⟨front', rest', hpend', hit⟩ := hok
  rw [hpend] at hpend'
  obtain ⟨rfl, rfl⟩ := List.cons.inj hpend'
  have hle : it.numToWrite ≤ front.1.length := by
    rw [hit]
    exact Nat.min_le_left _ _
  have hchunk : s.pipeline.pendingEvents.take it.numToWrite = front.1.take it.numToWrite := by
    rw [EventPipeline.pendingEvents_cons hpend, List.take_append_of_le_length hle]
  have hqueued : s.unwritten = s.pipeline.pendingEvents := by
    rw [unwritten, hworker]
  have hne : s.pipeline.mPendingWriteEventsQueue ≠ [] := by
    rw [hpend]
    exact List.cons_ne_nil _ _
  rcases s.pipeline.mEventQueue.write_cases (front.1.take it.numToWrite) succeeds with
    h | ⟨hwritten, hunread, hq⟩
  · rw [writeChunk, h]
    refine ⟨⟨hs.sized, hs.post_length, hs.post_stage, ?_, ⟨front, rest, hpend, hit⟩, hs.received,
      hs.refusals⟩, [.lose it.numToWrite], ?_⟩
    · rintro ⟨⟩
    · rw [StepMachine.exec_singleton]
      show LossyChannel.step s.channel (.lose it.numToWrite) = _
      rw [LossyChannel.step, channel, hqueued, hchunk]
      simp [channel, unwritten, held]
  · rw [writeChunk]
    dsimp only
    rw [if_pos hwritten, if_pos hwritten]
    refine ⟨⟨hs.sized.of_queue _, hs.post_length,
      fun post hpost => (hs.post_stage post hpost).of_pending hne _, ?_, ?_, ?_, hs.refusals⟩,
      [.deliver it.numToWrite], ?_⟩
    · rintro ⟨⟩
    · refine ⟨front, rest, hpend, ?_⟩
      rw [EventPipeline.beginIteration, hq]
      exact hit
    · show s.received ++ (s.pipeline.mEventQueue.write _ succeeds).1.unread = _
      rw [hunread, ← List.append_assoc, hs.received]
    · rw [StepMachine.exec_singleton]
      show LossyChannel.step s.channel (.deliver it.numToWrite) = _
      rw [LossyChannel.step, channel, hqueued, hchunk]
      rfl

theorem simulated_retire {it : EventPipeline.Iteration} (hworker : s.worker = .returned it)
    (hfree : s.MutexFree) :
    Simulated limits s { s with pipeline := s.pipeline.retireChunk it, worker := .holding } := by
  have hpost : s.post = none := Option.isNone_iff_eq_none.mp hfree.1
  have hok := hs.worker_stage
  rw [hworker] at hok
  obtain ⟨front, rest, hpend, rfl⟩ := hok
  have hqueue : (s.pipeline.retireChunk (s.pipeline.beginIteration front)).mEventQueue =
      s.pipeline.mEventQueue := by
    rw [EventPipeline.retireChunk, hpend]
  refine ⟨⟨hs.sized.retireChunk hpend, ?_, ?_, fun _ => hpost, trivial, ?_, hs.refusals⟩, [], ?_⟩
  · intro post h
    rw [hpost] at h
    cases h
  · intro post h
    rw [hpost] at h
    cases h
  · rw [hqueue]
    exact hs.received
  · simp [channel, unwritten, held, hworker, EventPipeline.pendingEvents_retireChunk hpend]

theorem simulated_read (n : Nat) :
    Simulated limits s { s with
      pipeline := { s.pipeline with mEventQueue := (s.pipeline.mEventQueue.read n).2 }
      received := s.received ++ (s.pipeline.mEventQueue.read n).1 } := by
  have hroom : s.pipeline.mEventQueue.availableToWrite ≤
      (s.pipeline.mEventQueue.read n).2.availableToWrite := by
    show _ - _ ≤ s.pipeline.mEventQueue.quantumCount - (s.pipeline.mEventQueue.unread.drop n).length
    rw [List.length_drop]
    omega
  refine ⟨⟨hs.sized.of_queue _, hs.post_length,
    fun post hpost => (hs.post_stage post hpost).of_room hroom, hs.exclusive,
    hs.worker_stage.of_queue rfl, ?_, hs.refusals⟩, [], ?_⟩
  · rw [List.append_assoc, MessageQueue.read_append]
    exact hs.received
  · rfl

end Steps

/-- Every step keeps the invariant and is a run of the channel. -/
theorem simulated_step {limits : Limits} {process : α → ε → ε × α} {s t : PipelineRun α ε}
    {l : PipelineStep ε} (hs : Consistent limits s) (h : step limits process s l = some t) :
    Simulated limits s t := by
  cases l with
  | post eventsList numWakeupEvents =>
    obtain ⟨⟨hfree, hlen⟩, ht⟩ := Option.ite_none_right_eq_some.mp h
    cases ht
    refine simulated_post hs ?_ hfree numWakeupEvents _
    rw [length_correctEvents]
    exact hlen
  | probe =>
    dsimp only [step] at h
    split at h
    · rename_i events numWakeupEvents hpost
      cases h
      exact simulated_probe hs hpost
    · cases h
  | write succeeds =>
    dsimp only [step] at h
    split at h
    · rename_i events numWakeupEvents numToWrite hpost
      cases h
      exact simulated_write hs hpost succeeds
    · cases h
  | store =>
    dsimp only [step] at h
    split at h
    · rename_i events numWakeupEvents numToWrite hpost
      cases h
      exact simulated_store hs hpost rfl
    · cases h
  | wake =>
    obtain ⟨⟨hworker, hfree⟩, ht⟩ := Option.ite_none_right_eq_some.mp h
    cases ht
    exact simulated_wake hs hfree hworker
  | test =>
    obtain ⟨hworker, ht⟩ := Option.ite_none_right_eq_some.mp h
    split at ht
    · cases ht
      exact simulated_wait hs hworker
    · rename_i front rest hpend
      cases ht
      exact simulated_begin hs hworker hpend
  | writeBlocking succeeds =>
    dsimp only [step] at h
    split at h
    · rename_i it front rest hworker hpend
      cases h
      exact simulated_writeBlocking hs hworker hpend succeeds
    · cases h
  | retire =>
    dsimp only [step] at h
    split at h
    · rename_i it hworker
      obtain ⟨hfree, ht⟩ := Option.ite_none_right_eq_some.mp h
      cases ht
      exact simulated_retire hs hworker hfree
    · cases h
  | read n =>
    cases h
    exact simulated_read hs n

/-- So does a post that is not interrupted. -/
theorem Consistent.postBody {limits : Limits} {process : α → ε → ε × α} {s : PipelineRun α ε}
    (hs : Consistent limits s) (hfree : s.MutexFree) {eventsList : List ε}
    (hlen : eventsList.length ≤ limits.maxBatch) (numWakeupEvents : Nat) (succeeds : Bool) :
    Consistent limits (s.postBody limits process eventsList numWakeupEvents succeeds) :=
  StepMachine.exec_invariant (M := machine limits process)
    (fun _ _ _ hs h => (simulated_step hs h).1) hs
    (exec_post limits process hfree hlen numWakeupEvents succeeds)

/-- A session is a lossy channel. -/
theorem simulation (limits : Limits) (process : α → ε → ε × α) :
    StepMachine.Simulation (machine limits process) (LossyChannel.machine ε) channel
      (Consistent limits) where
  init s h := by
    refine ⟨consistent_init h, ?_⟩
    obtain ⟨-, hpend, -, hpost, hworker, hposted, hwritten, -, hrefusals, hdropped⟩ := h
    show channel s = _
    simp [channel, unwritten, held, EventPipeline.pendingEvents, hpend, hpost, hworker, hposted,
      hwritten, hrefusals, hdropped]
  step _ _ _ hs h := simulated_step hs h

/-- The direct write needs an empty pending queue, `writeBlocking` a pending
chunk. -/
theorem Consistent.writes_exclude {limits : Limits} {s : PipelineRun α ε} (hs : Consistent limits s) :
    ¬ (s.DirectWriteRunning ∧ s.WriteBlockingRunning) := by
  rintro ⟨⟨events, numWakeupEvents, numToWrite, hpos, hpost⟩, it, hworker⟩
  obtain ⟨-, -, hempty⟩ := hs.post_stage _ hpost
  rcases hs.worker_of_empty (hempty hpos) with hw | hw
  · rw [hw] at hworker
    cases hworker
  · rw [hw] at hworker
    cases hworker

/-- What is written or pending was posted, in the same order. -/
theorem sublist_posted {limits : Limits} {process : α → ε → ε × α} {s : PipelineRun α ε}
    (h : (machine limits process).Reachable s) : (s.written ++ s.unwritten).Sublist s.posted := by
  obtain ⟨marks, hposted, hkept, -, -⟩ :=
    LossyChannel.Reachable.accounted ((simulation limits process).reachable h).2
  have hsub := LossyChannel.strand_sublist .kept marks
  rw [hkept, hposted] at hsub
  exact (List.sublist_append_left _ _).trans hsub

/-- What every post makes of its events, everything written or pending is. -/
theorem forall_of_posts {limits : Limits} {process : α → ε → ε × α} {P : ε → Prop}
    {ok : PipelineRun α ε → PipelineStep ε → Prop}
    (hposts : ∀ s eventsList numWakeupEvents, ok s (.post eventsList numWakeupEvents) →
      ∀ e ∈ (correctEvents process s.correction eventsList).1, P e)
    {s : PipelineRun α ε} (h : (machine limits process).ReachableBy ok s) :
    ∀ e ∈ s.written ++ s.unwritten, P e := by
  have hposted : ∀ e ∈ s.posted, P e := by
    refine h.invariant (I := fun s => ∀ e ∈ s.posted, P e) ?_ ?_
    · rintro s ⟨-, -, -, -, -, hnil, -⟩ e he
      rw [hnil] at he
      cases he
    · intro s l t hs hok hstep e he
      rcases posted_step hstep with hsame | ⟨eventsList, numWakeupEvents, rfl, hnew⟩
      · exact hs e (hsame ▸ he)
      · rw [hnew] at he
        rcases List.mem_append.mp he with he | he
        · exact hs e he
        · exact hposts s eventsList numWakeupEvents hok e he
  exact fun e he => hposted e ((sublist_posted h.reachable).subset he)

/-- **The event pipeline is first in, first out, and loses nothing silently.**
In every state of every session: what the framework has read, and what it can
still read, is what has been written; the written events followed by the pending
ones are a subsequence of the posted events; each posted event has one fate,
written or still on its way, refused with the tail of its batch, or dropped with
a chunk whose `writeBlocking` failed, and each of these is in order; every
refused tail would have exceeded the bound; and the two writers of the event
queue never write at the same time. -/
theorem pipeline_fifo (limits : Limits) (process : α → ε → ε × α) {s : PipelineRun α ε}
    (h : (machine limits process).Reachable s) :
    s.received ++ s.pipeline.mEventQueue.unread = s.written ∧
    (s.written ++ s.unwritten).Sublist s.posted ∧
    (∃ marks : List (LossyChannel.Fate × ε), marks.map Prod.snd = s.posted ∧
      LossyChannel.strand .kept marks = s.written ++ s.unwritten ++ s.held ∧
      LossyChannel.strand .refused marks = s.refusals.flatMap Refusal.tail ∧
      LossyChannel.strand .lost marks = s.dropped.flatten) ∧
    (∀ r ∈ s.refusals, r.Overflows limits) ∧
    ¬ (s.DirectWriteRunning ∧ s.WriteBlockingRunning) := by
  obtain ⟨hs, hchannel⟩ := (simulation limits process).reachable h
  obtain ⟨marks, hposted, hkept, hrefused, hlost⟩ := LossyChannel.Reachable.accounted hchannel
  exact ⟨hs.received, sublist_posted h, ⟨marks, hposted, hkept, hrefused, hlost⟩, hs.refusals,
    hs.writes_exclude⟩

/-- Three events, of which two fit; while the worker is writing the third, a
fourth is posted behind it. -/
theorem pipeline_fifo_example : ∃ s : PipelineRun Unit Nat,
    (machine ⟨4, 4, by decide⟩ fun s event => (event, s)).Reachable s ∧
      s.written = [1, 2, 3] ∧ s.unwritten = [4] ∧ (s.written ++ s.unwritten).Sublist s.posted := by
  have hinit : (machine ⟨4, 4, by decide⟩ fun s event => (event, s)).init
      (⟨⟨⟨2, [], by decide⟩, [], 0, 0⟩, (), none, .waiting, [], [], [], [], []⟩ :
        PipelineRun Unit Nat) :=
    ⟨rfl, rfl, rfl, rfl, rfl, rfl, rfl, rfl, rfl, rfl⟩
  have hrun : (machine ⟨4, 4, by decide⟩ fun s event => (event, s)).exec
      (⟨⟨⟨2, [], by decide⟩, [], 0, 0⟩, (), none, .waiting, [], [], [], [], []⟩ :
        PipelineRun Unit Nat)
      [.post [1, 2, 3] 0, .probe, .write true, .store, .wake, .test, .post [4] 0, .probe,
        .write true, .store, .read 2, .writeBlocking true, .retire] =
      some ⟨⟨⟨2, [3], by decide⟩, [([4], 0)], 1, 2⟩, (), none, .holding, [1, 2, 3, 4], [1, 2, 3],
        [1, 2], [], []⟩ :=
    rfl
  have hreach := StepMachine.Reachable.exec (.init hinit) hrun
  exact ⟨_, hreach, rfl, rfl, (pipeline_fifo _ _ hreach).2.1⟩

end PipelineRun
end SensorsHal
