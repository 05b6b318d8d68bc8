import Sm8150Common.PipelineOrder

/-!
# One `initialize`, many posts

`initializeCommon` (`HalProxy.cpp`, lines 215–277) ends one session of the event
pipeline and begins the next: it stops the threads, clears the pending queue and
its size, takes over a new event queue, starts the threads and re-initialises the
sub-HALs.  It does not take `mEventQueueWriteMutex`, and a call of `postEvents`
(`HalProxyCallback.cpp`, lines 41–58) that has found the threads running may run
its body between any two of these statements.

A call is *stale* if it started before this `initialize` re-initialised its
sub-HAL, and so are its events.  `new_session_isolated` says that no stale event
gets into the new session as long as every stale body that runs after the pending
queue has been cleared leaves nothing behind; `stale_event_in_new_queue` is a run
in which one does not.
-/
namespace SensorsHal

/-- An event with, as ghost state, whether the call that posts it is stale. -/
structure Stamped (ε : Type) where
  event : ε
  stale : Bool
  deriving DecidableEq, Repr

/-- The correction of an event leaves its stamp alone. -/
def processStamped {α ε : Type} (process : α → ε → ε × α) (s : α) (e : Stamped ε) :
    Stamped ε × α :=
  let (event, s) := process s e.event
  (⟨event, e.stale⟩, s)

/-- The statements of `initializeCommon`, the first three being those of
`stopThreads`. -/
inductive InitStatement
  | storeThreadsStopped
  | drainQueues
  | joinThreads
  | resetSharedWakelock
  | disableAllSensors
  | clearPendingQueue
  | clearPendingSize
  | clearDynamicSensors
  | setDynamicCallback
  | moveEventQueue
  | moveWakeLockQueue
  | createEventFlags
  | storeThreadsRun
  | startPendingWritesThread
  | startWakelockThread
  | initializeSubHals
  | storeOperationMode
  | returned
  deriving DecidableEq, Repr

/-- What has been achieved before a statement. -/
inductive InitPhase
  | stopping
  | stopped
  | queueCleared
  | sizeCleared
  | moved
  | started
  | renewed
  deriving DecidableEq, Repr

def InitStatement.phase : InitStatement → InitPhase
  | storeThreadsStopped | drainQueues | joinThreads => .stopping
  | resetSharedWakelock | disableAllSensors | clearPendingQueue => .stopped
  | clearPendingSize => .queueCleared
  | clearDynamicSensors | setDynamicCallback | moveEventQueue => .sizeCleared
  | moveWakeLockQueue | createEventFlags | storeThreadsRun | startPendingWritesThread => .moved
  | startWakelockThread => .started
  | initializeSubHals | storeOperationMode | returned => .renewed

/-- A call of `postEvents` by sub-HAL `subHal`; `checked` once it has found the
threads running. -/
structure PostCall (ε : Type) where
  subHal : Nat
  events : List ε
  numWakeupEvents : Nat
  stale : Bool
  checked : Bool
  deriving DecidableEq, Repr

/-- The state of the proxy during an `initialize`: the next statement, the
running flag, whether there is a pending-writes thread, how many sub-HALs have
been re-initialised, the calls under way, and the pipeline. -/
structure InitRun (α ε : Type) where
  next : InitStatement
  mThreadsRun : Bool
  workerAlive : Bool
  reinitialised : Nat
  calls : List (PostCall ε)
  run : PipelineRun α (Stamped ε)

/-- A statement of `initializeCommon`; a post begins, tests the flag, and has its body; the
pipeline goes on. -/
inductive InitStep (ε : Type)
  | statement
  | begin (subHal : Nat) (events : List ε) (numWakeupEvents : Nat)
  | check (k : Nat)
  | body (k : Nat) (succeeds : Bool)
  | pipeline (l : PipelineStep (Stamped ε))

namespace InitRun
variable {α ε : Type}

/-- The next statement of `initializeCommon`, with a new event queue for
`newQueueSize` events and `numSubHals` sub-HALs. -/
def statement (newQueueSize numSubHals : Nat) (s : InitRun α ε) : Option (InitRun α ε) :=
  match s.next with
  | .storeThreadsStopped => some { s with mThreadsRun := false, next := .drainQueues }
  | .drainQueues =>
    let (items, queue) := s.run.pipeline.mEventQueue.read s.run.pipeline.mEventQueue.unread.length
    some { s with
      run := { s.run with
        pipeline := { s.run.pipeline with mEventQueue := queue }
        received := s.run.received ++ items }
      next := .joinThreads }
  | .joinThreads =>
    -- the worker leaves its loop between two iterations
    if s.run.worker = .waiting ∨ s.run.worker = .holding then
      some { s with
        workerAlive := false
        run := { s.run with worker := .waiting }
        next := .resetSharedWakelock }
    else none
  | .resetSharedWakelock => some { s with next := .disableAllSensors }
  | .disableAllSensors => some { s with next := .clearPendingQueue }
  | .clearPendingQueue =>
    some { s with
      run := { s.run with pipeline := { s.run.pipeline with mPendingWriteEventsQueue := [] } }
      next := .clearPendingSize }
  | .clearPendingSize =>
    some { s with
      run := { s.run with pipeline := { s.run.pipeline with mSizePendingWriteEventsQueue := 0 } }
      next := .clearDynamicSensors }
  | .clearDynamicSensors => some { s with next := .setDynamicCallback }
  | .setDynamicCallback => some { s with next := .moveEventQueue }
  | .moveEventQueue =>
    -- the record starts again with the new queue
    some { s with
      run := { s.run with
        pipeline := { s.run.pipeline with mEventQueue := ⟨newQueueSize, [], Nat.zero_le _⟩ }
        posted := []
        written := []
        received := []
        refusals := []
        dropped := [] }
      next := .moveWakeLockQueue }
  | .moveWakeLockQueue => some { s with next := .createEventFlags }
  | .createEventFlags => some { s with next := .storeThreadsRun }
  | .storeThreadsRun => some { s with mThreadsRun := true, next := .startPendingWritesThread }
  | .startPendingWritesThread => some { s with workerAlive := true, next := .startWakelockThread }
  | .startWakelockThread => some { s with next := .initializeSubHals }
  | .initializeSubHals =>
    if s.reinitialised < numSubHals then some { s with reinitialised := s.reinitialised + 1 }
    else some { s with next := .storeOperationMode }
  | .storeOperationMode => some { s with next := .returned }
  | .returned => none

/-- The steps of the worker, if there is one, and of the framework. -/
def mayStep (s : InitRun α ε) : PipelineStep (Stamped ε) → Bool
  | .wake | .writeBlocking _ | .retire => s.workerAlive
  | .test => s.workerAlive && s.mThreadsRun
  | .read _ => true
  | .post .. | .probe | .write _ | .store => false

def step (limits : Limits) (process : α → ε → ε × α) (newQueueSize numSubHals : Nat)
    (s : InitRun α ε) : InitStep ε → Option (InitRun α ε)
  | .statement => s.statement newQueueSize numSubHals
  | .begin subHal events numWakeupEvents =>
    some { s with
      calls := s.calls ++
        [⟨subHal, events, numWakeupEvents, decide (s.reinitialised ≤ subHal), false⟩] }
  | .check k =>
    match s.calls[k]? with
    | some call =>
      some { s with
        calls :=
          if s.mThreadsRun then s.calls.set k { call with checked := true }
          else s.calls.eraseIdx k }
    | none => none
  | .body k succeeds =>
    -- the whole of `postEventsToMessageQueue`, which holds the mutex
    match s.calls[k]? with
    | some call =>
      if call.checked = true ∧ s.run.MutexFree ∧ call.events.length ≤ limits.maxBatch then
        some { s with
          calls := s.calls.eraseIdx k
          run := s.run.postBody limits (processStamped process)
            (call.events.map fun event => ⟨event, call.stale⟩) call.numWakeupEvents succeeds }
      else none
    | none => none
  | .pipeline l =>
    if s.mayStep l then
      (s.run.step limits (processStamped process) l).map fun run => { s with run := run }
    else none

/-- `initialize` is called with any calls under way, all of them stale, as are
the events that are pending. -/
def machine (limits : Limits) (process : α → ε → ε × α) (newQueueSize numSubHals : Nat) :
    StepMachine (InitRun α ε) (InitStep ε) where
  init s := s.next = .storeThreadsStopped ∧ s.reinitialised = 0 ∧ s.run.post = none ∧
    (∀ call ∈ s.calls, call.stale = true) ∧ ∀ e ∈ s.run.pipeline.pendingEvents, e.stale = true
  step := step limits process newQueueSize numSubHals

/-! ## The condition -/

/-- What a post of `n` events leaves behind: in the old session anything is
fine; once the pending queue is cleared nothing may be stored there; once the
event queue is the new one nothing may be written there either. -/
def LeavesNothing (limits : Limits) (p : EventPipeline (Stamped ε)) (n : Nat) (succeeds : Bool) :
    InitPhase → Prop
  | .stopping | .stopped => True
  | .queueCleared | .sizeCleared =>
    p.writtenAtOnce n succeeds < n → p.Overflows limits n succeeds
  | .moved | .started | .renewed =>
    p.writtenAtOnce n succeeds = 0 ∧ (0 < n → p.Overflows limits n succeeds)

instance (limits : Limits) (p : EventPipeline (Stamped ε)) (n : Nat) (succeeds : Bool) :
    DecidablePred (LeavesNothing limits p n succeeds)
  | .stopping | .stopped => isTrue trivial
  | .queueCleared | .sizeCleared => inferInstanceAs (Decidable (_ → _))
  | .moved | .started | .renewed => inferInstanceAs (Decidable (_ ∧ _))

/-- The body of a stale call leaves nothing behind. -/
def StaleLeavesNothing (limits : Limits) (s : InitRun α ε) : InitStep ε → Prop
  | .body k succeeds => ∀ call ∈ s.calls[k]?, call.stale = true →
      LeavesNothing limits s.run.pipeline call.events.length succeeds s.next.phase
  | _ => True

instance (limits : Limits) (s : InitRun α ε) : DecidablePred (StaleLeavesNothing limits s)
  | .body k _ => inferInstanceAs (Decidable (∀ call ∈ s.calls[k]?, call.stale = true → _))
  | .statement | .begin .. | .check _ | .pipeline _ => isTrue trivial

/-! ## The invariant -/

/-- No sub-HAL has been re-initialised, and every call is stale. -/
def AllStale (s : InitRun α ε) : Prop :=
  s.reinitialised = 0 ∧ ∀ call ∈ s.calls, call.stale = true

def WorkerGone (s : InitRun α ε) : Prop := s.workerAlive = false ∧ s.run.worker = .waiting

/-- The pipeline is as in a session of its own, without stale events. -/
structure NewSession (limits : Limits) (run : PipelineRun α (Stamped ε)) : Prop where
  consistent : PipelineRun.Consistent limits run
  written : ∀ e ∈ run.written, e.stale = false
  pending : ∀ e ∈ run.pipeline.pendingEvents, e.stale = false

/-- What holds in each phase. -/
def PhaseOk (limits : Limits) (s : InitRun α ε) : InitPhase → Prop
  | .stopping => s.AllStale
  | .stopped => s.AllStale ∧ s.WorkerGone
  | .queueCleared => s.AllStale ∧ s.WorkerGone ∧ s.run.pipeline.mPendingWriteEventsQueue = []
  | .sizeCleared => s.AllStale ∧ s.WorkerGone ∧ s.run.pipeline.mPendingWriteEventsQueue = [] ∧
      s.run.pipeline.mSizePendingWriteEventsQueue = 0
  | .moved => s.AllStale ∧ s.WorkerGone ∧ NewSession limits s.run
  | .started => s.AllStale ∧ NewSession limits s.run
  | .renewed => NewSession limits s.run

/-- No post is under way, and what is left of the last session is what the phase allows. -/
structure Isolated (limits : Limits) (s : InitRun α ε) : Prop where
  post : s.run.post = none
  phase : s.PhaseOk limits s.next.phase

/-! ## What the pipeline holds after a step -/

theorem mem_pendingEvents_retireChunk {ε : Type} {p : EventPipeline ε}
    {it : EventPipeline.Iteration} {e : ε} (h : e ∈ (p.retireChunk it).pendingEvents) :
    e ∈ p.pendingEvents := by
  cases hpend : p.mPendingWriteEventsQueue with
  | nil =>
    rw [EventPipeline.retireChunk, hpend] at h
    exact h
  | cons front rest =>
    rw [EventPipeline.pendingEvents_cons hpend]
    rw [EventPipeline.retireChunk, hpend, EventPipeline.pendingEvents, List.flatMap_append] at h
    rcases List.mem_append.mp h with h | h
    · apply List.mem_append_left
      unfold EventPipeline.retireEntry at h
      split at h
      · simp only [Option.toList_some, List.flatMap_singleton] at h
        exact List.mem_of_mem_drop h
      · cases h
    · exact List.mem_append_right _ h

/-- A step of the worker or the framework brings nothing new into the pipeline
and leaves the posts alone. -/
theorem contents_step {limits : Limits} {process : α → Stamped ε → Stamped ε × α}
    {s : InitRun α ε} {l : PipelineStep (Stamped ε)} {t : PipelineRun α (Stamped ε)}
    (hmay : s.mayStep l = true) (h : s.run.step limits process l = some t) :
    t.post = s.run.post ∧
      (∀ e ∈ t.written, e ∈ s.run.written ∨ e ∈ s.run.pipeline.pendingEvents) ∧
      ∀ e ∈ t.pipeline.pendingEvents, e ∈ s.run.pipeline.pendingEvents := by
  cases l with
  | post eventsList numWakeupEvents => cases hmay
  | probe => cases hmay
  | write succeeds => cases hmay
  | store => cases hmay
  | wake =>
    obtain ⟨-, ht⟩ := Option.ite_none_right_eq_some.mp h
    cases ht
    exact ⟨rfl, fun _ he => Or.inl he, fun _ he => he⟩
  | test =>
    obtain ⟨-, ht⟩ := Option.ite_none_right_eq_some.mp h
    split at ht <;> cases ht
    · exact ⟨rfl, fun _ he => Or.inl he, fun _ he => he⟩
    · exact ⟨rfl, fun _ he => Or.inl he, fun _ he => he⟩
  | writeBlocking succeeds =>
    dsimp only [PipelineRun.step] at h
    split at h
    · rename_i it front rest hworker hpend
      cases h
      refine ⟨rfl, ?_, fun _ he => he⟩
      intro e he
      unfold PipelineRun.writeChunk at he
      dsimp only at he
      split at he
      · rcases List.mem_append.mp he with he | he
        · exact Or.inl he
        · refine Or.inr ?_
          rw [EventPipeline.pendingEvents_cons hpend]
          exact List.mem_append_left _ (List.mem_of_mem_take he)
      · exact Or.inl he
    · cases h
  | retire =>
    dsimp only [PipelineRun.step] at h
    split at h
    · obtain ⟨-, ht⟩ := Option.ite_none_right_eq_some.mp h
      cases ht
      exact ⟨rfl, fun _ he => Or.inl he, fun _ he => mem_pendingEvents_retireChunk he⟩
    · cases h
  | read n =>
    cases h
    exact ⟨rfl, fun _ he => Or.inl he, fun _ he => he⟩

theorem stale_correctEvents (process : α → ε → ε × α) (s : α) (events : List ε) (stale : Bool) :
    ∀ e ∈ (correctEvents (processStamped process) s (events.map fun event => ⟨event, stale⟩)).1,
      e.stale = stale := by
  induction events generalizing s with
  | nil =>
    rintro e ⟨⟩
  | cons event events ih =>
    intro e he
    rcases List.mem_cons.mp he with rfl | he
    · rfl
    · exact ih _ e he

/-! ## Every step keeps the invariant -/

/-- A new event queue on an empty pending queue. -/
theorem newSession_empty {limits : Limits} {run : PipelineRun α (Stamped ε)}
    {newQueueSize : Nat} (hpost : run.post = none) (hworker : run.worker = .waiting)
    (hpend : run.pipeline.mPendingWriteEventsQueue = [])
    (hsize : run.pipeline.mSizePendingWriteEventsQueue = 0) :
    NewSession limits { run with
      pipeline := { run.pipeline with mEventQueue := ⟨newQueueSize, [], Nat.zero_le _⟩ }
      posted := []
      written := []
      received := []
      refusals := []
      dropped := [] } := by
  have hinit : ∀ s, (PipelineRun.machine limits fun (s : α) (e : Stamped ε) => (e, s)).init s →
      PipelineRun.Consistent limits s := fun _ => PipelineRun.consistent_init
  refine ⟨hinit _ ⟨rfl, hpend, hsize, hpost, hworker, rfl, rfl, rfl, rfl, rfl⟩, ?_, ?_⟩
  · rintro e ⟨⟩
  · intro e he
    rw [EventPipeline.pendingEvents, hpend] at he
    cases he

/-- A body that runs in the new session: a stale one leaves nothing behind, any
other brings events that are not stale. -/
theorem newSession_postBody {limits : Limits} {run : PipelineRun α (Stamped ε)}
    (process : α → ε → ε × α) {call : PostCall ε} {succeeds : Bool}
    (hfree : run.MutexFree) (hlen : call.events.length ≤ limits.maxBatch)
    (hnew : NewSession limits run)
    (hok : call.stale = true → run.pipeline.writtenAtOnce call.events.length succeeds = 0 ∧
      (0 < call.events.length → run.pipeline.Overflows limits call.events.length succeeds)) :
    NewSession limits (run.postBody limits (processStamped process)
      (call.events.map fun event => ⟨event, call.stale⟩) call.numWakeupEvents succeeds) := by
  have hlen' : (call.events.map fun event => (⟨event, call.stale⟩ : Stamped ε)).length =
      call.events.length := List.length_map _
  have hstamp := stale_correctEvents process run.correction call.events call.stale
  refine ⟨hnew.consistent.postBody hfree (by omega) _ _, ?_, ?_⟩
  · intro e he
    rw [PipelineRun.postBody_written, hlen'] at he
    rcases List.mem_append.mp he with he | he
    · exact hnew.written e he
    · cases hcall : call.stale with
      | false => rw [hstamp e (List.mem_of_mem_take he), hcall]
      | true =>
        rw [(hok hcall).1] at he
        cases he
  · intro e he
    obtain ⟨-, hpending⟩ := run.pipeline.writeOrStore_spec limits
      (correctEvents (processStamped process) run.correction
        (call.events.map fun event => ⟨event, call.stale⟩)).1 call.numWakeupEvents succeeds
    rw [PipelineRun.postBody_pipeline, hpending] at he
    rw [length_correctEvents, hlen'] at he
    rcases List.mem_append.mp he with he | he
    · exact hnew.pending e he
    · split at he
      · cases he
      · rename_i hfits
        have hmem := List.mem_of_mem_drop he
        cases hcall : call.stale with
        | false => rw [hstamp e hmem, hcall]
        | true =>
          have hempty : call.events.length = 0 :=
            Nat.eq_zero_of_not_pos fun hpos => hfits ((hok hcall).2 hpos)
          rw [List.length_eq_zero_iff.mp hempty] at hmem
          cases hmem

/-- A body that stores nothing leaves the pending queue and its size alone. -/
theorem postBody_of_refused {limits : Limits} {run : PipelineRun α (Stamped ε)}
    (process : α → ε → ε × α) {call : PostCall ε} {succeeds : Bool}
    (h : run.pipeline.writtenAtOnce call.events.length succeeds < call.events.length →
      run.pipeline.Overflows limits call.events.length succeeds) :
    ∃ queue : MessageQueue (Stamped ε),
      (run.postBody limits (processStamped process)
        (call.events.map fun event => ⟨event, call.stale⟩) call.numWakeupEvents
        succeeds).pipeline = { run.pipeline with mEventQueue := queue } := by
  have hlen : (correctEvents (processStamped process) run.correction
      (call.events.map fun event => (⟨event, call.stale⟩ : Stamped ε))).1.length =
      call.events.length := by
    rw [length_correctEvents, List.length_map]
  rw [PipelineRun.postBody_pipeline]
  apply EventPipeline.writeOrStore_of_refused
  rw [hlen]
  exact h

/-- Without a worker only the framework steps, and it reads. -/
theorem eq_read_of_gone {s : InitRun α ε} {l : PipelineStep (Stamped ε)}
    (hmay : s.mayStep l = true) (hgone : s.WorkerGone) : ∃ n, l = .read n := by
  obtain ⟨halive, -⟩ := hgone
  cases l with
  | read n => exact ⟨n, rfl⟩
  | _ => simp [mayStep, halive] at hmay

theorem newSession_step {limits : Limits} {process : α → Stamped ε → Stamped ε × α}
    {s : InitRun α ε} {l : PipelineStep (Stamped ε)} {run : PipelineRun α (Stamped ε)}
    (hmay : s.mayStep l = true) (hnew : NewSession limits s.run)
    (h : s.run.step limits process l = some run) : NewSession limits run := by
  obtain ⟨-, hwritten, hpending⟩ := contents_step hmay h
  refine ⟨(PipelineRun.simulated_step hnew.consistent h).1, ?_, ?_⟩
  · intro e he
    rcases hwritten e he with he | he
    · exact hnew.written e he
    · exact hnew.pending e he
  · intro e he
    exact hnew.pending e (hpending e he)

section Steps
variable {limits : Limits} {s : InitRun α ε} (hs : Isolated limits s)
include hs

theorem isolated_statement {newQueueSize numSubHals : Nat} {t : InitRun α ε}
    (h : s.statement newQueueSize numSubHals = some t) : Isolated limits t := by
  obtain ⟨hpost, hphase⟩ := hs
  unfold statement at h
  split at h
  all_goals rename_i hnext; rw [hnext] at hphase
  · -- `storeThreadsStopped`
    cases h
    exact ⟨hpost, hphase⟩
  · -- `drainQueues`
    cases h
    exact ⟨hpost, hphase⟩
  · -- `joinThreads`
    obtain ⟨-, ht⟩ := Option.ite_none_right_eq_some.mp h
    cases ht
    exact ⟨hpost, hphase, rfl, rfl⟩
  · -- `resetSharedWakelock`
    cases h
    exact ⟨hpost, hphase⟩
  · -- `disableAllSensors`
    cases h
    exact ⟨hpost, hphase⟩
  · -- `clearPendingQueue`
    cases h
    exact ⟨hpost, hphase.1, hphase.2, rfl⟩
  · -- `clearPendingSize`
    cases h
    exact ⟨hpost, hphase.1, hphase.2.1, hphase.2.2, rfl⟩
  · -- `clearDynamicSensors`
    cases h
    exact ⟨hpost, hphase⟩
  · -- `setDynamicCallback`
    cases h
    exact ⟨hpost, hphase⟩
  · -- `moveEventQueue`
    cases h
    obtain ⟨hstale, hgone, hpend, hsize⟩ := hphase
    exact ⟨hpost, hstale, hgone, newSession_empty hpost hgone.2 hpend hsize⟩
  · -- `moveWakeLockQueue`
    cases h
    exact ⟨hpost, hphase⟩
  · -- `createEventFlags`
    cases h
    exact ⟨hpost, hphase⟩
  · -- `storeThreadsRun`
    cases h
    exact ⟨hpost, hphase⟩
  · -- `startPendingWritesThread`
    cases h
    exact ⟨hpost, hphase.1, hphase.2.2⟩
  · -- `startWakelockThread`
    cases h
    exact ⟨hpost, hphase.2⟩
  · -- `initializeSubHals`
    split at h
    · cases h
      refine ⟨hpost, ?_⟩
      dsimp only
      rw [hnext]
      exact hphase
    · cases h
      exact ⟨hpost, hphase⟩
  · -- `storeOperationMode`
    cases h
    exact ⟨hpost, hphase⟩
  · -- `returned`
    cases h

/-- Calls come and go; before the sub-HALs are re-initialised all of them are
stale. -/
theorem isolated_calls {calls : List (PostCall ε)}
    (hcalls : s.AllStale → ∀ call ∈ calls, call.stale = true) :
    Isolated limits { s with calls := calls } := by
  obtain ⟨hpost, hphase⟩ := hs
  have hstale : s.AllStale → AllStale { s with calls := calls } :=
    fun h => ⟨h.1, hcalls h⟩
  refine ⟨hpost, ?_⟩
  dsimp only
  cases hnext : s.next.phase with
  | stopping =>
    rw [hnext] at hphase
    exact hstale hphase
  | renewed =>
    rw [hnext] at hphase
    exact hphase
  | _ =>
    rw [hnext] at hphase
    exact ⟨hstale hphase.1, hphase.2⟩

theorem isolated_body (process : α → ε → ε × α) {k : Nat} {call : PostCall ε} {succeeds : Bool}
    (hcall : s.calls[k]? = some call) (hfree : s.run.MutexFree)
    (hlen : call.events.length ≤ limits.maxBatch)
    (hok : StaleLeavesNothing limits s (.body k succeeds)) :
    Isolated limits { s with
      calls := s.calls.eraseIdx k
      run := s.run.postBody limits (processStamped process)
        (call.events.map fun event => ⟨event, call.stale⟩) call.numWakeupEvents succeeds } := by
  have hleaves := hok call hcall
  have hphase := hs.phase
  have hothers : ∀ run : PipelineRun α (Stamped ε), s.AllStale →
      AllStale { s with calls := s.calls.eraseIdx k, run := run } :=
    fun _ hall => ⟨hall.1, fun c hc => hall.2 c (List.mem_of_mem_eraseIdx hc)⟩
  have hstale : s.AllStale → call.stale = true :=
    fun h => h.2 call (List.mem_of_getElem? hcall)
  refine ⟨rfl, ?_⟩
  dsimp only
  cases hnext : s.next.phase with
  | stopping =>
    rw [hnext] at hphase
    exact hothers _ hphase
  | stopped =>
    rw [hnext] at hphase
    obtain ⟨hall, hgone⟩ := hphase
    exact ⟨hothers _ hall, hgone⟩
  | queueCleared =>
    rw [hnext] at hphase hleaves
    obtain ⟨hall, hgone, hpend⟩ := hphase
    obtain ⟨queue, hqueue⟩ := postBody_of_refused process (hleaves (hstale hall))
    refine ⟨hothers _ hall, hgone, ?_⟩
    rw [hqueue]
    exact hpend
  | sizeCleared =>
    rw [hnext] at hphase hleaves
    obtain ⟨hall, hgone, hpend, hsize⟩ := hphase
    obtain ⟨queue, hqueue⟩ := postBody_of_refused process (hleaves (hstale hall))
    refine ⟨hothers _ hall, hgone, ?_, ?_⟩
    · rw [hqueue]
      exact hpend
    · rw [hqueue]
      exact hsize
  | moved =>
    rw [hnext] at hphase hleaves
    obtain ⟨hall, hgone, hnew⟩ := hphase
    exact ⟨hothers _ hall, hgone, newSession_postBody process hfree hlen hnew hleaves⟩
  | started =>
    rw [hnext] at hphase hleaves
    obtain ⟨hall, hnew⟩ := hphase
    exact ⟨hothers _ hall, newSession_postBody process hfree hlen hnew hleaves⟩
  | renewed =>
    rw [hnext] at hphase hleaves
    exact newSession_postBody process hfree hlen hphase hleaves

theorem isolated_pipeline (process : α → ε → ε × α) {l : PipelineStep (Stamped ε)}
    {run : PipelineRun α (Stamped ε)} (hmay : s.mayStep l = true)
    (h : s.run.step limits (processStamped process) l = some run) :
    Isolated limits { s with run := run } := by
  have hphase := hs.phase
  obtain ⟨hpost, -⟩ := contents_step hmay h
  have hread : s.WorkerGone → ∃ n, l = .read n := eq_read_of_gone hmay
  refine ⟨hpost.trans hs.post, ?_⟩
  dsimp only
  cases hnext : s.next.phase with
  | stopping =>
    rw [hnext] at hphase
    exact hphase
  | stopped =>
    rw [hnext] at hphase
    obtain ⟨hall, hgone⟩ := hphase
    obtain ⟨n, rfl⟩ := hread hgone
    cases h
    exact ⟨hall, hgone⟩
  | queueCleared =>
    rw [hnext] at hphase
    obtain ⟨hall, hgone, hpend⟩ := hphase
    obtain ⟨n, rfl⟩ := hread hgone
    cases h
    exact ⟨hall, hgone, hpend⟩
  | sizeCleared =>
    rw [hnext] at hphase
    obtain ⟨hall, hgone, hpend⟩ := hphase
    obtain ⟨n, rfl⟩ := hread hgone
    cases h
    exact ⟨hall, hgone, hpend⟩
  | moved =>
    rw [hnext] at hphase
    obtain ⟨hall, hgone, hnew⟩ := hphase
    have hnew' := newSession_step hmay hnew h
    obtain ⟨n, rfl⟩ := hread hgone
    cases h
    exact ⟨hall, hgone, hnew'⟩
  | started =>
    rw [hnext] at hphase
    exact ⟨hphase.1, newSession_step hmay hphase.2 h⟩
  | renewed =>
    rw [hnext] at hphase
    exact newSession_step hmay hphase h

end Steps

theorem isolated_init {limits : Limits} {process : α → ε → ε × α} {newQueueSize numSubHals : Nat}
    {s : InitRun α ε} (h : (machine limits process newQueueSize numSubHals).init s) :
    Isolated limits s := by
  obtain ⟨hnext, hzero, hpost, hcalls, -⟩ := h
  refine ⟨hpost, ?_⟩
  rw [hnext]
  exact ⟨hzero, hcalls⟩

theorem isolated_step {limits : Limits} {process : α → ε → ε × α} {newQueueSize numSubHals : Nat}
    {s t : InitRun α ε} {l : InitStep ε} (hs : Isolated limits s)
    (hok : StaleLeavesNothing limits s l)
    (h : step limits process newQueueSize numSubHals s l = some t) : Isolated limits t := by
  cases l with
  | statement => exact isolated_statement hs h
  | begin subHal events numWakeupEvents =>
    cases h
    refine isolated_calls hs fun hall call hcall => ?_
    rcases List.mem_append.mp hcall with hcall | hcall
    · exact hall.2 call hcall
    · rw [List.mem_singleton.mp hcall]
      -- nothing has been re-initialised, so the new call is stale as well
      exact decide_eq_true (hall.1 ▸ Nat.zero_le subHal)
  | check k =>
    dsimp only [step] at h
    split at h
    · rename_i call hcall
      cases h
      refine isolated_calls hs fun hall c hc => ?_
      split at hc
      · rcases List.mem_or_eq_of_mem_set hc with hc | rfl
        · exact hall.2 c hc
        · exact hall.2 call (List.mem_of_getElem? hcall)
      · exact hall.2 c (List.mem_of_mem_eraseIdx hc)
    · cases h
  | body k succeeds =>
    dsimp only [step] at h
    split at h
    · rename_i call hcall
      obtain ⟨⟨-, hfree, hlen⟩, ht⟩ := Option.ite_none_right_eq_some.mp h
      cases ht
      exact isolated_body hs process hcall hfree hlen hok
    · cases h
  | pipeline l =>
    obtain ⟨hmay, ht⟩ := Option.ite_none_right_eq_some.mp h
    obtain ⟨run, hrun, rfl⟩ := Option.map_eq_some_iff.mp ht
    exact isolated_pipeline hs process hmay hrun

/-- The new event queue has been taken over. -/
def Moved (s : InitRun α ε) : Prop :=
  s.next.phase = .moved ∨ s.next.phase = .started ∨ s.next.phase = .renewed

/-- **Sessions are isolated.**  In every run in which each stale body leaves
nothing behind, no stale event is written to the new event queue or is pending
once that queue has been taken over, and the size on record is that of the
pending queue. -/
theorem new_session_isolated (limits : Limits) (process : α → ε → ε × α)
    (newQueueSize numSubHals : Nat) {s : InitRun α ε}
    (h : (machine limits process newQueueSize numSubHals).ReachableBy
      (StaleLeavesNothing limits) s) (hmoved : s.Moved) :
    (∀ e ∈ s.run.written, e.stale = false) ∧
      (∀ e ∈ s.run.pipeline.pendingEvents, e.stale = false) ∧
      s.run.pipeline.mSizePendingWriteEventsQueue = s.run.pipeline.pendingEvents.length := by
  have hs : Isolated limits s :=
    h.invariant (fun _ => isolated_init) fun _ _ _ hs hok ht => isolated_step hs hok ht
  have hphase := hs.phase
  have hnew : NewSession limits s.run := by
    rcases hmoved with hnext | hnext | hnext <;> rw [hnext] at hphase
    · exact hphase.2.2
    · exact hphase.2
    · exact hphase
  exact ⟨hnew.written, hnew.pending, hnew.consistent.sized.size⟩

/-- A call of sub-HAL 0 is past its check when `initialize` begins. -/
def oneCallUnderWay : InitRun Unit Nat where
  next := .storeThreadsStopped
  mThreadsRun := true
  workerAlive := true
  reinitialised := 0
  calls := [⟨0, [7], 0, true, true⟩]
  run := ⟨⟨⟨2, [], by decide⟩, [], 0, 0⟩, (), none, .waiting, [], [], [], [], []⟩

theorem oneCallUnderWay_init {limits : Limits} {newQueueSize numSubHals : Nat} :
    (machine limits (fun s event => (event, s)) newQueueSize numSubHals).init oneCallUnderWay := by
  refine ⟨rfl, rfl, rfl, ?_, ?_⟩
  · intro call hcall
    rw [List.mem_singleton.mp hcall]
  · rintro e ⟨⟩

/-- The body of the call runs before the pending queue is cleared; after its
re-initialisation the sub-HAL posts again. -/
theorem new_session_isolated_example : ∃ s : InitRun Unit Nat,
    (machine ⟨4, 4, by decide⟩ (fun s event => (event, s)) 2 1).ReachableBy
        (StaleLeavesNothing ⟨4, 4, by decide⟩) s ∧
      s.run.written = [⟨8, false⟩] ∧ ∀ e ∈ s.run.written, e.stale = false := by
  have hrun : (machine ⟨4, 4, by decide⟩ (fun s event => (event, s)) 2 1).exec oneCallUnderWay
      (.statement :: .body 0 true :: List.replicate 17 .statement ++
        [.begin 0 [8] 0, .check 0, .body 0 true]) =
      some ⟨.returned, true, true, 1, [], ⟨⟨⟨2, [⟨8, false⟩], by decide⟩, [], 0, 0⟩, (), none,
        .waiting, [⟨8, false⟩], [⟨8, false⟩], [], [], []⟩⟩ :=
    rfl
  have hreach : StepMachine.ReachableBy _ (StaleLeavesNothing ⟨4, 4, by decide⟩) _ :=
    StepMachine.ReachableBy.exec (.init oneCallUnderWay_init) hrun (by decide)
  exact ⟨_, hreach, rfl, (new_session_isolated _ _ _ _ hreach (Or.inr (Or.inr rfl))).1⟩

/-- The body of the call runs after the new event queue has been taken over: its
event is the first one of the new session. -/
theorem stale_event_in_new_queue :
    ¬ ∀ s : InitRun Unit Nat,
      (machine ⟨4, 4, by decide⟩ (fun s event => (event, s)) 2 1).Reachable s → s.Moved →
      (∀ e ∈ s.run.written, e.stale = false) ∧
        (∀ e ∈ s.run.pipeline.pendingEvents, e.stale = false) ∧
        s.run.pipeline.mSizePendingWriteEventsQueue = s.run.pipeline.pendingEvents.length := by
  intro h
  have hrun : (machine ⟨4, 4, by decide⟩ (fun s event => (event, s)) 2 1).exec oneCallUnderWay
      (List.replicate 10 .statement ++ .body 0 true :: List.replicate 8 .statement) =
      some ⟨.returned, true, true, 1, [], ⟨⟨⟨2, [⟨7, true⟩], by decide⟩, [], 0, 0⟩, (), none,
        .waiting, [⟨7, true⟩], [⟨7, true⟩], [], [], []⟩⟩ :=
    rfl
  have hreach := StepMachine.Reachable.exec (.init oneCallUnderWay_init) hrun
  have := (h _ hreach (Or.inr (Or.inr rfl))).1 ⟨7, true⟩ (List.mem_singleton_self _)
  cases this

end InitRun
end SensorsHal
