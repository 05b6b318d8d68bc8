import Sm8150Common.SessionReset

/-!
# The size of the pending queue, over many sessions

`mSizePendingWriteEventsQueue` is kept beside the pending queue: a post adds what
it stores, the worker subtracts what it is done with, and `initializeCommon` puts
it back to zero (`HalProxy.cpp`, lines 228–230, 608 and 698).  Chunks are taken
off by the size of the event queue and subtracted by `numToWrite`.

A `Sessions` run is that of `PipelineRuns`, begun anew any number of times by an
`initialize` that no post overlaps.  `accounting_kept` says that the size is right
in all of its states; with posts that do overlap, see `SessionReset`.
-/
namespace SensorsHal

namespace PipelineRun
variable {α ε : Type}

/-- What an `initialize` makes of a session: the event queue is a new one for
`newQueueSize` events, the pending queue is empty, and the record starts again. -/
def renew (s : PipelineRun α ε) (newQueueSize : Nat) : PipelineRun α ε :=
  { s with
    pipeline := { s.pipeline with
      mEventQueue := ⟨newQueueSize, [], Nat.zero_le _⟩
      mPendingWriteEventsQueue := []
      mSizePendingWriteEventsQueue := 0 }
    worker := .waiting
    posted := []
    written := []
    received := []
    refusals := []
    dropped := [] }

/-- The worker is not inside an iteration, so that it can be joined. -/
def BetweenIterations (s : PipelineRun α ε) : Prop := s.worker = .waiting ∨ s.worker = .holding

instance (s : PipelineRun α ε) : Decidable s.BetweenIterations :=
  inferInstanceAs (Decidable (_ ∨ _))

/-- **From any state**, `renew` makes the accounts right. -/
theorem sized_renew (limits : Limits) (s : PipelineRun α ε) (newQueueSize : Nat) :
    (s.renew newQueueSize).pipeline.mPendingWriteEventsQueue = [] ∧
      (s.renew newQueueSize).pipeline.Sized limits := by
  refine ⟨rfl, rfl, Nat.zero_le _, ?_, Nat.zero_le _⟩
  rintro entry ⟨⟩

theorem Consistent.renew {limits : Limits} {s : PipelineRun α ε} (hpost : s.post = none)
    (newQueueSize : Nat) : Consistent limits (s.renew newQueueSize) := by
  refine ⟨(sized_renew limits s newQueueSize).2, ?_, ?_, fun _ => hpost, trivial, rfl, ?_⟩
  · intro post h
    rw [PipelineRun.renew, hpost] at h
    cases h
  · intro post h
    rw [PipelineRun.renew, hpost] at h
    cases h
  · rintro r ⟨⟩

end PipelineRun

/-! ## The statements of `initializeCommon` do this -/

namespace InitRun
variable {α ε : Type} (limits : Limits) (process : α → ε → ε × α) (newQueueSize numSubHals : Nat)

/-- The sub-HALs are initialized one after the other. -/
theorem exec_initializeSubHals (s : InitRun α ε) (left : Nat)
    (hnext : s.next = .initializeSubHals) (hleft : s.reinitialised + left = numSubHals) :
    (machine limits process newQueueSize numSubHals).exec s
        (List.replicate (left + 2) .statement) =
      some { s with reinitialised := numSubHals, next := .returned } := by
  obtain ⟨next, mThreadsRun, workerAlive, reinitialised, calls, run⟩ := s
  dsimp only at hnext hleft
  subst hnext
  induction left generalizing reinitialised with
  | zero =>
    obtain rfl : reinitialised = numSubHals := hleft
    have hdone : (machine limits process newQueueSize reinitialised).step
        ⟨.initializeSubHals, mThreadsRun, workerAlive, reinitialised, calls, run⟩ .statement =
        some ⟨.storeOperationMode, mThreadsRun, workerAlive, reinitialised, calls, run⟩ :=
      if_neg (Nat.lt_irrefl reinitialised)
    rw [List.replicate_succ, StepMachine.exec, hdone]
    rfl
  | succ left ih =>
    have hstep : (machine limits process newQueueSize numSubHals).step
        ⟨.initializeSubHals, mThreadsRun, workerAlive, reinitialised, calls, run⟩ .statement =
        some ⟨.initializeSubHals, mThreadsRun, workerAlive, reinitialised + 1, calls, run⟩ :=
      if_pos (by dsimp only; omega)
    rw [List.replicate_succ, StepMachine.exec, hstep]
    exact ih (reinitialised + 1) (by omega)

/-- An `initialize` during which nothing else happens takes the pipeline to its
renewal. -/
theorem exec_statements (s : InitRun α ε) (hnext : s.next = .storeThreadsStopped)
    (hzero : s.reinitialised = 0) (hworker : s.run.BetweenIterations) :
    (machine limits process newQueueSize numSubHals).exec s
        (List.replicate (15 + (numSubHals + 2)) .statement) =
      some { s with
        next := .returned
        mThreadsRun := true
        workerAlive := true
        reinitialised := numSubHals
        run := s.run.renew newQueueSize } := by
  have hprefix : (machine limits process newQueueSize numSubHals).exec s
      (List.replicate 15 .statement) = some { s with
        next := .initializeSubHals
        mThreadsRun := true
        workerAlive := true
        run := s.run.renew newQueueSize } := by
    obtain ⟨next, mThreadsRun, workerAlive, reinitialised, calls, run⟩ := s
    obtain ⟨pipeline, correction, post, worker, posted, written, received, refusals, dropped⟩ := run
    dsimp only at hnext
    subst hnext
    -- the worker is joined wherever it waits
    rcases hworker with rfl | rfl
    · rfl
    · rfl
  rw [← List.replicate_append_replicate, StepMachine.exec_append, hprefix, Option.bind_some,
    exec_initializeSubHals _ _ _ _ _ numSubHals rfl (by simp [hzero])]

end InitRun

/-! ## Sessions -/

/-- A step within a session, or an `initialize` with the size of its event queue. -/
inductive SessionsStep (ε : Type)
  | pipeline (l : PipelineStep ε)
  | initializeCommon (newQueueSize : Nat)

namespace Sessions
variable {α ε : Type}

/-- No post overlaps an `initialize`; the worker has been joined. -/
def step (limits : Limits) (process : α → ε → ε × α) (s : PipelineRun α ε) :
    SessionsStep ε → Option (PipelineRun α ε)
  | .pipeline l => s.step limits process l
  | .initializeCommon newQueueSize =>
    if s.post.isNone = true ∧ s.BetweenIterations then some (s.renew newQueueSize) else none

def machine (limits : Limits) (process : α → ε → ε × α) :
    StepMachine (PipelineRun α ε) (SessionsStep ε) where
  init := (PipelineRun.machine limits process).init
  step := step limits process

theorem consistent_init {limits : Limits} {process : α → ε → ε × α} {s : PipelineRun α ε}
    (h : (machine limits process).init s) : PipelineRun.Consistent limits s :=
  PipelineRun.consistent_init (show (PipelineRun.machine limits process).init s from h)

theorem consistent_step {limits : Limits} {process : α → ε → ε × α} {s t : PipelineRun α ε}
    {l : SessionsStep ε} (hs : PipelineRun.Consistent limits s)
    (h : step limits process s l = some t) : PipelineRun.Consistent limits t := by
  cases l with
  | pipeline l => exact (PipelineRun.simulated_step hs h).1
  | initializeCommon newQueueSize =>
    obtain ⟨⟨hpost, -⟩, rfl⟩ := Option.ite_none_right_eq_some.mp h |>.imp_right Option.some.inj
    exact PipelineRun.Consistent.renew (Option.isNone_iff_eq_none.mp hpost) newQueueSize

/-- Where no post is under way and the worker can be joined, an `initialize` can be made; its
statements come to this (`InitRun.exec_statements`). -/
theorem step_initializeCommon (limits : Limits) (process : α → ε → ε × α) {s : PipelineRun α ε}
    (hpost : s.post = none) (hworker : s.BetweenIterations) (newQueueSize : Nat) :
    step limits process s (.initializeCommon newQueueSize) = some (s.renew newQueueSize) :=
  if_pos ⟨Option.isNone_iff_eq_none.mpr hpost, hworker⟩

/-- **Pending-queue accounting.**  In every state of every run the size on record
is that of the pending queue and within the bound, no pending batch is empty and
the most ever seen covers the size; an iteration that is about to subtract its
chunk subtracts no more than there is, and so without wrapping; and an
`initialize`, which can be made whenever no post is under way and the worker is
between iterations, leaves an empty queue with its accounts right. -/
theorem accounting_kept (limits : Limits) (process : α → ε → ε × α) {s : PipelineRun α ε}
    (h : (machine limits process).Reachable s) :
    s.pipeline.Sized limits ∧
      (∀ it, s.worker = .returned it →
        it.numToWrite ≤ s.pipeline.mSizePendingWriteEventsQueue ∧
        (s.pipeline.retireChunk it).mSizePendingWriteEventsQueue =
          s.pipeline.mSizePendingWriteEventsQueue - it.numToWrite) ∧
      ∀ newQueueSize,
        (s.post = none → s.BetweenIterations →
          ∃ t, step limits process s (.initializeCommon newQueueSize) = some t) ∧
        ∀ t, step limits process s (.initializeCommon newQueueSize) = some t →
          t.pipeline.mPendingWriteEventsQueue = [] ∧ t.pipeline.Sized limits := by
  have hs : PipelineRun.Consistent limits s :=
    h.invariant (fun _ => consistent_init) fun _ _ _ hs ht => consistent_step hs ht
  refine ⟨hs.sized, ?_, ?_⟩
  · intro it hworker
    have hstage := hs.worker_stage
    rw [hworker] at hstage
    obtain ⟨front, rest, hpend, rfl⟩ := hstage
    exact ⟨hs.sized.numToWrite_le hpend, hs.sized.size_retireChunk hpend⟩
  · refine fun newQueueSize => ⟨fun hpost hworker => ?_, fun t ht => ?_⟩
    · exact ⟨_, step_initializeCommon limits process hpost hworker newQueueSize⟩
    · obtain ⟨-, rfl⟩ := Option.ite_none_right_eq_some.mp ht |>.imp_right Option.some.inj
      exact PipelineRun.sized_renew limits s newQueueSize

/-- Both queues are empty. -/
def emptyRun : PipelineRun Unit Nat :=
  ⟨⟨⟨9, [], by decide⟩, [], 0, 0⟩, (), none, .waiting, [], [], [], [], []⟩

theorem emptyRun_init {limits : Limits} {process : Unit → Nat → Nat × Unit} :
    (machine limits process).init emptyRun :=
  ⟨rfl, rfl, rfl, rfl, rfl, rfl, rfl, rfl, rfl, rfl⟩

/-- Three events for an event queue of one; the chunk of the first pending one is
written, and not yet subtracted. -/
def threeEvents : List (SessionsStep Nat) :=
  [.initializeCommon 1, .pipeline (.post [1, 2, 3] 0), .pipeline .probe, .pipeline (.write true),
    .pipeline .store, .pipeline .wake, .pipeline .test, .pipeline (.read 1),
    .pipeline (.writeBlocking true)]

/-- The chunk is subtracted without wrapping; after that, with an event still pending, an
`initialize` empties the queue. -/
theorem accounting_kept_three :
    (∃ s : PipelineRun Unit Nat, (machine ⟨4, 4, by decide⟩ fun s e => (e, s)).Reachable s ∧
      s.worker = .returned ⟨0, 1, 1⟩ ∧ 1 ≤ s.pipeline.mSizePendingWriteEventsQueue) ∧
    ∃ s t : PipelineRun Unit Nat, s.pipeline.mPendingWriteEventsQueue = [([3], 0)] ∧
      step ⟨4, 4, by decide⟩ (fun s e => (e, s)) s (.initializeCommon 7) = some t ∧
      t.pipeline.mPendingWriteEventsQueue = [] ∧ t.pipeline.Sized ⟨4, 4, by decide⟩ := by
  have hrun : (machine ⟨4, 4, by decide⟩ fun s e => (e, s)).exec emptyRun threeEvents =
      some ⟨⟨⟨1, [2], by decide⟩, [([2, 3], 0)], 2, 2⟩, (), none, .returned ⟨0, 1, 1⟩, [1, 2, 3],
        [1, 2], [1], [], []⟩ :=
    rfl
  have hreach := StepMachine.Reachable.exec (.init emptyRun_init) hrun
  have hretire := hreach.next (l := .pipeline .retire) rfl
  obtain ⟨hrenew, hempty⟩ := (accounting_kept _ _ hretire).2.2 7
  obtain ⟨t, ht⟩ := hrenew rfl (Or.inr rfl)
  exact ⟨⟨_, hreach, rfl, ((accounting_kept _ _ hreach).2.1 _ rfl).1⟩, _, t, rfl, ht, hempty t ht⟩

end Sessions
end SensorsHal
