import Mathlib.Algebra.GroupWithZero.Nat
import Sm8150Common.PipelineOrder
import Sm8150Common.SharedWakelock
import Sm8150Common.WakeupCharges

/-!
# Who keeps the device awake

A `ChargedRun` is a session of the event pipeline together with the shared wakelock:
the posts, the worker and the framework of `PipelineRuns`, the `ScopedWakelock`
objects of the sub-HALs, and the wake lock queue through which the framework
acknowledges the wake-up events it has handled (`HalProxy.cpp`, lines 631–652 and
668–735).

`count_eq_references` says what the reference count stands for in every state of every
such session: each reference belongs to a live `ScopedWakelock`, to a wake-up event on
its way to the framework, to one that was read and is not acknowledged, or to an
acknowledgement still to be read; the one exception are the wake-up events of refused
tails, whose references nobody gives back.  The kernel lock is held exactly while there
is one of these.
-/
namespace SensorsHal

namespace PipelineRun
variable {α ε : Type} {limits : Limits} {process : α → ε → ε × α} {s t : PipelineRun α ε}

/-- What is posted and on its way to the framework. -/
def inFlight (s : PipelineRun α ε) : List ε := s.pipeline.mEventQueue.unread ++ s.unwritten ++ s.held

/-- The tails that were refused. -/
def refusedTails (s : PipelineRun α ε) : List ε := s.refusals.flatMap Refusal.tail

/-- Each posted event is counted once: as read, on its way, refused or dropped. -/
theorem posted_count (h : (machine limits process).Reachable s) (p : ε → Bool) :
    s.posted.countP p = s.received.countP p + s.inFlight.countP p + s.refusedTails.countP p +
      s.dropped.flatten.countP p := by
  obtain ⟨hs, hchannel⟩ := (simulation limits process).reachable h
  obtain ⟨marks, hposted, hkept, hrefused, hlost⟩ := LossyChannel.Reachable.accounted hchannel
  have hcount := LossyChannel.countP_strands p marks
  rw [hposted, hkept, hrefused, hlost] at hcount
  have hwritten : s.written.countP p =
      s.received.countP p + s.pipeline.mEventQueue.unread.countP p := by
    rw [← hs.received, List.countP_append]
  simp only [channel, List.countP_append] at hcount
  simp only [inFlight, refusedTails, List.countP_append]
  omega

theorem reachable_step (h : (machine limits process).Reachable s) {l : PipelineStep ε}
    (hstep : step limits process s l = some t) : (machine limits process).Reachable t :=
  h.next (l := l) hstep

/-- What a step leaves alone. -/
structure Frame (s : PipelineRun α ε) (l : PipelineStep ε) (t : PipelineRun α ε) : Prop where
  received : (∀ n, l ≠ .read n) → t.received = s.received
  refusals : l ≠ .store → t.refusals = s.refusals
  dropped : (∀ succeeds, l ≠ .writeBlocking succeeds) → t.dropped = s.dropped

theorem frame_step {l : PipelineStep ε} (h : step limits process s l = some t) : Frame s l t := by
  cases l with
  | post eventsList numWakeupEvents =>
    obtain ⟨-, rfl⟩ := Option.ite_none_right_eq_some.mp h |>.imp_right Option.some.inj
    exact ⟨fun _ => rfl, fun _ => rfl, fun _ => rfl⟩
  | probe | write =>
    dsimp only [step] at h
    split at h
    · cases h
      exact ⟨fun _ => rfl, fun _ => rfl, fun _ => rfl⟩
    · cases h
  | store =>
    dsimp only [step] at h
    split at h
    · cases h
      exact ⟨fun _ => rfl, fun hne => absurd rfl hne, fun _ => rfl⟩
    · cases h
  | wake | test =>
    obtain ⟨-, ht⟩ := Option.ite_none_right_eq_some.mp h
    first
    | split at ht <;> cases ht <;> exact ⟨fun _ => rfl, fun _ => rfl, fun _ => rfl⟩
    | cases ht; exact ⟨fun _ => rfl, fun _ => rfl, fun _ => rfl⟩
  | writeBlocking succeeds =>
    dsimp only [step] at h
    split at h
    · cases h
      exact ⟨fun _ => rfl, fun _ => rfl, fun hne => absurd rfl (hne succeeds)⟩
    · cases h
  | retire =>
    dsimp only [step] at h
    split at h
    · obtain ⟨-, rfl⟩ := Option.ite_none_right_eq_some.mp h |>.imp_right Option.some.inj
      exact ⟨fun _ => rfl, fun _ => rfl, fun _ => rfl⟩
    · cases h
  | read n =>
    cases h
    exact ⟨fun hne => absurd rfl (hne n), fun _ => rfl, fun _ => rfl⟩

/-- The framework only reads more. -/
theorem received_step {l : PipelineStep ε} (h : step limits process s l = some t) :
    ∃ items, t.received = s.received ++ items := by
  cases l with
  | read n =>
    cases h
    exact ⟨_, rfl⟩
  | _ => exact ⟨[], ((frame_step h).received nofun).trans (List.append_nil _).symm⟩

/-- Refusals stay on record. -/
theorem refusals_step {l : PipelineStep ε} (h : step limits process s l = some t) :
    ∃ more, t.refusals = s.refusals ++ more := by
  cases l with
  | store =>
    dsimp only [step] at h
    split at h
    · cases h
      unfold store
      dsimp only
      split
      · exact ⟨_, rfl⟩
      · exact ⟨[], (List.append_nil _).symm⟩
    · cases h
  | _ => exact ⟨[], ((frame_step h).refusals nofun).trans (List.append_nil _).symm⟩

/-- The chunk the worker is writing, if it is. -/
def chunk (s : PipelineRun α ε) : List ε :=
  match s.worker, s.pipeline.mPendingWriteEventsQueue with
  | .writing it, front :: _ => front.1.take it.numToWrite
  | _, _ => []

/-- The step is a `writeBlocking` that fails. -/
def FailsChunk (s : PipelineRun α ε) : PipelineStep ε → Prop
  | .writeBlocking succeeds => (s.pipeline.mEventQueue.write s.chunk succeeds).2 = false
  | _ => False

instance FailsChunk.decidable (s : PipelineRun α ε) (l : PipelineStep ε) :
    Decidable (s.FailsChunk l) :=
  match l with
  | .writeBlocking _ => inferInstanceAs (Decidable (_ = false))
  | .post .. | .probe | .write _ | .store | .wake | .test | .retire | .read _ => isFalse id

/-- Only a `writeBlocking` that fails drops events: its chunk. -/
theorem dropped_step {l : PipelineStep ε} (h : step limits process s l = some t) :
    t.dropped = if s.FailsChunk l then s.dropped ++ [s.chunk] else s.dropped := by
  cases l with
  | writeBlocking succeeds =>
    dsimp only [step] at h
    split at h
    · rename_i it front rest hworker hpend
      have hchunk : s.chunk = front.1.take it.numToWrite := by
        rw [chunk, hworker, hpend]
      have hfails : s.FailsChunk (.writeBlocking succeeds) ↔
          (s.pipeline.mEventQueue.write (front.1.take it.numToWrite) succeeds).2 = false := by
        rw [← hchunk]
        exact Iff.rfl
      cases h
      unfold writeChunk
      dsimp only
      rw [hchunk]
      by_cases hok : (s.pipeline.mEventQueue.write (front.1.take it.numToWrite) succeeds).2 = true
      · rw [if_pos hok, if_neg fun hf => absurd (hok.symm.trans (hfails.mp hf)) (by decide)]
      · rw [if_neg hok, if_pos (hfails.mpr (Bool.eq_false_iff.mpr hok))]
    · cases h
  | _ => exact (frame_step h).dropped nofun

/-- The chunk is part of what is unwritten. -/
theorem chunk_sublist (s : PipelineRun α ε) : s.chunk.Sublist s.unwritten := by
  unfold chunk
  split
  · rename_i it front rest hworker hpend
    have hunwritten : s.unwritten = s.pipeline.pendingEvents := by
      rw [unwritten, hworker]
    rw [hunwritten, EventPipeline.pendingEvents_cons hpend]
    exact (List.take_sublist _ _).trans (List.sublist_append_left _ _)
  · exact List.nil_sublist _

end PipelineRun

namespace SharedWakelock
variable {w : SharedWakelock}

/-- From `w` to `w'` the count goes up by `up` and down by `down`, and the kernel lock
still says whether it is positive. -/
structure Adjusts (w w' : SharedWakelock) (up down : Nat) : Prop where
  run : w'.mThreadsRun = true
  reset : w'.mWakelockTimeoutResetTime = w.mWakelockTimeoutResetTime
  count : w'.mWakelockRefCount + down = w.mWakelockRefCount + up
  held : w'.kernelWakelock = true ↔ 0 < w'.mWakelockRefCount

section Adjusts
variable (hrun : w.mThreadsRun = true) (hheld : w.kernelWakelock = true ↔ 0 < w.mWakelockRefCount)
include hrun hheld

omit hrun in
/-- What the count says, the kernel lock says after the operation too. -/
theorem apply_held_iff (op : Op) (hop : NoIdleIncrement w op) :
    (w.apply op).kernelWakelock = true ↔ 0 < (w.apply op).mWakelockRefCount := by
  have hreleased : w.mWakelockRefCount = 0 → w.kernelWakelock = false := by
    intro hzero
    rw [← Bool.not_eq_true, hheld]
    omega
  refine ⟨fun hlock => Nat.pos_of_ne_zero fun hzero => ?_, apply_held hheld.mpr op⟩
  rw [apply_released hreleased hop hzero] at hlock
  cases hlock

theorem adjusts_refl : Adjusts w w 0 0 := ⟨hrun, rfl, rfl, hheld⟩

theorem adjusts_increment {delta : Nat} (hidle : 0 < delta ∨ 0 < w.mWakelockRefCount) (now : Int) :
    Adjusts w (w.incrementRefCountAndMaybeAcquireWakelock delta now) delta 0 := by
  have hiff := apply_held_iff hheld (.increment delta now) fun _ => hidle
  rw [apply] at hiff
  refine ⟨?_, ?_, ?_, hiff⟩ <;> rw [increment_running hrun]
  · exact hrun
  · rfl
  · rfl

/-- A give-back of references that are there, with no time or with one that is not from
before the last reset. -/
theorem adjusts_decrement {delta : Nat} (hle : delta ≤ w.mWakelockRefCount) {timeoutStart : Int}
    (hstart : timeoutStart = -1 ∨ w.mWakelockTimeoutResetTime ≤ timeoutStart) :
    Adjusts w (w.decrementRefCountAndMaybeReleaseWakelock delta timeoutStart) 0 delta := by
  have hiff := apply_held_iff hheld (.decrement delta timeoutStart) trivial
  obtain ⟨hkeep, hreset⟩ := w.decrement_keeps delta timeoutStart
  refine ⟨hkeep.trans hrun, hreset, ?_, hiff⟩
  rw [decrement_running hrun]
  by_cases hzero : w.mWakelockRefCount = 0
  · rw [decrementRefCount_of_zero hzero]
    omega
  · rw [decrementRefCount_timely delta (by omega) (Nat.pos_of_ne_zero hzero)]
    dsimp only
    omega

end Adjusts
end SharedWakelock

/-- The pipeline, the lock, and who may give references back. -/
structure ChargedRun (α : Type) where
  run : PipelineRun α Event
  wakelock : SharedWakelock
  /-- The last reading of the clock. -/
  clock : Int
  /-- The creation times of the locked `ScopedWakelock` objects that are alive. -/
  scopedWakelocks : List Int
  /-- How many wake-up events the framework has acknowledged. -/
  acknowledged : Nat
  mWakeLockQueue : List Nat

namespace ChargedRun
variable {α : Type}

/-- `isLocked` and `now` are the lock that comes with a post and the clock when it is
looked at. -/
inductive Step
  | createScopedWakelock (now : Int)
  | destroyScopedWakelock (createdAtTimeNs : Int)
  | pipeline (l : PipelineStep Event) (isLocked : Bool) (now : Int)
  | acknowledge (n : Nat)
  | readWakeLockQueue
  | timeout (now reset : Int)

section Model
variable (mSensors : SensorMap) (s : ChargedRun α)

/-- The delta of a failed chunk (`failedWriteDelta` of the iteration the worker is in). -/
def chunkDelta : Nat :=
  match s.run.worker, s.run.pipeline.mPendingWriteEventsQueue with
  | .writing it, front :: _ => (failedWriteDelta mSensors front.1 it).1
  | _, _ => 0

/-- What a step of the pipeline does to the lock: a locked post takes its references
(line 673), a failed chunk gives some back (lines 597–606).  A failed write changes
nothing else, so that it and the give-back are one step. -/
def wakelockOps (l : PipelineStep Event) (isLocked : Bool) (now : Int) : List SharedWakelock.Op :=
  match l with
  | .post _ numWakeupEvents => if isLocked then [.increment numWakeupEvents now] else []
  | l => if s.run.FailsChunk l then [.decrement (s.chunkDelta mSensors) (-1)] else []

variable (timeout : WakelockTimeout) (limits : Limits) (process : α → Event → Event × α)

/-- A post comes with a `ScopedWakelock` that stays alive until it returns.  The
framework acknowledges events it has read. -/
def step : Step → Option (ChargedRun α)
  | .createScopedWakelock now =>
    if s.clock ≤ now then
      some { s with
        wakelock := s.wakelock.incrementRefCountAndMaybeAcquireWakelock 1 now
        clock := now
        scopedWakelocks := now :: s.scopedWakelocks }
    else none
  | .destroyScopedWakelock createdAtTimeNs =>
    if createdAtTimeNs ∈ s.scopedWakelocks then
      some { s with
        wakelock := s.wakelock.decrementRefCountAndMaybeReleaseWakelock 1 createdAtTimeNs
        scopedWakelocks := s.scopedWakelocks.erase createdAtTimeNs }
    else none
  | .pipeline l isLocked now =>
    if s.clock ≤ now ∧ (isLocked = true → s.scopedWakelocks ≠ []) then
      (s.run.step limits process l).map fun run =>
        { s with
          run := run
          wakelock := s.wakelock.applyAll (s.wakelockOps mSensors l isLocked now)
          clock := now }
    else none
  | .acknowledge n =>
    if s.acknowledged + n ≤ wakeups mSensors s.run.received then
      some { s with
        acknowledged := s.acknowledged + n
        mWakeLockQueue := s.mWakeLockQueue ++ [n] }
    else none
  | .readWakeLockQueue =>
    match s.mWakeLockQueue with
    | [] => none
    | numWakeLocksProcessed :: rest =>
      some { s with
        wakelock := s.wakelock.decrementRefCountAndMaybeReleaseWakelock numWakeLocksProcessed (-1)
        mWakeLockQueue := rest }
  | .timeout now reset =>
    -- `handleWakelocks` has passed its wait, and the lock has timed out
    if s.clock ≤ now ∧ now ≤ reset ∧ 0 < s.wakelock.mWakelockRefCount ∧
        s.wakelock.sharedWakelockDidTimeout timeout now = none then
      some { s with
        wakelock := s.wakelock.resetSharedWakelock reset
        clock := reset }
    else none

/-- A session starts with nothing posted, nothing held and the threads running. -/
def machine : StepMachine (ChargedRun α) Step where
  init s := (PipelineRun.machine limits process).init s.run ∧ s.wakelock.mThreadsRun = true ∧
    s.wakelock.mWakelockRefCount = 0 ∧ s.wakelock.kernelWakelock = false ∧ 0 ≤ s.clock ∧
    s.wakelock.mWakelockTimeoutResetTime ≤ s.clock ∧ s.scopedWakelocks = [] ∧
    s.acknowledged = 0 ∧ s.mWakeLockQueue = []
  step s l := step mSensors s timeout limits process l

/-- The condition on a step.  A post is charged for the wake-up events it hands on,
and comes locked if it has any; a chunk that fails gives back what it is worth; the
lock does not time out. -/
def ChargesExactly : Step → Prop
  | .pipeline (.post eventsList numWakeupEvents) isLocked _ =>
    numWakeupEvents = wakeups mSensors (correctEvents process s.run.correction eventsList).1 ∧
      (isLocked = false → numWakeupEvents = 0)
  | .pipeline l _ _ => s.run.FailsChunk l → s.chunkDelta mSensors = wakeups mSensors s.run.chunk
  | .timeout _ _ => False
  | _ => True

instance ChargesExactly.decidable (l : Step) : Decidable (ChargesExactly mSensors s process l) :=
  match l with
  | .pipeline (.post ..) _ _ => inferInstanceAs (Decidable (_ ∧ (_ → _)))
  | .pipeline (.writeBlocking _) _ _ => inferInstanceAs (Decidable (_ → _))
  | .pipeline .probe _ _ | .pipeline (.write _) _ _ | .pipeline .store _ _
  | .pipeline .wake _ _ | .pipeline .test _ _ | .pipeline .retire _ _
  | .pipeline (.read _) _ _ => inferInstanceAs (Decidable (_ → _))
  | .timeout _ _ => isFalse id
  | .createScopedWakelock _ | .destroyScopedWakelock _ | .acknowledge _
  | .readWakeLockQueue => isTrue trivial

end Model

/-- What a reference stands for: a live `ScopedWakelock`, a wake-up event on its way, one
that was read and is not acknowledged, or an acknowledgement still to be read. -/
def references (mSensors : SensorMap) (s : ChargedRun α) : Nat :=
  s.scopedWakelocks.length + wakeups mSensors s.run.inFlight +
    (wakeups mSensors s.run.received - s.acknowledged) + s.mWakeLockQueue.sum

/-! ## The invariant -/

section Invariant
variable {timeout : WakelockTimeout} {limits : Limits} {process : α → Event → Event × α}
  {mSensors : SensorMap}

/-- The accounts, as the steps keep them: what the count has gained and lost. -/
structure Balanced (limits : Limits) (process : α → Event → Event × α) (mSensors : SensorMap)
    (s : ChargedRun α) : Prop where
  pipeline : (PipelineRun.machine limits process).Reachable s.run
  run : s.wakelock.mThreadsRun = true
  clock : 0 ≤ s.clock ∧ s.wakelock.mWakelockTimeoutResetTime ≤ s.clock
  created : ∀ t ∈ s.scopedWakelocks, s.wakelock.mWakelockTimeoutResetTime ≤ t
  charged : s.wakelock.mWakelockRefCount + s.acknowledged + wakeups mSensors s.run.dropped.flatten =
    s.scopedWakelocks.length + wakeups mSensors s.run.posted + s.mWakeLockQueue.sum
  acknowledged : s.acknowledged ≤ wakeups mSensors s.run.received
  queued : s.mWakeLockQueue.sum ≤ s.acknowledged
  held : s.wakelock.kernelWakelock = true ↔ 0 < s.wakelock.mWakelockRefCount

theorem balanced_init {s : ChargedRun α} (h : (machine mSensors timeout limits process).init s) :
    Balanced limits process mSensors s := by
  obtain ⟨hinit, hrun, hcount, hheld, hclock, hreset, hscoped, hack, hqueue⟩ := h
  have hdropped : s.run.dropped = [] := hinit.2.2.2.2.2.2.2.2.2
  have hposted : s.run.posted = [] := hinit.2.2.2.2.2.1
  refine ⟨.init hinit, hrun, ⟨hclock, hreset⟩, ?_, ?_, ?_, ?_, ?_⟩
  · simp [hscoped]
  · simp [hcount, hack, hdropped, hscoped, hposted, hqueue, wakeups]
  · omega
  · simp [hqueue]
  · simp [hheld, hcount]

/-- **The balance**: the count is the references, and those of the refused tails. -/
theorem Balanced.count_eq {s : ChargedRun α} (hs : Balanced limits process mSensors s) :
    s.wakelock.mWakelockRefCount = s.references mSensors + wakeups mSensors s.run.refusedTails := by
  have hcharged := hs.charged
  have hack := hs.acknowledged
  have hposted := PipelineRun.posted_count hs.pipeline (isWakeupEvent mSensors)
  unfold references
  unfold wakeups at *
  omega

/-- A step of the lock, and what else has to be in order. -/
theorem Balanced.of_adjusts {s t : ChargedRun α} (hs : Balanced limits process mSensors s)
    {up down : Nat} (hadj : SharedWakelock.Adjusts s.wakelock t.wakelock up down)
    (hpipeline : (PipelineRun.machine limits process).Reachable t.run) (hclock : s.clock ≤ t.clock)
    (hcreated : ∀ c ∈ t.scopedWakelocks, c ∈ s.scopedWakelocks ∨ c = t.clock)
    (hcharged : up + t.acknowledged + wakeups mSensors t.run.dropped.flatten +
        s.scopedWakelocks.length + wakeups mSensors s.run.posted + s.mWakeLockQueue.sum =
      down + s.acknowledged + wakeups mSensors s.run.dropped.flatten +
        t.scopedWakelocks.length + wakeups mSensors t.run.posted + t.mWakeLockQueue.sum)
    (hack : t.acknowledged ≤ wakeups mSensors t.run.received)
    (hqueued : t.mWakeLockQueue.sum ≤ t.acknowledged) : Balanced limits process mSensors t := by
  have hold := hs.charged
  have hcount := hadj.count
  have hreset := hadj.reset
  obtain ⟨hnonneg, hle⟩ := hs.clock
  refine ⟨hpipeline, hadj.run, ⟨by omega, by omega⟩, ?_, by omega, hack, hqueued, hadj.held⟩
  intro c hc
  rcases hcreated c hc with hc | rfl
  · have := hs.created c hc
    omega
  · omega

theorem balanced_create {s : ChargedRun α} (hs : Balanced limits process mSensors s) {now : Int}
    (hclock : s.clock ≤ now) : Balanced limits process mSensors { s with
      wakelock := s.wakelock.incrementRefCountAndMaybeAcquireWakelock 1 now
      clock := now
      scopedWakelocks := now :: s.scopedWakelocks } := by
  have hadj := SharedWakelock.adjusts_increment hs.run hs.held (Or.inl Nat.one_pos) now
  refine hs.of_adjusts hadj hs.pipeline hclock ?_ ?_ hs.acknowledged hs.queued
  · intro c hc
    exact (List.mem_cons.mp hc).symm
  · simp only [List.length_cons]
    omega

theorem balanced_destroy {s : ChargedRun α} (hs : Balanced limits process mSensors s)
    {createdAtTimeNs : Int} (hmem : createdAtTimeNs ∈ s.scopedWakelocks) :
    Balanced limits process mSensors { s with
      wakelock := s.wakelock.decrementRefCountAndMaybeReleaseWakelock 1 createdAtTimeNs
      scopedWakelocks := s.scopedWakelocks.erase createdAtTimeNs } := by
  have hpos := List.length_pos_of_mem hmem
  have hle : 1 ≤ s.wakelock.mWakelockRefCount := by
    have hcount := hs.count_eq
    unfold references at hcount
    omega
  have hadj := SharedWakelock.adjusts_decrement hs.run hs.held hle
    (Or.inr (hs.created createdAtTimeNs hmem))
  refine hs.of_adjusts hadj hs.pipeline (Int.le_refl _) ?_ ?_ hs.acknowledged hs.queued
  · exact fun c hc => Or.inl (List.mem_of_mem_erase hc)
  · dsimp only
    rw [List.length_erase_of_mem hmem]
    omega

theorem balanced_acknowledge {s : ChargedRun α} (hs : Balanced limits process mSensors s) {n : Nat}
    (hread : s.acknowledged + n ≤ wakeups mSensors s.run.received) :
    Balanced limits process mSensors { s with
      acknowledged := s.acknowledged + n
      mWakeLockQueue := s.mWakeLockQueue ++ [n] } := by
  have hsum : (s.mWakeLockQueue ++ [n]).sum = s.mWakeLockQueue.sum + n := by
    simp
  have hqueued := hs.queued
  refine hs.of_adjusts (SharedWakelock.adjusts_refl hs.run hs.held) hs.pipeline (Int.le_refl _)
    (fun c hc => Or.inl hc) ?_ hread ?_
  · dsimp only
    omega
  · dsimp only
    omega

theorem balanced_readWakeLockQueue {s : ChargedRun α} (hs : Balanced limits process mSensors s)
    {numWakeLocksProcessed : Nat} {rest : List Nat}
    (hqueue : s.mWakeLockQueue = numWakeLocksProcessed :: rest) :
    Balanced limits process mSensors { s with
      wakelock := s.wakelock.decrementRefCountAndMaybeReleaseWakelock numWakeLocksProcessed (-1)
      mWakeLockQueue := rest } := by
  have hsum : s.mWakeLockQueue.sum = numWakeLocksProcessed + rest.sum := by
    rw [hqueue, List.sum_cons]
  have hle : numWakeLocksProcessed ≤ s.wakelock.mWakelockRefCount := by
    have hcount := hs.count_eq
    unfold references at hcount
    omega
  have hqueued := hs.queued
  have hadj := SharedWakelock.adjusts_decrement hs.run hs.held hle (Or.inl rfl)
  refine hs.of_adjusts hadj hs.pipeline (Int.le_refl _) (fun c hc => Or.inl hc) ?_ hs.acknowledged ?_
  · dsimp only
    omega
  · dsimp only
    omega

/-- A locked post finds its own `ScopedWakelock` counted. -/
theorem balanced_post {s : ChargedRun α} (hs : Balanced limits process mSensors s)
    {run : PipelineRun α Event} {eventsList : List Event} {numWakeupEvents : Nat} {isLocked : Bool}
    {now : Int} (hclock : s.clock ≤ now) (hlocked : isLocked = true → s.scopedWakelocks ≠ [])
    (hok : ChargesExactly mSensors s process
      (.pipeline (.post eventsList numWakeupEvents) isLocked now))
    (hstep : s.run.step limits process (.post eventsList numWakeupEvents) = some run) :
    Balanced limits process mSensors { s with
      run := run
      wakelock := s.wakelock.applyAll
        (s.wakelockOps mSensors (.post eventsList numWakeupEvents) isLocked now)
      clock := now } := by
  obtain ⟨hexact, hunlocked⟩ := hok
  obtain ⟨items, hreceived⟩ := PipelineRun.received_step hstep
  have hposted : wakeups mSensors run.posted =
      wakeups mSensors s.run.posted + numWakeupEvents := by
    obtain ⟨-, hrun⟩ := Option.ite_none_right_eq_some.mp hstep
    cases hrun
    rw [hexact]
    exact wakeups_append ..
  have hdropped : run.dropped = s.run.dropped := PipelineRun.dropped_step hstep
  have hadj : SharedWakelock.Adjusts s.wakelock (s.wakelock.applyAll
      (s.wakelockOps mSensors (.post eventsList numWakeupEvents) isLocked now))
      numWakeupEvents 0 := by
    cases isLocked with
    | false =>
      rw [hunlocked rfl]
      exact SharedWakelock.adjusts_refl hs.run hs.held
    | true =>
      -- the `ScopedWakelock` of the post is referenced, so the lock is held
      refine SharedWakelock.adjusts_increment hs.run hs.held (Or.inr ?_) now
      have hcount := hs.count_eq
      have hpos := List.length_pos_of_ne_nil (hlocked rfl)
      unfold references at hcount
      omega
  have hreach := PipelineRun.reachable_step hs.pipeline hstep
  refine hs.of_adjusts hadj hreach hclock (fun c hc => Or.inl hc) ?_ ?_ hs.queued
  · dsimp only
    rw [hdropped]
    omega
  · dsimp only
    rw [hreceived, wakeups_append]
    exact Nat.le_trans hs.acknowledged (Nat.le_add_right _ _)

/-- All other steps of the pipeline: only a chunk that fails touches the lock. -/
theorem balanced_pipeline {s : ChargedRun α} (hs : Balanced limits process mSensors s)
    {run : PipelineRun α Event} {l : PipelineStep Event} {isLocked : Bool} {now : Int}
    (hclock : s.clock ≤ now) (hposted : run.posted = s.run.posted)
    (hok : s.run.FailsChunk l → s.chunkDelta mSensors = wakeups mSensors s.run.chunk)
    (hops : s.wakelockOps mSensors l isLocked now =
      if s.run.FailsChunk l then [.decrement (s.chunkDelta mSensors) (-1)] else [])
    (hstep : s.run.step limits process l = some run) :
    Balanced limits process mSensors { s with
      run := run
      wakelock := s.wakelock.applyAll (s.wakelockOps mSensors l isLocked now)
      clock := now } := by
  have hreach := PipelineRun.reachable_step hs.pipeline hstep
  obtain ⟨items, hreceived⟩ := PipelineRun.received_step hstep
  have hdropped := PipelineRun.dropped_step hstep
  have hack : s.acknowledged ≤ wakeups mSensors run.received := by
    rw [hreceived, wakeups_append]
    exact Nat.le_trans hs.acknowledged (Nat.le_add_right _ _)
  rw [hops]
  by_cases hfails : s.run.FailsChunk l
  · rw [if_pos hfails] at hdropped ⊢
    -- the chunk is on its way, so all that is given back is counted
    have hchunk : wakeups mSensors s.run.chunk ≤ s.wakelock.mWakelockRefCount := by
      have hcount := hs.count_eq
      have hle := s.run.chunk_sublist.countP_le (p := isWakeupEvent mSensors)
      unfold references PipelineRun.inFlight at hcount
      simp only [wakeups_append] at hcount
      unfold wakeups at hcount ⊢
      omega
    have hadj := SharedWakelock.adjusts_decrement hs.run hs.held
      (Nat.le_trans (Nat.le_of_eq (hok hfails)) hchunk) (Or.inl rfl)
    refine hs.of_adjusts hadj hreach hclock (fun c hc => Or.inl hc) ?_ hack hs.queued
    dsimp only
    rw [hdropped, hposted, List.flatten_append, wakeups_append, List.flatten_singleton, hok hfails]
    omega
  · rw [if_neg hfails] at hdropped ⊢
    refine hs.of_adjusts (SharedWakelock.adjusts_refl hs.run hs.held) hreach hclock
      (fun c hc => Or.inl hc) ?_ hack hs.queued
    dsimp only
    rw [hdropped, hposted]

theorem balanced_step {s t : ChargedRun α} {l : Step} (hs : Balanced limits process mSensors s)
    (hok : ChargesExactly mSensors s process l)
    (h : step mSensors s timeout limits process l = some t) :
    Balanced limits process mSensors t := by
  cases l with
  | createScopedWakelock now =>
    obtain ⟨hclock, ht⟩ := Option.ite_none_right_eq_some.mp h
    cases ht
    exact balanced_create hs hclock
  | destroyScopedWakelock createdAtTimeNs =>
    obtain ⟨hmem, ht⟩ := Option.ite_none_right_eq_some.mp h
    cases ht
    exact balanced_destroy hs hmem
  | acknowledge n =>
    obtain ⟨hread, ht⟩ := Option.ite_none_right_eq_some.mp h
    cases ht
    exact balanced_acknowledge hs hread
  | readWakeLockQueue =>
    dsimp only [step] at h
    split at h
    · cases h
    · rename_i numWakeLocksProcessed rest hqueue
      cases h
      exact balanced_readWakeLockQueue hs hqueue
  | timeout now reset => exact hok.elim
  | pipeline l isLocked now =>
    obtain ⟨⟨hclock, hlocked⟩, ht⟩ := Option.ite_none_right_eq_some.mp h
    obtain ⟨run, hstep, rfl⟩ := Option.map_eq_some_iff.mp ht
    cases l with
    | post eventsList numWakeupEvents => exact balanced_post hs hclock hlocked hok hstep
    | probe | write | store | wake | test | writeBlocking | retire | read =>
      have hposted : run.posted = s.run.posted := by
        rcases PipelineRun.posted_step hstep with hsame | ⟨_, _, heq, -⟩
        · exact hsame
        · cases heq
      exact balanced_pipeline hs hclock hposted hok rfl hstep

/-- **The reference count is what the references make it.**  In every state of every
session whose posts are charged for what they hand on, whose failed chunks give back
what they are worth and in which the lock does not time out, the reference count is the
number of live `ScopedWakelock` objects, wake-up events on their way, wake-up events
read and not acknowledged, and acknowledgements not yet read, plus the wake-up events of
refused tails; and the kernel lock is held if and only if this is not zero. -/
theorem count_eq_references {s : ChargedRun α}
    (h : (machine mSensors timeout limits process).ReachableBy
      (fun s l => ChargesExactly mSensors s process l) s) :
    s.wakelock.mWakelockRefCount =
        s.references mSensors + wakeups mSensors s.run.refusedTails ∧
      (s.wakelock.kernelWakelock = true ↔
        0 < s.references mSensors + wakeups mSensors s.run.refusedTails) := by
  have hs : Balanced limits process mSensors s :=
    h.invariant (I := Balanced limits process mSensors) (fun _ hs => balanced_init hs)
      fun _ _ _ hs hok hstep => balanced_step hs hok hstep
  exact ⟨hs.count_eq, hs.count_eq ▸ hs.held⟩

end Invariant

/-- Both queues are empty and nobody holds anything. -/
def quiet : ChargedRun Unit where
  run := ⟨⟨⟨1, [], Nat.zero_le _⟩, [], 0, 0⟩, (), none, .waiting, [], [], [], [], []⟩
  wakelock := SharedWakelock.idle
  clock := 0
  scopedWakelocks := []
  acknowledged := 0
  mWakeLockQueue := []

/-- Two wake-up events are posted, of which one fits; it is read and acknowledged. -/
def awakeSteps : List Step :=
  [.createScopedWakelock 1,
    .pipeline (.post [oneWakeupEvent, oneWakeupEvent] 2) true 2, .pipeline .probe false 2,
    .pipeline (.write true) false 2, .pipeline .store false 2, .destroyScopedWakelock 1,
    .pipeline (.read 1) false 3, .acknowledge 1, .readWakeLockQueue, .pipeline .wake false 4,
    .pipeline .test false 5]

/-- Of two wake-up events one is read and acknowledged, and the other is with the worker:
its reference keeps the lock. -/
theorem count_eq_references_example :
    ∃ s : ChargedRun Unit, s.wakelock.mWakelockRefCount = 1 ∧ s.wakelock.kernelWakelock = true ∧
      s.wakelock.mWakelockRefCount =
        s.references oneWakeupSensor + wakeups oneWakeupSensor s.run.refusedTails := by
  have hinit : (machine oneWakeupSensor .oneSecond ⟨4, 4, by decide⟩
      fun s event => (event, s)).init quiet :=
    ⟨⟨rfl, rfl, rfl, rfl, rfl, rfl, rfl, rfl, rfl, rfl⟩, rfl, rfl, rfl, by decide, by decide, rfl,
      rfl, rfl⟩
  have hrun : ∃ s, (machine oneWakeupSensor .oneSecond ⟨4, 4, by decide⟩
        fun s event => (event, s)).exec quiet awakeSteps = some s ∧
        s.wakelock.mWakelockRefCount = 1 ∧ s.wakelock.kernelWakelock = true :=
    ⟨_, rfl, by decide +kernel, by decide +kernel⟩
  obtain ⟨s, hs, hcount, hheld⟩ := hrun
  exact ⟨s, hcount, hheld, (count_eq_references (.exec (.init hinit) hs (by decide +kernel))).1⟩

end ChargedRun
end SensorsHal
