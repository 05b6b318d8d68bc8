import Sm8150Common.Library.ConditionVariable
import Sm8150Common.Library.StepMachine

/-!
# Stopping the threads

`stopThreads` (`HalProxy.cpp`, lines 540–561) clears `mThreadsRun`, wakes the
queues, notifies the condition variables of the two worker threads and joins
them.  It holds neither worker's mutex meanwhile.  The workers run
`handlePendingWrites` and `handleWakelocks`, which have one shape:

    lock; while (run) { wait until work or !run; if (run) { unlock; io; lock; … } }

`work` counts what the predicate looks at: pending batches for the one, wakelock
references for the other.  Calls of the sub-HALs bring work and notify the worker
in turn; `callers` are those that have found `mThreadsRun` set and have yet to
take the mutex.

`never_hung` says that `stopThreads` joins both threads as long as none of its
two notifications falls between a worker's test of its predicate and its block;
`lost_notification_hangs` is a run in which one does.
-/
namespace SensorsHal
open ConditionVariable

inductive Worker
  | pendingWrites
  | wakelock
  deriving DecidableEq, Repr

/-- Where a worker stands.  It holds its mutex in `loop` (at the test of the loop
flag) and in the stages of the wait that do; it is without it in `start`, in `io`
(a blocking write or read) and in `relock`. -/
inductive WorkerPc
  | start
  | loop
  | waiting (stage : WaitStage)
  | io
  | relock
  | exited
  deriving DecidableEq, Repr

/-- One of the two threads: where it is, how much there is for it to do, and how many calls are
past their test of the flag. -/
structure WorkerState where
  pc : WorkerPc
  work : Nat
  callers : Nat
  deriving DecidableEq, Repr

namespace WorkerState

def holdsMutex (x : WorkerState) : Bool :=
  match x.pc with
  | .loop => true
  | .waiting stage => stage.holdsMutex
  | _ => false

/-- `notify_one` on the worker's condition variable. -/
def notifyOne (x : WorkerState) : WorkerState :=
  match x.pc with
  | .waiting stage => { x with pc := .waiting stage.notifyOne }
  | _ => x

/-- The worker's next step.  `left` is the work an iteration leaves when it ends;
`timedOut` tells whether the wakelock has timed out, in which case it is reset
and there is no `io`. -/
def step (run : Bool) (w : Worker) (left : Nat) (timedOut : Bool) (x : WorkerState) :
    Option WorkerState :=
  match x.pc with
  | .start => some { x with pc := .loop }
  | .loop => some { x with pc := if run then .waiting .testing else .exited }
  | .waiting .passed =>
    if run then
      if w = .wakelock ∧ timedOut = true then some { x with pc := .loop, work := 0 }
      else some { x with pc := .io }
    else some { x with pc := .loop }
  | .waiting stage =>
    (stage.step (decide (0 < x.work) || !run)).map fun stage => { x with pc := .waiting stage }
  | .io => some { x with pc := .relock }
  | .relock => if left ≤ x.work then some { x with pc := .loop, work := left } else none
  | .exited => none

/-- A call takes the mutex and brings work.  A post notifies if it leaves
something in the pending queue, an increment if the count was zero. -/
def body (w : Worker) (added : Nat) (x : WorkerState) : Option WorkerState :=
  if 0 < x.callers ∧ x.holdsMutex = false then
    let x' := { x with callers := x.callers - 1, work := x.work + added }
    let notifies : Bool := match w with
      | .pendingWrites => decide (0 < added)
      | .wakelock => x.work == 0
    some (if notifies then x'.notifyOne else x')
  else none

end WorkerState

/-- How far `stopThreads` has come: each stage is named after the step before
it. -/
inductive StopStage
  | running
  | stored
  | drained
  | woken
  | notifiedWakelock
  | notifiedWrites
  | joinedWrites
  | done
  deriving DecidableEq, Repr

/-- The condition variable of `w` has been notified. -/
def StopStage.notified : StopStage → Worker → Bool
  | .notifiedWakelock, .wakelock => true
  | .notifiedWrites, _ | .joinedWrites, _ | .done, _ => true
  | _, _ => false

/-- `stopThreads` is in the join of `w`. -/
def StopStage.joining : StopStage → Worker → Bool
  | .notifiedWrites, .pendingWrites => true
  | .joinedWrites, .wakelock => true
  | _, _ => false

/-- `stopThreads` beside the two threads it joins, with the flag that they test. -/
structure Shutdown where
  mThreadsRun : Bool
  stop : StopStage
  pendingWrites : WorkerState
  wakelock : WorkerState
  deriving DecidableEq, Repr

namespace Shutdown

/-- A step of a thread, which leaves `left` to do; a call on its condition variable in two steps,
the test of the flag and the body; a reference given back; and a step of `stopThreads`. -/
inductive Step
  | worker (w : Worker) (left : Nat) (timedOut : Bool)
  | enter (w : Worker)
  | body (w : Worker) (added : Nat)
  | giveBack (n : Nat)
  | stopThreads
  deriving DecidableEq, Repr

def worker (s : Shutdown) : Worker → WorkerState
  | .pendingWrites => s.pendingWrites
  | .wakelock => s.wakelock

def setWorker (s : Shutdown) (w : Worker) (x : WorkerState) : Shutdown :=
  match w with
  | .pendingWrites => { s with pendingWrites := x }
  | .wakelock => { s with wakelock := x }

section SetWorker
variable (s : Shutdown) (w : Worker) (x : WorkerState)

@[simp] theorem setWorker_mThreadsRun : (s.setWorker w x).mThreadsRun = s.mThreadsRun := by
  cases w <;> rfl

@[simp] theorem setWorker_stop : (s.setWorker w x).stop = s.stop := by
  cases w <;> rfl

@[simp] theorem worker_setWorker_self : (s.setWorker w x).worker w = x := by
  cases w <;> rfl

theorem worker_setWorker_of_ne {w v : Worker} (h : v ≠ w) :
    (s.setWorker w x).worker v = s.worker v := by
  cases w <;> cases v <;> first | rfl | exact absurd rfl h

end SetWorker

/-- The statements of `stopThreads`, one at a time. -/
def stopStep (s : Shutdown) : Option Shutdown :=
  match s.stop with
  | .running => some { s with mThreadsRun := false, stop := .stored }
  | .stored => some { s with stop := .drained }
  | .drained => some { s with stop := .woken }
  | .woken => some { s with wakelock := s.wakelock.notifyOne, stop := .notifiedWakelock }
  | .notifiedWakelock =>
    some { s with pendingWrites := s.pendingWrites.notifyOne, stop := .notifiedWrites }
  | .notifiedWrites =>
    if s.pendingWrites.pc = .exited then some { s with stop := .joinedWrites } else none
  | .joinedWrites => if s.wakelock.pc = .exited then some { s with stop := .done } else none
  | .done => none

def step (s : Shutdown) : Step → Option Shutdown
  | .worker w left timedOut =>
    ((s.worker w).step s.mThreadsRun w left timedOut).map (s.setWorker w)
  | .enter w =>
    if s.mThreadsRun then
      some (s.setWorker w { s.worker w with callers := (s.worker w).callers + 1 })
    else none
  | .body w added => ((s.worker w).body w added).map (s.setWorker w)
  | .giveBack n =>
    -- a decrement by another thread; it notifies nobody
    if s.wakelock.holdsMutex = false then
      some { s with wakelock := { s.wakelock with work := s.wakelock.work - n } }
    else none
  | .stopThreads => s.stopStep

/-- The threads have just been started. -/
def machine : StepMachine Shutdown Step where
  init s := s.mThreadsRun = true ∧ s.stop = .running ∧ ∀ w, (s.worker w).pc = .start
  step := step

/-- `stopThreads` waits in the join of `w`, `w` is blocked on its condition
variable, and no call is under way that could still notify it. -/
def Hung (s : Shutdown) (w : Worker) : Prop :=
  s.stop.joining w = true ∧ (s.worker w).pc = .waiting .blocked ∧ (s.worker w).callers = 0

instance (s : Shutdown) (w : Worker) : Decidable (s.Hung w) :=
  inferInstanceAs (Decidable (_ ∧ _ ∧ _))

/-- No notification of `stopThreads` falls between a worker's test and its
block. -/
def NotParking (s : Shutdown) : Step → Prop
  | .stopThreads => (s.stop = .woken → s.wakelock.pc ≠ .waiting .parking) ∧
      (s.stop = .notifiedWakelock → s.pendingWrites.pc ≠ .waiting .parking)
  | _ => True

instance (s : Shutdown) : DecidablePred s.NotParking
  | .stopThreads => inferInstanceAs (Decidable (_ ∧ _))
  | .worker .. | .enter _ | .body .. | .giveBack _ => isTrue trivial

end Shutdown

/-! ## Settled workers -/

/-- The worker is neither blocked nor about to block. -/
def WorkerPc.Settled : WorkerPc → Prop
  | .waiting stage => stage.Settled
  | _ => True

/-- With the threads stopped, a settled worker is this many steps away from its
exit. -/
def WorkerPc.distance : WorkerPc → Nat
  | .exited => 0
  | .loop => 1
  | .start | .relock => 2
  | .io => 3
  | .waiting stage => stage.distance + 2

namespace WorkerState
variable {x y : WorkerState} {w : Worker} {left added : Nat} {timedOut : Bool}

/-- With the threads stopped the predicate holds. -/
theorem step_waiting {stage : WaitStage} (hpc : x.pc = .waiting stage) (hne : stage ≠ .passed) :
    x.step false w left timedOut =
      (stage.step true).map fun stage => { x with pc := .waiting stage } := by
  cases stage with
  | passed => exact absurd rfl hne
  | _ => simp [step, hpc]

/-- With the threads stopped, a settled worker stays settled and comes closer to
its exit with every step. -/
theorem settled_step (hx : x.pc.Settled) (h : x.step false w left timedOut = some y) :
    y.pc.Settled ∧ y.pc.distance < x.pc.distance := by
  cases hpc : x.pc with
  | start =>
    rw [step, hpc] at h
    cases h
    exact ⟨trivial, Nat.lt_succ_self _⟩
  | loop =>
    rw [step, hpc] at h
    cases h
    exact ⟨trivial, Nat.lt_succ_self _⟩
  | io =>
    rw [step, hpc] at h
    cases h
    exact ⟨trivial, Nat.lt_succ_self _⟩
  | relock =>
    rw [step, hpc] at h
    obtain ⟨-, hy⟩ := Option.ite_none_right_eq_some.mp h
    cases hy
    exact ⟨trivial, Nat.lt_succ_self _⟩
  | exited =>
    rw [step, hpc] at h
    cases h
  | waiting stage =>
    rw [hpc] at hx
    by_cases hpassed : stage = .passed
    · subst hpassed
      rw [step, hpc] at h
      cases h
      exact ⟨trivial, Nat.lt_succ_self _⟩
    · rw [step_waiting hpc hpassed] at h
      obtain ⟨next, hnext, rfl⟩ := Option.map_eq_some_iff.mp h
      have hcloser := WaitStage.distance_step hx hnext
      exact ⟨WaitStage.settled_step hx hnext, Nat.add_lt_add_right hcloser 2⟩

/-- It is never stuck: until its exit it has a step. -/
theorem step_of_settled (hx : x.pc.Settled) (hne : x.pc ≠ .exited) :
    (x.step false w 0 timedOut).isSome = true := by
  cases hpc : x.pc with
  | exited => exact absurd hpc hne
  | waiting stage =>
    rw [hpc] at hx
    by_cases hpassed : stage = .passed
    · subst hpassed
      simp [step, hpc]
    · rw [step_waiting hpc hpassed, Option.isSome_map]
      exact WaitStage.step_isSome hx hpassed true
  | _ => simp [step, hpc]

theorem settled_notifyOne (h : x.pc ≠ .waiting .parking) : x.notifyOne.pc.Settled := by
  unfold notifyOne
  cases hpc : x.pc with
  | waiting stage =>
    refine WaitStage.settled_notifyOne fun hstage => h ?_
    rw [hpc, hstage]
  | _ => simp [hpc, WorkerPc.Settled]

/-- A notification does not unsettle a worker, and neither does a call. -/
theorem Settled.notifyOne (hx : x.pc.Settled) : x.notifyOne.pc.Settled := by
  apply settled_notifyOne
  intro hpc
  rw [hpc] at hx
  exact hx.1 rfl

theorem settled_body (hx : x.pc.Settled) (h : x.body w added = some y) : y.pc.Settled := by
  obtain ⟨-, hy⟩ := Option.ite_none_right_eq_some.mp h
  cases hy
  generalize (match w with
    | .pendingWrites => decide (0 < added)
    | .wakelock => x.work == 0) = notifies
  cases notifies with
  | true => exact Settled.notifyOne (x := { x with callers := _, work := _ }) hx
  | false => exact hx

end WorkerState

/-! ## The join returns -/

namespace Shutdown

/-- The flag is down once `stopThreads` has begun, and a worker is settled once
it has been notified. -/
structure Invariant (s : Shutdown) : Prop where
  flag : s.stop ≠ .running → s.mThreadsRun = false
  settled : ∀ w, s.stop.notified w = true → (s.worker w).pc.Settled

theorem StopStage.ne_running {stop : StopStage} {w : Worker} (h : stop.notified w = true) :
    stop ≠ .running := by
  rintro rfl
  cases w <;> cases h

/-- A step that only changes one worker, and keeps it settled. -/
theorem Invariant.setWorker {s : Shutdown} (hs : Invariant s) {w : Worker} {x : WorkerState}
    (hx : s.stop.notified w = true → x.pc.Settled) : Invariant (s.setWorker w x) := by
  refine ⟨?_, ?_⟩
  · rw [setWorker_stop, setWorker_mThreadsRun]
    exact hs.flag
  · intro v hv
    rw [setWorker_stop] at hv
    by_cases hvw : v = w
    · subst hvw
      rw [worker_setWorker_self]
      exact hx hv
    · rw [worker_setWorker_of_ne s x hvw]
      exact hs.settled v hv

theorem invariant_stopStep {s t : Shutdown} (hs : Invariant s) (hok : NotParking s .stopThreads)
    (h : s.stopStep = some t) : Invariant t := by
  obtain ⟨hwakelock, hwrites⟩ := hok
  unfold stopStep at h
  split at h
  · -- the store to `mThreadsRun`
    cases h
    refine ⟨fun _ => rfl, ?_⟩
    rintro (_ | _) ⟨⟩
  · -- the event queue is drained
    rename_i hstop
    cases h
    refine ⟨fun _ => hs.flag (by rw [hstop]; decide), ?_⟩
    rintro (_ | _) ⟨⟩
  · -- the wakelock queue gets a zero
    rename_i hstop
    cases h
    refine ⟨fun _ => hs.flag (by rw [hstop]; decide), ?_⟩
    rintro (_ | _) ⟨⟩
  · -- `mWakelockCV.notify_one`
    rename_i hstop
    cases h
    refine ⟨fun _ => hs.flag (by rw [hstop]; decide), ?_⟩
    rintro (_ | _) hnot
    · cases hnot
    · exact WorkerState.settled_notifyOne (hwakelock hstop)
  · -- `mEventQueueWriteCV.notify_one`
    rename_i hstop
    cases h
    refine ⟨fun _ => hs.flag (by rw [hstop]; decide), ?_⟩
    rintro (_ | _) -
    · exact WorkerState.settled_notifyOne (hwrites hstop)
    · exact hs.settled .wakelock (by rw [hstop]; rfl)
  · -- the join of the pending-writes thread
    rename_i hstop
    obtain ⟨-, ht⟩ := Option.ite_none_right_eq_some.mp h
    cases ht
    exact ⟨fun _ => hs.flag (by rw [hstop]; decide), fun w _ =>
      hs.settled w (by rw [hstop]; cases w <;> rfl)⟩
  · -- the join of the wakelock thread
    rename_i hstop
    obtain ⟨-, ht⟩ := Option.ite_none_right_eq_some.mp h
    cases ht
    exact ⟨fun _ => hs.flag (by rw [hstop]; decide), fun w _ =>
      hs.settled w (by rw [hstop]; cases w <;> rfl)⟩
  · cases h

theorem invariant_step {s t : Shutdown} {l : Step} (hs : Invariant s) (hok : NotParking s l)
    (h : step s l = some t) : Invariant t := by
  cases l with
  | worker w left timedOut =>
    obtain ⟨x, hx, rfl⟩ := Option.map_eq_some_iff.mp h
    refine hs.setWorker fun hnot => ?_
    rw [hs.flag (StopStage.ne_running hnot)] at hx
    exact (WorkerState.settled_step (hs.settled w hnot) hx).1
  | enter w =>
    obtain ⟨-, ht⟩ := Option.ite_none_right_eq_some.mp h
    cases ht
    exact hs.setWorker (hs.settled w)
  | body w added =>
    obtain ⟨x, hx, rfl⟩ := Option.map_eq_some_iff.mp h
    exact hs.setWorker fun hnot => WorkerState.settled_body (hs.settled w hnot) hx
  | giveBack n =>
    obtain ⟨-, ht⟩ := Option.ite_none_right_eq_some.mp h
    cases ht
    exact hs.setWorker (w := .wakelock) (hs.settled .wakelock)
  | stopThreads => exact invariant_stopStep hs hok h

theorem joining_notified {stop : StopStage} {w : Worker} (h : stop.joining w = true) :
    stop.notified w = true := by
  cases stop <;> cases w <;> first | rfl | cases h

/-- **The join returns.**  In every run in which no notification of `stopThreads`
falls between a worker's test of its predicate and its block, `stopThreads` is
never hung; and the thread it joins, if it has not exited, has a step, each of
which brings it closer to its exit. -/
theorem never_hung {s : Shutdown} (h : machine.ReachableBy NotParking s) (w : Worker) :
    ¬ s.Hung w ∧ (s.stop.joining w = true → (s.worker w).pc ≠ .exited →
      (∃ t, s.step (.worker w 0 false) = some t) ∧
        ∀ left timedOut t, s.step (.worker w left timedOut) = some t →
          (t.worker w).pc.distance < (s.worker w).pc.distance) := by
  have hs : Invariant s := by
    refine h.invariant (fun s hs => ?_) fun _ _ _ hs hok ht => invariant_step hs hok ht
    obtain ⟨hrun, hstop, -⟩ := hs
    refine ⟨fun hne => absurd hstop hne, fun w hnot => ?_⟩
    rw [hstop] at hnot
    cases w <;> cases hnot
  refine ⟨?_, ?_⟩
  · rintro ⟨hjoin, hpc, -⟩
    have hsettled := hs.settled w (joining_notified hjoin)
    rw [hpc] at hsettled
    exact hsettled.2 rfl
  · intro hjoin hne
    have hnot := joining_notified hjoin
    have hsettled := hs.settled w hnot
    have hrun := hs.flag (StopStage.ne_running hnot)
    refine ⟨?_, ?_⟩
    · have hsome : ((s.worker w).step false w 0 false).isSome = true :=
        WorkerState.step_of_settled hsettled hne
      obtain ⟨x, hx⟩ := Option.isSome_iff_exists.mp hsome
      exact ⟨s.setWorker w x, by rw [step, hrun, hx]; rfl⟩
    · intro left timedOut t ht
      obtain ⟨x, hx, rfl⟩ := Option.map_eq_some_iff.mp ht
      rw [hrun] at hx
      rw [worker_setWorker_self]
      exact (WorkerState.settled_step hsettled hx).2

/-- Both workers just started, with no work. -/
def start : Shutdown := ⟨true, .running, ⟨.start, 0, 0⟩, ⟨.start, 0, 0⟩⟩

theorem start_init : machine.init start := ⟨rfl, rfl, fun w => by cases w <;> rfl⟩

/-- The pending-writes worker is blocked when `stopThreads` begins, and gets its
notification. -/
theorem never_hung_example : ∃ s, machine.ReachableBy NotParking s ∧
    s.stop.joining .pendingWrites = true ∧ ¬ s.Hung .pendingWrites := by
  have hrun : machine.exec start [.worker .pendingWrites 0 false, .worker .pendingWrites 0 false,
      .worker .pendingWrites 0 false, .worker .pendingWrites 0 false, .stopThreads, .stopThreads,
      .stopThreads, .stopThreads, .stopThreads] =
      some ⟨false, .notifiedWrites, ⟨.waiting .notified, 0, 0⟩, ⟨.start, 0, 0⟩⟩ := by
    decide
  have hreach : machine.ReachableBy NotParking _ :=
    StepMachine.ReachableBy.exec (.init start_init) hrun (by decide)
  exact ⟨_, hreach, rfl, (never_hung hreach .pendingWrites).1⟩

/-- The pending-writes worker has tested its predicate when the flag is cleared,
and blocks after the notification. -/
theorem lost_notification_hangs :
    ¬ ∀ s, machine.Reachable s → ∀ w, ¬ s.Hung w := by
  intro h
  have hrun : machine.exec start [.worker .pendingWrites 0 false, .worker .pendingWrites 0 false,
      .worker .pendingWrites 0 false, .stopThreads, .stopThreads, .stopThreads, .stopThreads,
      .stopThreads, .worker .pendingWrites 0 false] =
      some ⟨false, .notifiedWrites, ⟨.waiting .blocked, 0, 0⟩, ⟨.start, 0, 0⟩⟩ := by
    decide
  exact h _ (StepMachine.Reachable.exec (.init start_init) hrun) .pendingWrites (by decide)

/-- A join returns when its worker has exited. -/
theorem exited_of_joining {s t : Shutdown} {w : Worker} (hjoin : s.stop.joining w = true)
    (h : s.stopStep = some t) : (s.worker w).pc = .exited := by
  unfold stopStep at h
  cases hstop : s.stop with
  | notifiedWrites =>
    rw [hstop] at h hjoin
    obtain ⟨hexit, -⟩ := Option.ite_none_right_eq_some.mp h
    cases w with
    | pendingWrites => exact hexit
    | wakelock => cases hjoin
  | joinedWrites =>
    rw [hstop] at h hjoin
    obtain ⟨hexit, -⟩ := Option.ite_none_right_eq_some.mp h
    cases w with
    | pendingWrites => cases hjoin
    | wakelock => exact hexit
  | _ =>
    rw [hstop] at hjoin
    cases w <;> cases hjoin

/-- A hang is for good: with the flag down no new call gets through, and nobody
else notifies. -/
theorem hung_forever {s t : Shutdown} {w : Worker} (hrun : s.mThreadsRun = false) (h : s.Hung w)
    {ls : List Step} (hexec : machine.exec s ls = some t) : t.Hung w := by
  refine (StepMachine.exec_invariant (I := fun s : Shutdown => s.mThreadsRun = false ∧ s.Hung w) ?_
    ⟨hrun, h⟩ hexec).2
  rintro s l t ⟨hrun, hjoin, hpc, hcallers⟩ ht
  cases l with
  | worker v left timedOut =>
    obtain ⟨x, hx, rfl⟩ := Option.map_eq_some_iff.mp ht
    by_cases hv : w = v
    · subst hv
      rw [WorkerState.step, hpc] at hx
      cases hx
    · rw [Hung, setWorker_stop, setWorker_mThreadsRun, worker_setWorker_of_ne s x hv]
      exact ⟨hrun, hjoin, hpc, hcallers⟩
  | enter v =>
    obtain ⟨hup, -⟩ := Option.ite_none_right_eq_some.mp ht
    rw [hrun] at hup
    cases hup
  | body v added =>
    obtain ⟨x, hx, rfl⟩ := Option.map_eq_some_iff.mp ht
    by_cases hv : w = v
    · subst hv
      obtain ⟨⟨hpos, -⟩, -⟩ := Option.ite_none_right_eq_some.mp hx
      omega
    · rw [Hung, setWorker_stop, setWorker_mThreadsRun, worker_setWorker_of_ne s x hv]
      exact ⟨hrun, hjoin, hpc, hcallers⟩
  | giveBack n =>
    obtain ⟨-, ht⟩ := Option.ite_none_right_eq_some.mp ht
    cases ht
    refine ⟨hrun, hjoin, ?_⟩
    cases w
    · exact ⟨hpc, hcallers⟩
    · exact ⟨hpc, hcallers⟩
  | stopThreads =>
    have hexit := exited_of_joining hjoin ht
    rw [hpc] at hexit
    cases hexit

end Shutdown
end SensorsHal
