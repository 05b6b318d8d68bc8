import Sm8150Common.SharedWakelock

/-! # The deadline of the wakelock thread

`handleWakelocks` (`HalProxy.cpp`, lines 625–648) waits for a reference, and then
for the framework to acknowledge wake-up events: it resets the lock if it has timed
out, and else it reads the wakelock queue with the time left as its timeout.
`readBlocking` of a fast message queue takes a timeout of 0 to mean that there is
none.

`live_deadline` says that the thread has a deadline unless it reads the clock at the
very instant at which the time is over and the lock has not timed out yet;
`read_without_deadline` is such an instant.  Times are in nanoseconds. -/
namespace SensorsHal
namespace SharedWakelock

/-! ## One iteration -/

/-- What `handleWakelocks` does once it has passed its wait. -/
inductive Iteration
  | reset (w : SharedWakelock)
  | readBlocking (timeLeft : Int)
  deriving DecidableEq, Repr

/-- The clock is read at `now`, and again by the reset, `took` later. -/
def iteration (w : SharedWakelock) (timeout : WakelockTimeout) (now : Int) (took : Nat) :
    Iteration :=
  match w.sharedWakelockDidTimeout timeout now with
  | none => .reset (w.resetSharedWakelock (now + took))
  | some timeLeft => .readBlocking timeLeft

/-- The lock is reset, or the read ends when the lock times out. -/
def Iteration.Live (w : SharedWakelock) (timeout : WakelockTimeout) (now : Int) :
    Iteration → Prop
  | .reset w' => w'.IsReset
  | .readBlocking timeLeft => 0 < timeLeft ∧ timeLeft ≤ timeout.kWakelockTimeoutNs ∧
      now + timeLeft = w.mWakelockTimeoutStartTime + timeout.kWakelockTimeoutNs

variable {w : SharedWakelock} {timeout : WakelockTimeout} {now : Int}

theorem sharedWakelockDidTimeout_eq_none :
    w.sharedWakelockDidTimeout timeout now = none ↔
      timeout.kWakelockTimeoutNs < now - w.mWakelockTimeoutStartTime := by
  unfold sharedWakelockDidTimeout
  dsimp only
  by_cases hlate : now - w.mWakelockTimeoutStartTime > timeout.kWakelockTimeoutNs
  · rw [if_pos hlate]
    exact ⟨fun _ => hlate, fun _ => rfl⟩
  · rw [if_neg hlate]
    exact ⟨nofun, fun h => absurd h hlate⟩

theorem sharedWakelockDidTimeout_eq_some {timeLeft : Int}
    (h : w.sharedWakelockDidTimeout timeout now = some timeLeft) :
    now - w.mWakelockTimeoutStartTime ≤ timeout.kWakelockTimeoutNs ∧
      timeLeft = timeout.kWakelockTimeoutNs - (now - w.mWakelockTimeoutStartTime) := by
  unfold sharedWakelockDidTimeout at h
  dsimp only at h
  by_cases hlate : now - w.mWakelockTimeoutStartTime > timeout.kWakelockTimeoutNs
  · rw [if_pos hlate] at h
    cases h
  · rw [if_neg hlate] at h
    exact ⟨by omega, (Option.some.inj h).symm⟩

/-- **One iteration** is live unless the clock stands at the very end of the time. -/
theorem iteration_live_iff (hrun : w.mThreadsRun = true) (hpos : 0 < w.mWakelockRefCount)
    (hnow : w.mWakelockTimeoutStartTime ≤ now) (took : Nat) :
    (w.iteration timeout now took).Live w timeout now ↔
      now - w.mWakelockTimeoutStartTime ≠ timeout.kWakelockTimeoutNs := by
  unfold iteration
  rcases htimeout : w.sharedWakelockDidTimeout timeout now with _ | timeLeft
  · have hlate := sharedWakelockDidTimeout_eq_none.mp htimeout
    have hreset : (w.resetSharedWakelock (now + took)).IsReset :=
      (w.reset_isReset_iff _).mpr (.inl ⟨hrun, hpos⟩)
    exact ⟨fun _ => by omega, fun _ => hreset⟩
  · obtain ⟨hearly, rfl⟩ := sharedWakelockDidTimeout_eq_some htimeout
    constructor
    · rintro ⟨hlive, -, -⟩
      omega
    · intro hne
      exact ⟨by omega, by omega, by omega⟩

end SharedWakelock

/-! ## Runs of the thread -/

/-- Where the thread stands.  It holds `mWakelockMutex` in `loop`, at the test of the
loop flag, and in `passed`; `reading` keeps when the read began and its timeout. -/
inductive WakelockPc
  | exited
  | loop
  | waiting
  | passed
  | reading (since timeLeft : Int)
  deriving DecidableEq, Repr

def WakelockPc.holdsMutex : WakelockPc → Bool
  | .loop | .passed => true
  | .exited | .waiting | .reading .. => false

/-- The wakelock thread beside the lock it watches over. -/
structure WakelockThread where
  wakelock : SharedWakelock
  clock : Int
  pc : WakelockPc
  deriving DecidableEq, Repr

/-- What happens next: time passes, another thread calls one of the operations on the
lock, or the thread takes a step.  `readBlocking` returns what it has read, or
`none`. -/
inductive WakelockStep
  | elapse (ns : Nat)
  | operation (op : SharedWakelock.Op)
  | startWakelockThread
  | test
  | wake
  | iterate (took : Nat)
  | readBlocking (numWakeLocksProcessed : Option Nat)
  deriving DecidableEq, Repr

/-- The clock reading an operation makes. -/
def SharedWakelock.Op.now : SharedWakelock.Op → Option Int
  | .increment _ now | .reset now => some now
  | .decrement .. | .storeThreadsRun _ => none

/-- Only the store to `mThreadsRun` goes without the mutex. -/
def SharedWakelock.Op.takesMutex : SharedWakelock.Op → Bool
  | .storeThreadsRun _ => false
  | .increment .. | .decrement .. | .reset _ => true

namespace WakelockThread

section Model
variable (timeout : WakelockTimeout) (s : WakelockThread)

/-- The body of the loop, past the wait. -/
def iterate (took : Nat) : Option WakelockThread :=
  if s.pc = .passed then
    if s.wakelock.mThreadsRun then
      match s.wakelock.iteration timeout s.clock took with
      | .reset wakelock =>
        some { s with wakelock := wakelock, clock := s.clock + took, pc := .loop }
      | .readBlocking timeLeft => some { s with pc := .reading s.clock timeLeft }
    else some { s with pc := .loop }
  else none

/-- The read returns: with an acknowledgement at any time, without one when its
timeout is over, which a timeout of 0 never is. -/
def readBlocking (read : Option Nat) : Option WakelockThread :=
  match s.pc with
  | .reading since timeLeft =>
    match read with
    | some numWakeLocksProcessed =>
      some { s with
        wakelock :=
          s.wakelock.decrementRefCountAndMaybeReleaseWakelock numWakeLocksProcessed (-1)
        pc := .loop }
    | none =>
      if timeLeft ≠ 0 ∧ since + timeLeft ≤ s.clock then some { s with pc := .loop } else none
  | _ => none

def step : WakelockStep → Option WakelockThread
  | .elapse ns => some { s with clock := s.clock + ns }
  | .operation op =>
    if (op.takesMutex = true → s.pc.holdsMutex = false) ∧ (∀ now ∈ op.now, now = s.clock) then
      some { s with wakelock := s.wakelock.apply op }
    else none
  | .startWakelockThread => if s.pc = .exited then some { s with pc := .loop } else none
  | .test =>
    if s.pc = .loop then
      if s.wakelock.mThreadsRun then some { s with pc := .waiting }
      else some { s with wakelock := s.wakelock.resetSharedWakelock s.clock, pc := .exited }
    else none
  | .wake =>
    if s.pc = .waiting ∧ (0 < s.wakelock.mWakelockRefCount ∨ s.wakelock.mThreadsRun = false) then
      some { s with pc := .passed }
    else none
  | .iterate took => s.iterate timeout took
  | .readBlocking read => s.readBlocking read

/-- Nothing has been taken, and the thread has not been started. -/
def machine : StepMachine WakelockThread WakelockStep where
  init s := s.wakelock.mWakelockRefCount = 0 ∧ s.wakelock.kernelWakelock = false ∧
    s.wakelock.mWakelockTimeoutStartTime ≤ s.clock ∧ s.pc = .exited
  step := step timeout

/-- An iteration does not read the clock at the very end of the time. -/
def MissesDeadline (s : WakelockThread) : WakelockStep → Prop
  | .iterate _ => s.wakelock.mThreadsRun = true →
      s.clock - s.wakelock.mWakelockTimeoutStartTime ≠ timeout.kWakelockTimeoutNs
  | _ => True

instance (timeout : WakelockTimeout) (s : WakelockThread) :
    DecidablePred (MissesDeadline timeout s)
  | .iterate _ => inferInstanceAs (Decidable (_ → _))
  | .elapse _ | .operation _ | .startWakelockThread | .test | .wake | .readBlocking _ =>
    isTrue trivial

end Model

variable {timeout : WakelockTimeout} {s t : WakelockThread}

theorem iterate_cases {took : Nat} (h : s.iterate timeout took = some t) :
    (s.wakelock.mThreadsRun = true ∧
      t = { s with
        wakelock := s.wakelock.resetSharedWakelock (s.clock + took)
        clock := s.clock + took
        pc := .loop }) ∨
    (s.wakelock.mThreadsRun = true ∧ ∃ timeLeft,
      s.wakelock.sharedWakelockDidTimeout timeout s.clock = some timeLeft ∧
      t = { s with pc := .reading s.clock timeLeft }) ∨
    t = { s with pc := .loop } := by
  rw [iterate] at h
  split at h
  · split at h
    · next hrun =>
      rw [SharedWakelock.iteration] at h
      rcases htimeout : s.wakelock.sharedWakelockDidTimeout timeout s.clock with _ | timeLeft
      · rw [htimeout] at h
        exact .inl ⟨hrun, (Option.some.inj h).symm⟩
      · rw [htimeout] at h
        exact .inr (.inl ⟨hrun, timeLeft, rfl, (Option.some.inj h).symm⟩)
    · exact .inr (.inr (Option.some.inj h).symm)
  · cases h

theorem readBlocking_cases {read : Option Nat} (h : s.readBlocking read = some t) :
    (∃ numWakeLocksProcessed,
      t = { s with
        wakelock :=
          s.wakelock.decrementRefCountAndMaybeReleaseWakelock numWakeLocksProcessed (-1)
        pc := .loop }) ∨
    t = { s with pc := .loop } := by
  rw [readBlocking] at h
  split at h
  · rcases read with _ | numWakeLocksProcessed
    · dsimp only at h
      split at h <;> cases h
      exact .inr rfl
    · exact .inl ⟨numWakeLocksProcessed, (Option.some.inj h).symm⟩
  · cases h

/-- What a step does to the lock: nothing, or one operation at a time not later than
the clock afterwards. -/
theorem step_wakelock {l : WakelockStep} (h : step timeout s l = some t) :
    s.clock ≤ t.clock ∧
      (t.wakelock = s.wakelock ∨
        ∃ op, t.wakelock = s.wakelock.apply op ∧ ∀ now ∈ op.now, now ≤ t.clock) := by
  cases l with
  | elapse ns =>
    cases h
    exact ⟨Int.le_add_of_nonneg_right (Int.natCast_nonneg ns), .inl rfl⟩
  | operation op =>
    rw [step] at h
    split at h
    · next hop =>
      cases h
      exact ⟨Int.le_refl _, .inr ⟨op, rfl, fun now hnow => Int.le_of_eq (hop.2 now hnow)⟩⟩
    · cases h
  | startWakelockThread =>
    rw [step] at h
    split at h <;> cases h
    exact ⟨Int.le_refl _, .inl rfl⟩
  | test =>
    rw [step] at h
    split at h
    · split at h <;> cases h
      · exact ⟨Int.le_refl _, .inl rfl⟩
      · refine ⟨Int.le_refl _, .inr ⟨.reset s.clock, rfl, ?_⟩⟩
        rintro now ⟨⟩
        exact Int.le_refl _
    · cases h
  | wake =>
    rw [step] at h
    split at h <;> cases h
    exact ⟨Int.le_refl _, .inl rfl⟩
  | iterate took =>
    rcases iterate_cases h with ⟨-, rfl⟩ | ⟨-, timeLeft, -, rfl⟩ | rfl
    · refine ⟨Int.le_add_of_nonneg_right (Int.natCast_nonneg took),
        .inr ⟨.reset (s.clock + took), rfl, ?_⟩⟩
      rintro now ⟨⟩
      exact Int.le_refl _
    · exact ⟨Int.le_refl _, .inl rfl⟩
    · exact ⟨Int.le_refl _, .inl rfl⟩
  | readBlocking read =>
    rcases readBlocking_cases h with ⟨numWakeLocksProcessed, rfl⟩ | rfl
    · exact ⟨Int.le_refl _, .inr ⟨.decrement numWakeLocksProcessed (-1), rfl, nofun⟩⟩
    · exact ⟨Int.le_refl _, .inl rfl⟩

/-- A read begins in an iteration that finds the lock not timed out. -/
theorem step_reading {l : WakelockStep} (h : step timeout s l = some t) {since timeLeft : Int}
    (hpc : t.pc = .reading since timeLeft) :
    s.pc = .reading since timeLeft ∨ ∃ took, l = .iterate took ∧
      s.wakelock.mThreadsRun = true ∧ since = s.clock ∧
      s.wakelock.sharedWakelockDidTimeout timeout s.clock = some timeLeft := by
  cases l with
  | elapse ns =>
    cases h
    exact .inl hpc
  | operation op =>
    rw [step] at h
    split at h <;> cases h
    exact .inl hpc
  | startWakelockThread =>
    rw [step] at h
    split at h <;> cases h
    cases hpc
  | test =>
    rw [step] at h
    split at h
    · split at h <;> cases h <;> cases hpc
    · cases h
  | wake =>
    rw [step] at h
    split at h <;> cases h
    cases hpc
  | iterate took =>
    rcases iterate_cases h with ⟨-, rfl⟩ | ⟨hrun, timeLeft', htimeout, rfl⟩ | rfl
    · cases hpc
    · cases hpc
      exact .inr ⟨took, rfl, hrun, rfl, htimeout⟩
    · cases hpc
  | readBlocking read =>
    rcases readBlocking_cases h with ⟨numWakeLocksProcessed, rfl⟩ | rfl <;> cases hpc

end WakelockThread

/-- Only an increment sets the time the lock times out from. -/
theorem SharedWakelock.apply_startTime (w : SharedWakelock) (op : Op) :
    (w.apply op).mWakelockTimeoutStartTime = w.mWakelockTimeoutStartTime ∨
      ∃ now ∈ op.now, (w.apply op).mWakelockTimeoutStartTime = now := by
  have hdecrement (delta : Nat) (timeoutStart : Int) :
      (w.decrementRefCountAndMaybeReleaseWakelock delta timeoutStart).mWakelockTimeoutStartTime =
        w.mWakelockTimeoutStartTime := by
    rcases hrun : w.mThreadsRun with _ | _
    · rw [decrement_stopped hrun]
    · rw [decrement_running hrun]
      rcases w.decrementRefCount_cases delta timeoutStart with h | h <;> rw [h]
  cases op with
  | increment delta now =>
    rcases hrun : w.mThreadsRun with _ | _
    · exact .inl (by rw [apply, increment_stopped hrun])
    · exact .inr ⟨now, rfl, by rw [apply, increment_running hrun, incrementRefCount]⟩
  | decrement delta timeoutStart => exact .inl (hdecrement delta timeoutStart)
  | reset now => exact .inl (hdecrement _ _)
  | storeThreadsRun run => exact .inl rfl

namespace WakelockThread
variable {timeout : WakelockTimeout} {s t : WakelockThread}

/-- The lock goes through a run of its own, and times out from a time that is past. -/
theorem simulation : StepMachine.Simulation (machine timeout) SharedWakelock.machine
    WakelockThread.wakelock fun s => s.wakelock.mWakelockTimeoutStartTime ≤ s.clock where
  init := fun _ ⟨hzero, hreleased, hstart, _⟩ => ⟨hstart, hzero, hreleased⟩
  step := by
    intro s l t hs h
    obtain ⟨hclock, hsame | ⟨op, hop, hnow⟩⟩ := step_wakelock h
    · exact ⟨by rw [hsame]; omega, [], by rw [hsame]; rfl⟩
    · refine ⟨?_, [op], by rw [hop]; rfl⟩
      rcases s.wakelock.apply_startTime op with heq | ⟨now, hmem, heq⟩
      · rw [hop, heq]
        omega
      · rw [hop, heq]
        exact hnow now hmem

/-- On a run that misses the end of the time, every read has a timeout that is
positive and not past the deadline. -/
theorem reading_timeLeft (h : (machine timeout).ReachableBy (MissesDeadline timeout) s)
    {since timeLeft : Int}
    (hpc : s.pc = .reading since timeLeft) :
    since ≤ s.clock ∧ 0 < timeLeft ∧ timeLeft ≤ timeout.kWakelockTimeoutNs := by
  induction h generalizing since timeLeft with
  | init hinit =>
    obtain ⟨-, -, -, hexited⟩ := hinit
    rw [hexited] at hpc
    cases hpc
  | step hs hok ht ih =>
    obtain ⟨hclock, -⟩ := step_wakelock ht
    rcases step_reading ht hpc with hpc | ⟨took, rfl, hrun, rfl, htimeout⟩
    · obtain ⟨hsince, hleft⟩ := ih hpc
      exact ⟨Int.le_trans hsince hclock, hleft⟩
    · have hstart := (simulation.reachable hs.reachable).1
      obtain ⟨hearly, rfl⟩ := SharedWakelock.sharedWakelockDidTimeout_eq_some htimeout
      have hne := hok hrun
      exact ⟨hclock, by omega, by omega⟩

/-- A read with a timeout comes back without being woken. -/
theorem readBlocking_returns {since timeLeft : Int} (hpc : s.pc = .reading since timeLeft)
    (hsince : since ≤ s.clock) (hpos : 0 < timeLeft) :
    ∃ t, (machine timeout).exec s [.elapse timeLeft.toNat, .readBlocking none] = some t := by
  have hover : timeLeft ≠ 0 ∧ since + timeLeft ≤ s.clock + timeLeft.toNat := ⟨by omega, by omega⟩
  refine ⟨{ s with clock := s.clock + timeLeft.toNat, pc := .loop }, ?_⟩
  rw [StepMachine.exec_cons_eq_some]
  refine ⟨_, rfl, ?_⟩
  rw [StepMachine.exec_singleton]
  show ({ s with clock := s.clock + timeLeft.toNat } : WakelockThread).readBlocking none = _
  rw [readBlocking, hpc]
  exact if_pos hover

/-- **When the thread has a deadline.**  Past its wait with a reference and the
threads running, the kernel lock is held, and an iteration resets the lock or reads
with a timeout that ends when the lock times out, if and only if the clock does not
stand at the very end of the time.  On every run whose iterations all miss that
instant no read goes without a timeout, and every read comes back by itself. -/
theorem live_deadline (timeout : WakelockTimeout) (s : WakelockThread) :
    ((machine timeout).Reachable s → s.pc = .passed → 0 < s.wakelock.mWakelockRefCount →
      s.wakelock.mThreadsRun = true → s.wakelock.kernelWakelock = true ∧
      ∀ now took, s.wakelock.mWakelockTimeoutStartTime ≤ now →
        ((s.wakelock.iteration timeout now took).Live s.wakelock timeout now ↔
          now - s.wakelock.mWakelockTimeoutStartTime ≠ timeout.kWakelockTimeoutNs)) ∧
    ((machine timeout).ReachableBy (MissesDeadline timeout) s → ∀ since timeLeft,
      s.pc = .reading since timeLeft → 0 < timeLeft ∧ timeLeft ≤ timeout.kWakelockTimeoutNs ∧
      ∃ t, (machine timeout).exec s [.elapse timeLeft.toNat, .readBlocking none] = some t) := by
  constructor
  · intro h _ hpos hrun
    exact ⟨SharedWakelock.held_of_positive (simulation.reachable h).2 hpos,
      fun now took hnow => SharedWakelock.iteration_live_iff hrun hpos hnow took⟩
  · intro h since timeLeft hpc
    obtain ⟨hsince, hpos, hle⟩ := reading_timeLeft h hpc
    exact ⟨hpos, hle, readBlocking_returns hpc hsince hpos⟩

/-- The proxy has been initialized, and its thread is about to start. -/
def started : WakelockThread := ⟨.idle, 0, .exited⟩

theorem started_init : (machine timeout).init started := ⟨rfl, rfl, Int.le_refl _, rfl⟩

/-- With a timeout of a second, a wake-up event is posted at 5, and the thread comes by 400 ms
later: it waits for the other 600 ms. -/
theorem live_deadline_early : ∃ s, (machine .oneSecond).ReachableBy (MissesDeadline .oneSecond) s ∧
    s.pc = .reading 400000005 600000000 ∧
    ∃ t, (machine .oneSecond).exec s [.elapse 600000000, .readBlocking none] = some t := by
  have hrun : ((machine .oneSecond).exec started [.startWakelockThread, .test, .elapse 5,
      .operation (.increment 1 5), .wake, .elapse 400000000, .iterate 0]).map
      (fun s => s.pc) = some (.reading 400000005 600000000) := by
    decide +kernel
  obtain ⟨s, hexec, hpc⟩ := Option.map_eq_some_iff.mp hrun
  have hreach : (machine .oneSecond).ReachableBy (MissesDeadline .oneSecond) s :=
    StepMachine.ReachableBy.exec (.init started_init) hexec (by decide +kernel)
  exact ⟨s, hreach, hpc, ((live_deadline .oneSecond s).2 hreach _ _ hpc).2.2⟩

/-- A wake-up event is posted at 5; the thread comes by exactly one second later. -/
theorem read_without_deadline :
    ¬ ∀ timeout s, (machine timeout).Reachable s → s.pc = .passed →
      0 < s.wakelock.mWakelockRefCount → s.wakelock.mThreadsRun = true →
      ∀ now took, s.wakelock.mWakelockTimeoutStartTime ≤ now →
        (s.wakelock.iteration timeout now took).Live s.wakelock timeout now := by
  intro h
  have hrun : (machine .oneSecond).exec started [.startWakelockThread, .test, .elapse 5,
      .operation (.increment 1 5), .wake, .elapse 1000000000] =
      some ⟨⟨true, 1, 5, 0, true⟩, 1000000005, .passed⟩ := by
    decide +kernel
  have hlive := h .oneSecond _ (StepMachine.Reachable.exec (.init started_init) hrun) rfl
    (by decide) rfl 1000000005 0 (by decide)
  exact absurd hlive.1 (by decide)

end WakelockThread
end SensorsHal
