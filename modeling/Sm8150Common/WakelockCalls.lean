import Sm8150Common.SharedWakelock
import Sm8150Common.Library.CountedLatch

/-! # Calls that are past the test of the flag

Both functions that change the reference count look at `mThreadsRun` before they take
`mWakelockMutex` (`HalProxy.cpp`, lines 707 and 723), and `stopThreads` clears the flag without
the mutex (line 541).  A call that has found the flag set may still come to its body after that.

The resets at the end of `handleWakelocks` (line 647) and in `initializeCommon` (line 222) find
the flag cleared and leave the count alone.  So what is referenced after them is what was
referenced when the flag was cleared, and what such calls have made of it since.
`resetSharedWakelock` holds the mutex from before its own test to its end and is one step. -/
namespace SensorsHal
open CountedLatch

/-- The two functions that change the count, with what they are called with. -/
inductive WakelockCall
  | increment (delta : Nat)
  | decrement (delta : Nat) (timeoutStart : Int)
  deriving DecidableEq, Repr

/-- The lock, and the calls that have found `mThreadsRun` set and have not taken the mutex
yet. -/
structure WakelockCalls where
  lock : SharedWakelock
  underWay : List WakelockCall
  deriving DecidableEq, Repr

/-- What a call does under the mutex, whatever has become of the flag. -/
def SharedWakelock.body (w : SharedWakelock) (now : Int) : WakelockCall → SharedWakelock
  | .increment delta => w.incrementRefCount delta now
  | .decrement delta timeoutStart => w.decrementRefCount delta timeoutStart

/-- The count, and whether the kernel lock is held. -/
def SharedWakelock.latch (w : SharedWakelock) : Latch := ⟨w.mWakelockRefCount, w.kernelWakelock⟩

namespace WakelockCalls

/-- The two halves of a call, a reset, and the store to `mThreadsRun`. -/
inductive Step
  | test (call : WakelockCall)
  | body (call : WakelockCall) (now : Int)
  | reset (now : Int)
  | storeThreadsRun (run : Bool)
  deriving DecidableEq, Repr

def step (s : WakelockCalls) : Step → Option WakelockCalls
  | .test call => some (if s.lock.mThreadsRun then { s with underWay := call :: s.underWay } else s)
  | .body call now =>
    if call ∈ s.underWay then some ⟨s.lock.body now call, s.underWay.erase call⟩ else none
  | .reset now => some { s with lock := s.lock.resetSharedWakelock now }
  | .storeThreadsRun run => some { s with lock := { s.lock with mThreadsRun := run } }

/-- From a count of zero and a released lock, with no call under way. -/
def machine : StepMachine WakelockCalls Step where
  init s := SharedWakelock.machine.init s.lock ∧ s.underWay = []
  step := step

variable {s t : WakelockCalls}

/-- A call that is not interrupted is an operation of `SharedWakelock.machine`. -/
theorem exec_call (w : SharedWakelock) (call : WakelockCall) (now : Int) :
    machine.exec ⟨w, []⟩ (.test call :: if w.mThreadsRun then [.body call now] else []) =
      some ⟨if w.mThreadsRun then w.body now call else w, []⟩ := by
  cases hrun : w.mThreadsRun with
  | false => simp [StepMachine.exec, machine, step, hrun]
  | true => simp [StepMachine.exec, machine, step, hrun]

/-- The runs in which no call is interrupted are those of `SharedWakelock.machine`. -/
theorem simulation : StepMachine.Simulation SharedWakelock.machine machine (fun w => ⟨w, []⟩)
    fun _ => True where
  init _ hw := ⟨trivial, hw, rfl⟩
  step w op v _ h := by
    cases h
    refine ⟨trivial, ?_⟩
    cases op with
    | increment delta now =>
      refine ⟨_, (exec_call w (.increment delta) now).trans ?_⟩
      cases hrun : w.mThreadsRun with
      | false => rw [SharedWakelock.apply, SharedWakelock.increment_stopped hrun]; rfl
      | true => rw [SharedWakelock.apply, SharedWakelock.increment_running hrun]; rfl
    | decrement delta timeoutStart =>
      refine ⟨_, (exec_call w (.decrement delta timeoutStart) 0).trans ?_⟩
      cases hrun : w.mThreadsRun with
      | false => rw [SharedWakelock.apply, SharedWakelock.decrement_stopped hrun]; rfl
      | true => rw [SharedWakelock.apply, SharedWakelock.decrement_running hrun]; rfl
    | reset now => exact ⟨[.reset now], rfl⟩
    | storeThreadsRun run => exact ⟨[.storeThreadsRun run], rfl⟩

/-! ## While the flag is cleared -/

/-- A step that is not a store to `mThreadsRun`. -/
def Step.KeepsFlag : Step → Prop
  | .storeThreadsRun _ => False
  | _ => True

/-- What the bodies among the steps change, from the last reset on: a decrement that carries a
time from before it does nothing. -/
def changes : Int → List Step → List Change
  | _, [] => []
  | resetTime, .body (.increment delta) _ :: ls => .take delta :: changes resetTime ls
  | resetTime, .body (.decrement delta timeoutStart) _ :: ls =>
    if timeoutStart ≠ -1 ∧ timeoutStart < resetTime then changes resetTime ls
    else .give delta :: changes resetTime ls
  | _, .reset now :: ls => changes now ls
  | resetTime, .test _ :: ls | resetTime, .storeThreadsRun _ :: ls => changes resetTime ls

/-- **One step** with the flag cleared: a body makes its change, and nothing else changes
anything. -/
theorem step_stopped (hstop : s.lock.mThreadsRun = false) {l : Step} (hl : l.KeepsFlag)
    (h : step s l = some t) (ls : List Step) :
    t.lock.mThreadsRun = false ∧
      t.lock.latch.after (changes t.lock.mWakelockTimeoutResetTime ls) =
        s.lock.latch.after (changes s.lock.mWakelockTimeoutResetTime (l :: ls)) := by
  cases l with
  | test call =>
    rw [step, hstop, if_neg (by decide)] at h
    cases h
    exact ⟨hstop, rfl⟩
  | body call now =>
    obtain ⟨-, ht⟩ := Option.ite_none_right_eq_some.mp h
    cases ht
    cases call with
    | increment delta => exact ⟨hstop, rfl⟩
    | decrement delta timeoutStart =>
      obtain ⟨hkeep, hreset⟩ := s.lock.decrementRefCount_keeps delta timeoutStart
      refine ⟨hkeep.trans hstop, ?_⟩
      rw [changes, SharedWakelock.body, hreset]
      by_cases hstale : timeoutStart ≠ -1 ∧ timeoutStart < s.lock.mWakelockTimeoutResetTime
      · rw [if_pos hstale, SharedWakelock.decrementRefCount_stale delta hstale.1 hstale.2]
      · rw [if_neg hstale]
        refine congrArg (Latch.after · _) ?_
        by_cases hzero : s.lock.mWakelockRefCount = 0
        · rw [SharedWakelock.decrementRefCount_of_zero hzero]
          exact (if_pos hzero).symm
        · rw [SharedWakelock.decrementRefCount_timely delta hstale (Nat.pos_of_ne_zero hzero)]
          exact (if_neg hzero).symm
  | reset now =>
    cases h
    rw [SharedWakelock.resetSharedWakelock, SharedWakelock.decrement_stopped hstop]
    exact ⟨hstop, rfl⟩
  | storeThreadsRun run => exact hl.elim

/-- **A run** with the flag cleared. -/
theorem exec_stopped (hstop : s.lock.mThreadsRun = false) {ls : List Step}
    (hls : ∀ l ∈ ls, l.KeepsFlag) (h : machine.exec s ls = some t) :
    t.lock.latch = s.lock.latch.after (changes s.lock.mWakelockTimeoutResetTime ls) := by
  induction ls generalizing s with
  | nil =>
    cases h
    rfl
  | cons l ls ih =>
    obtain ⟨r, hr, ht⟩ := StepMachine.exec_cons_eq_some.mp h
    obtain ⟨hl, hrest⟩ := List.forall_mem_cons.mp hls
    obtain ⟨hstop', hlatch⟩ := step_stopped hstop hl hr ls
    rw [← hlatch]
    exact ih hstop' hrest ht

/-! ## Stopping the threads -/

/-- The bodies that run in the course of `ls` give back all there was when the flag was cleared
and all they take, and leave the kernel lock released. -/
def Frees (w : SharedWakelock) (ls : List Step) : Prop :=
  Empties w.mWakelockRefCount (changes w.mWakelockTimeoutResetTime ls) ∧
    ¬ Lingers w.latch (changes w.mWakelockTimeoutResetTime ls)

theorem isReset_iff_latch {w : SharedWakelock} : w.IsReset ↔ w.latch = ⟨0, false⟩ := by
  simp [SharedWakelock.IsReset, SharedWakelock.latch]

/-- `stopThreads` clears the flag, and the wakelock thread resets the lock on its way out
(line 647), after whatever else still comes. -/
def stopThreads (ls : List Step) (exit : Int) : List Step :=
  .storeThreadsRun false :: (ls ++ [.reset exit])

/-- The reset in `initializeCommon` (line 222) comes after that. -/
def initializeCommon (before : List Step) (exit : Int) (after : List Step) (now : Int) :
    List Step :=
  stopThreads before exit ++ (after ++ [.reset now])

/-- The next session begins with the store to the flag (line 260). -/
def nextSession (before : List Step) (exit : Int) (after : List Step) (now : Int)
    (late : List Step) : List Step :=
  initializeCommon before exit after now ++ (late ++ [.storeThreadsRun true])

theorem isReset_cleared_iff {ls : List Step} (hls : ∀ l ∈ ls, l.KeepsFlag)
    (h : machine.exec s (.storeThreadsRun false :: ls) = some t) :
    t.lock.IsReset ↔ Frees s.lock ls := by
  obtain ⟨r, hr, ht⟩ := StepMachine.exec_cons_eq_some.mp h
  cases hr
  rw [isReset_iff_latch, exec_stopped rfl hls ht]
  exact free_iff

/-- A reset at the end leaves the bodies as they are. -/
theorem changes_append_reset (resetTime : Int) (ls : List Step) (now : Int) :
    changes resetTime (ls ++ [.reset now]) = changes resetTime ls := by
  fun_induction changes resetTime ls <;> simp_all [changes]

theorem frees_append_reset {w : SharedWakelock} {ls : List Step} {now : Int} :
    Frees w (ls ++ [.reset now]) ↔ Frees w ls := by
  rw [Frees, Frees, changes_append_reset]

theorem keepsFlag_append {ls ls' : List Step} (hls : ∀ l ∈ ls, l.KeepsFlag)
    (hls' : ∀ l ∈ ls', l.KeepsFlag) : ∀ l ∈ ls ++ ls', l.KeepsFlag :=
  List.forall_mem_append.mpr ⟨hls, hls'⟩

theorem keepsFlag_reset {ls : List Step} (hls : ∀ l ∈ ls, l.KeepsFlag) (now : Int) :
    ∀ l ∈ Step.reset now :: ls, l.KeepsFlag :=
  List.forall_mem_cons.mpr ⟨trivial, hls⟩

/-- With the flag cleared no call gets under way. -/
theorem changes_of_idle (hstop : s.lock.mThreadsRun = false) (hidle : s.underWay = [])
    {ls : List Step} (hls : ∀ l ∈ ls, l.KeepsFlag) (h : machine.exec s ls = some t)
    (resetTime : Int) : changes resetTime ls = [] := by
  induction ls generalizing s resetTime with
  | nil => rfl
  | cons l ls ih =>
    obtain ⟨r, hr, ht⟩ := StepMachine.exec_cons_eq_some.mp h
    obtain ⟨hl, hrest⟩ := List.forall_mem_cons.mp hls
    obtain ⟨hstop', -⟩ := step_stopped hstop hl hr ls
    cases l with
    | test call =>
      change some (if s.lock.mThreadsRun then _ else s) = some r at hr
      rw [hstop, if_neg (by decide)] at hr
      cases hr
      exact ih hstop hidle hrest ht resetTime
    | body call now =>
      obtain ⟨hmem, -⟩ := Option.ite_none_right_eq_some.mp hr
      rw [hidle] at hmem
      cases hmem
    | reset now =>
      cases hr
      exact ih hstop' hidle hrest ht now
    | storeThreadsRun run => exact hl.elim

/-- So if none is under way when the flag is cleared, the lock has to be free already. -/
theorem frees_of_idle {ls : List Step} (hidle : s.underWay = []) (hls : ∀ l ∈ ls, l.KeepsFlag)
    (h : machine.exec s (.storeThreadsRun false :: ls) = some t) :
    Frees s.lock ls ↔ s.lock.IsReset := by
  obtain ⟨r, hr, ht⟩ := StepMachine.exec_cons_eq_some.mp h
  cases hr
  have hnone := changes_of_idle (s := ⟨{ s.lock with mThreadsRun := false }, s.underWay⟩) rfl
    hidle hls ht s.lock.mWakelockTimeoutResetTime
  rw [Frees, hnone, isReset_iff_latch]
  exact (@free_iff s.lock.latch []).symm

/-- **When a reset resets.**  With the threads running it drops the references there are.  With
the threads stopped, as at the end of `handleWakelocks` and in `initializeCommon`, it does
nothing at all: after `stopThreads`, after the reset in `initializeCommon` and when the next
session begins, the lock is reset exactly if the calls that were past the test of the flag have
freed it. -/
theorem resets_iff (s : WakelockCalls) :
    (∀ now, (s.lock.resetSharedWakelock now).IsReset ↔
      (s.lock.mThreadsRun = true ∧ 0 < s.lock.mWakelockRefCount) ∨ s.lock.IsReset) ∧
    ∀ before : List Step, (∀ l ∈ before, l.KeepsFlag) → ∀ exit,
      (∀ t, machine.exec s (stopThreads before exit) = some t →
        (t.lock.IsReset ↔ Frees s.lock before)) ∧
      ∀ after : List Step, (∀ l ∈ after, l.KeepsFlag) → ∀ now,
        (∀ t, machine.exec s (initializeCommon before exit after now) = some t →
          (t.lock.IsReset ↔ Frees s.lock (before ++ .reset exit :: after))) ∧
        ∀ late : List Step, (∀ l ∈ late, l.KeepsFlag) → ∀ t,
          machine.exec s (nextSession before exit after now late) = some t →
          (t.lock.IsReset ↔ Frees s.lock (before ++ .reset exit :: (after ++ .reset now :: late))) := by
  refine ⟨s.lock.reset_isReset_iff, fun before hbefore exit => ⟨fun t h => ?_,
    fun after hafter now => ⟨fun t h => ?_, fun late hlate t h => ?_⟩⟩⟩
  · rw [← frees_append_reset]
    exact isReset_cleared_iff
      (keepsFlag_append hbefore (keepsFlag_reset (List.forall_mem_nil _) exit)) h
  · have hflat : initializeCommon before exit after now =
        .storeThreadsRun false :: ((before ++ .reset exit :: after) ++ [.reset now]) := by
      simp [initializeCommon, stopThreads]
    rw [hflat] at h
    rw [← frees_append_reset]
    exact isReset_cleared_iff (keepsFlag_append
      (keepsFlag_append hbefore (keepsFlag_reset hafter exit))
      (keepsFlag_reset (List.forall_mem_nil _) now)) h
  · have hflat : nextSession before exit after now late =
        (.storeThreadsRun false :: (before ++ .reset exit :: (after ++ .reset now :: late))) ++
          [.storeThreadsRun true] := by
      simp [nextSession, initializeCommon, stopThreads]
    rw [hflat, StepMachine.exec_append] at h
    obtain ⟨r, hr, ht⟩ := Option.bind_eq_some_iff.mp h
    rw [← isReset_cleared_iff (keepsFlag_append hbefore (keepsFlag_reset
      (keepsFlag_append hafter (keepsFlag_reset hlate now)) exit)) hr]
    cases ht
    rfl

/-- The threads run, nothing is held, and a post is about to take its reference. -/
def aboutToIncrement : WakelockCalls := ⟨.idle, [.increment 1]⟩

/-- An event has its reference, and the framework's acknowledgement is about to be counted. -/
def aboutToDecrement : WakelockCalls := ⟨⟨true, 1, 1, 0, true⟩, [.decrement 1 (-1)]⟩

/-- The reference of the post is left over, though there was none when the flag was cleared; the
acknowledgement frees the lock, though there was one. -/
theorem resets_iff_late :
    (∃ t, machine.exec aboutToIncrement (stopThreads [.body (.increment 1) 5] 6) = some t ∧
      ¬ t.lock.IsReset) ∧
    ∃ t, machine.exec aboutToDecrement (initializeCommon [] 5 [.body (.decrement 1 (-1)) 6] 7) =
      some t ∧ t.lock.IsReset := by
  have htaken : ¬ Frees aboutToIncrement.lock [.body (.increment 1) 5] :=
    fun h => absurd h.1 (by decide)
  have hgiven : Frees aboutToDecrement.lock ([] ++ .reset 5 :: [.body (.decrement 1 (-1)) 6]) := by
    refine ⟨by decide, ?_⟩
    rintro (⟨hzero, -⟩ | ⟨before, rest, hsplit, -⟩)
    · exact absurd hzero (by decide)
    · have hmem : Change.take 0 ∈ before ++ Change.take 0 :: rest := by simp
      rw [← hsplit] at hmem
      exact absurd hmem (by decide)
  refine ⟨⟨_, rfl, fun h => htaken ?_⟩, ⟨_, rfl, ?_⟩⟩
  · exact (((resets_iff aboutToIncrement).2 _ (by simp [Step.KeepsFlag]) 6).1 _ rfl).mp h
  · exact ((((resets_iff aboutToDecrement).2 [] nofun 5).2 _ (by simp [Step.KeepsFlag]) 7).1 _
      rfl).mpr hgiven

/-- One unacknowledged wake-up event survives the next `initialize`. -/
theorem reset_leaves_reference :
    ¬ ∀ s, machine.Reachable s → ∀ now, (s.lock.resetSharedWakelock now).IsReset := by
  intro h
  have hrun : machine.exec ⟨.idle, []⟩ [.test (.increment 1), .body (.increment 1) 1,
      .storeThreadsRun false] = some ⟨⟨false, 1, 1, 0, true⟩, []⟩ := by
    decide
  have hinit : machine.init ⟨.idle, []⟩ := ⟨SharedWakelock.idle_init, rfl⟩
  exact absurd (h _ (StepMachine.Reachable.exec (.init hinit) hrun) 2).1 (by decide)

end WakelockCalls
end SensorsHal
