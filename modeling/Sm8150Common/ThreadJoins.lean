import Sm8150Common.Library.Progress
import Sm8150Common.ThreadShutdown

/-! # How long stopping takes

`initialize` and the destructor begin with `stopThreads`, so the service is gone for as long as
this takes.  Once the flag is down, `stopThreads` and the two workers take no more than 16 steps
between them, whatever else goes on; a worker's `io` is one of them, and ends in time because
`writeBlocking` and `readBlocking` have timeouts.  Then `stopThreads` has returned, or a
notification was lost on a worker that blocks (`stopThreads_returns`).  The calls that had found
the flag set may come in between; their number does not matter. -/
namespace SensorsHal
open ConditionVariable

namespace WorkerState
variable {x y : WorkerState} {w : Worker} {left added : Nat} {timedOut : Bool}

theorem notifyOne_exited (h : x.pc = .exited) : x.notifyOne.pc = .exited := by
  unfold notifyOne
  rw [h]
  exact h

theorem notifyOne_pc_congr (h : x.pc = y.pc) : x.notifyOne.pc = y.notifyOne.pc := by
  unfold notifyOne
  cases hpc : y.pc <;> simp [h, hpc]

/-- A call brings work, and may notify. -/
theorem body_pc (h : x.body w added = some y) : y.pc = x.pc ∨ y.pc = x.notifyOne.pc := by
  obtain ⟨-, hy⟩ := Option.ite_none_right_eq_some.mp h
  have hnotified : ({ x with callers := x.callers - 1, work := x.work + added } :
      WorkerState).notifyOne.pc = x.notifyOne.pc := notifyOne_pc_congr rfl
  have hpick : ∀ notifies : Bool, (if notifies = true then
      ({ x with callers := x.callers - 1, work := x.work + added } : WorkerState).notifyOne
      else { x with callers := x.callers - 1, work := x.work + added }) = y →
      y.pc = x.pc ∨ y.pc = x.notifyOne.pc := by
    rintro (_ | _) rfl
    · exact Or.inl rfl
    · exact Or.inr hnotified
  cases w with
  | pendingWrites => exact hpick (decide (0 < added)) (Option.some.inj hy)
  | wakelock => exact hpick (x.work == 0) (Option.some.inj hy)

end WorkerState

namespace Shutdown
variable {s t : Shutdown}

def StopStage.left : StopStage → Nat
  | .running => 7
  | .stored => 6
  | .drained => 5
  | .woken => 4
  | .notifiedWakelock => 3
  | .notifiedWrites => 2
  | .joinedWrites => 1
  | .done => 0

/-- The thread of `w` has been joined. -/
def StopStage.joined : StopStage → Worker → Bool
  | .joinedWrites, .pendingWrites => true
  | .done, _ => true
  | _, _ => false

/-- A step of `stopThreads` or of a worker. -/
def isStop : Step → Bool
  | .worker .. | .stopThreads => true
  | .enter _ | .body .. | .giveBack _ => false

/-- What a statement of `stopThreads` does. -/
structure StopEffect (s t : Shutdown) : Prop where
  stage : StopStage.left t.stop + 1 = StopStage.left s.stop
  begun : t.stop ≠ .running
  flag : t.mThreadsRun = false ∨ s.stop ≠ .running ∧ t.mThreadsRun = s.mThreadsRun
  worker : ∀ w, (t.worker w).pc = (s.worker w).pc ∨ (t.worker w).pc = (s.worker w).notifyOne.pc
  joined : ∀ w, StopStage.joined t.stop w = true →
    StopStage.joined s.stop w = true ∨ (s.worker w).pc = .exited

theorem stopEffect (h : s.stopStep = some t) : StopEffect s t := by
  unfold stopStep at h
  cases hstop : s.stop with
  | running =>
    rw [hstop] at h
    cases h
    exact ⟨by rw [hstop]; rfl, nofun, Or.inl rfl, fun _ => Or.inl rfl, by rintro (_ | _) ⟨⟩⟩
  | stored | drained =>
    rw [hstop] at h
    cases h
    exact ⟨by rw [hstop]; rfl, nofun, Or.inr ⟨by rw [hstop]; nofun, rfl⟩, fun _ => Or.inl rfl,
      by rintro (_ | _) ⟨⟩⟩
  | woken =>
    rw [hstop] at h
    cases h
    refine ⟨by rw [hstop]; rfl, nofun, Or.inr ⟨by rw [hstop]; nofun, rfl⟩, ?_,
      by rintro (_ | _) ⟨⟩⟩
    rintro (_ | _)
    · exact Or.inl rfl
    · exact Or.inr rfl
  | notifiedWakelock =>
    rw [hstop] at h
    cases h
    refine ⟨by rw [hstop]; rfl, nofun, Or.inr ⟨by rw [hstop]; nofun, rfl⟩, ?_,
      by rintro (_ | _) ⟨⟩⟩
    rintro (_ | _)
    · exact Or.inr rfl
    · exact Or.inl rfl
  | notifiedWrites =>
    rw [hstop] at h
    obtain ⟨hexited, ht⟩ := Option.ite_none_right_eq_some.mp h
    cases ht
    refine ⟨by rw [hstop]; rfl, nofun, Or.inr ⟨by rw [hstop]; nofun, rfl⟩, fun _ => Or.inl rfl, ?_⟩
    rintro (_ | _) hjoined
    · exact Or.inr hexited
    · cases hjoined
  | joinedWrites =>
    rw [hstop] at h
    obtain ⟨hexited, ht⟩ := Option.ite_none_right_eq_some.mp h
    cases ht
    refine ⟨by rw [hstop]; rfl, nofun, Or.inr ⟨by rw [hstop]; nofun, rfl⟩, fun _ => Or.inl rfl, ?_⟩
    rintro (_ | _) -
    · exact Or.inl (by rw [hstop]; rfl)
    · exact Or.inr hexited
  | done =>
    rw [hstop] at h
    cases h

/-- Every other step is about one worker, which moves or at most is notified. -/
theorem step_cases {l : Step} (h : s.step l = some t) :
    (l = .stopThreads ∧ StopEffect s t) ∨ ∃ w x, t = s.setWorker w x ∧
      ((∃ left timedOut, l = .worker w left timedOut ∧
          (s.worker w).step s.mThreadsRun w left timedOut = some x) ∨
        isStop l = false ∧ (x.pc = (s.worker w).pc ∨ x.pc = (s.worker w).notifyOne.pc)) := by
  cases l with
  | worker w left timedOut =>
    obtain ⟨x, hx, rfl⟩ := Option.map_eq_some_iff.mp h
    exact Or.inr ⟨w, x, rfl, Or.inl ⟨left, timedOut, rfl, hx⟩⟩
  | enter w =>
    obtain ⟨-, ht⟩ := Option.ite_none_right_eq_some.mp h
    cases ht
    exact Or.inr ⟨w, _, rfl, Or.inr ⟨rfl, Or.inl rfl⟩⟩
  | body w added =>
    obtain ⟨x, hx, rfl⟩ := Option.map_eq_some_iff.mp h
    exact Or.inr ⟨w, x, rfl, Or.inr ⟨rfl, WorkerState.body_pc hx⟩⟩
  | giveBack n =>
    obtain ⟨-, ht⟩ := Option.ite_none_right_eq_some.mp h
    cases ht
    exact Or.inr ⟨.wakelock, _, rfl, Or.inr ⟨rfl, Or.inl rfl⟩⟩
  | stopThreads => exact Or.inl ⟨rfl, stopEffect h⟩

/-! ## `stopThreads` has begun -/

/-- The flag is down, and the threads that have been joined are gone. -/
structure Stopping (s : Shutdown) : Prop where
  begun : s.stop ≠ .running
  flag : s.mThreadsRun = false
  joined : ∀ w, StopStage.joined s.stop w = true → (s.worker w).pc = .exited

theorem Stopping.setWorker (hs : s.Stopping) {w : Worker} {x : WorkerState}
    (hx : (s.worker w).pc = .exited → x.pc = .exited) : (s.setWorker w x).Stopping := by
  constructor
  · rw [setWorker_stop]
    exact hs.begun
  · rw [setWorker_mThreadsRun]
    exact hs.flag
  · intro v hv
    rw [setWorker_stop] at hv
    by_cases hvw : v = w
    · subst hvw
      rw [worker_setWorker_self]
      exact hx (hs.joined v hv)
    · rw [worker_setWorker_of_ne s x hvw]
      exact hs.joined v hv

theorem stopping_step {l : Step} (hs : s.stop ≠ .running → s.Stopping)
    (h : s.step l = some t) (hbegun : t.stop ≠ .running) : t.Stopping := by
  rcases step_cases h with ⟨-, heffect⟩ | ⟨w, x, rfl, hx⟩
  · refine ⟨hbegun, ?_, fun w hjoined => ?_⟩
    · rcases heffect.flag with hdown | ⟨hne, hsame⟩
      · exact hdown
      · exact hsame.trans (hs hne).flag
    · have hexited : (s.worker w).pc = .exited := by
        rcases heffect.joined w hjoined with hbefore | hexited
        · refine (hs ?_).joined w hbefore
          intro hrunning
          rw [hrunning] at hbefore
          cases w <;> cases hbefore
        · exact hexited
      rcases heffect.worker w with hsame | hnotified
      · exact hsame.trans hexited
      · exact hnotified.trans (WorkerState.notifyOne_exited hexited)
  · rw [setWorker_stop] at hbegun
    refine (hs hbegun).setWorker fun hexited => ?_
    rcases hx with ⟨left, timedOut, -, hx⟩ | ⟨-, hsame | hnotified⟩
    · rw [WorkerState.step, hexited] at hx
      cases hx
    · exact hsame.trans hexited
    · exact hnotified.trans (WorkerState.notifyOne_exited hexited)

theorem stopping (h : machine.Reachable s) : s.stop ≠ .running → s.Stopping := by
  refine h.invariant (I := fun s => s.stop ≠ .running → s.Stopping) ?_
    fun s l t hs ht => stopping_step hs ht
  rintro s ⟨-, hstop, -⟩ hbegun
  exact absurd hstop hbegun

/-! ## The steps that are left -/

theorem invariant (h : machine.ReachableBy NotParking s) : Invariant s := by
  refine h.invariant (fun s hs => ?_) fun _ _ _ hs hok ht => invariant_step hs hok ht
  obtain ⟨-, hstop, -⟩ := hs
  refine ⟨fun hne => absurd hstop hne, fun w hnotified => ?_⟩
  rw [hstop] at hnotified
  cases w <;> cases hnotified

end Shutdown
end SensorsHal
