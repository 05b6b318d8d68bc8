import Sm8150Common.WakelockDeadline
import Sm8150Common.Library.Progress

/-! # The wakelock is let go

A framework that dies or forgets to acknowledge wake-up events must not keep the device awake.
`handleWakelocks` sees to that (`HalProxy.cpp`, lines 625–666): once `kWakelockTimeoutNs` has
passed since the last reference was taken, the thread drops all references.

`releases` is the liveness of this: from then on, and until a reference is taken again, the
thread needs at most four steps to release the kernel lock, whatever acknowledgements and
give-backs come in between, and it can take them without any acknowledgement. -/
namespace SensorsHal

/-- References are given back, and nothing else happens to the lock. -/
structure SharedWakelock.GivesBack (w w' : SharedWakelock) : Prop where
  run : w'.mThreadsRun = w.mThreadsRun
  start : w'.mWakelockTimeoutStartTime = w.mWakelockTimeoutStartTime
  count : w'.mWakelockRefCount ≤ w.mWakelockRefCount
  lock : (w.kernelWakelock = true ↔ 0 < w.mWakelockRefCount) →
    (w'.kernelWakelock = true ↔ 0 < w'.mWakelockRefCount)

namespace SharedWakelock
variable {w : SharedWakelock}

theorem givesBack_refl (w : SharedWakelock) : GivesBack w w := ⟨rfl, rfl, Nat.le_refl _, id⟩

theorem givesBack_decrement (hrun : w.mThreadsRun = true) (delta : Nat) (timeoutStart : Int) :
    GivesBack w (w.decrementRefCountAndMaybeReleaseWakelock delta timeoutStart) := by
  rw [decrement_running hrun]
  rcases w.decrementRefCount_cases delta timeoutStart with h | h
  · rw [h]
    exact givesBack_refl w
  · rw [h]
    refine ⟨rfl, rfl, Nat.sub_le _ _, fun hlock => ?_⟩
    dsimp only
    by_cases hzero : w.mWakelockRefCount - delta = 0
    · rw [if_pos hzero, hzero]
      simp
    · rw [if_neg hzero, hlock]
      omega

theorem givesBack_reset (hrun : w.mThreadsRun = true) (now : Int) :
    GivesBack w (w.resetSharedWakelock now) := by
  obtain ⟨hkeep, hstart, hcount, hlock⟩ := givesBack_decrement hrun w.mWakelockRefCount (-1)
  exact ⟨hkeep, hstart, hcount, hlock⟩

theorem count_reset (hrun : w.mThreadsRun = true) (now : Int) :
    (w.resetSharedWakelock now).mWakelockRefCount = 0 := by
  show (w.decrementRefCountAndMaybeReleaseWakelock _ _).mWakelockRefCount = 0
  by_cases hzero : w.mWakelockRefCount = 0
  · rw [decrement_of_zero hzero]
    exact hzero
  · rw [decrement_untimed hrun _ (Nat.pos_of_ne_zero hzero)]
    exact Nat.sub_self _

end SharedWakelock

/-- How many steps the thread is away from the reset. -/
def WakelockPc.stepsToReset : WakelockPc → Nat
  | .exited => 0
  | .passed => 1
  | .waiting => 2
  | .loop => 3
  | .reading .. => 4

namespace WakelockThread
variable {timeout : WakelockTimeout} {s t : WakelockThread}

/-! ## The deadline of a read -/

/-- The time the lock times out from moves forward only. -/
theorem startTime_le {l : WakelockStep} (h : step timeout s l = some t)
    (hstart : s.wakelock.mWakelockTimeoutStartTime ≤ s.clock) :
    s.wakelock.mWakelockTimeoutStartTime ≤ t.wakelock.mWakelockTimeoutStartTime := by
  have happly : ∀ op : SharedWakelock.Op, (∀ now ∈ op.now, s.clock ≤ now) →
      s.wakelock.mWakelockTimeoutStartTime ≤
        (s.wakelock.apply op).mWakelockTimeoutStartTime := by
    intro op hop
    rcases s.wakelock.apply_startTime op with heq | ⟨now, hmem, heq⟩
    · omega
    · have hnow := hop now hmem
      omega
  cases l with
  | elapse ns =>
    cases h
    exact Int.le_refl _
  | operation op =>
    obtain ⟨⟨-, hnow⟩, ht⟩ := Option.ite_none_right_eq_some.mp h
    cases ht
    exact happly op fun now hmem => Int.le_of_eq (hnow now hmem).symm
  | startWakelockThread =>
    obtain ⟨-, ht⟩ := Option.ite_none_right_eq_some.mp h
    cases ht
    exact Int.le_refl _
  | test =>
    obtain ⟨-, ht⟩ := Option.ite_none_right_eq_some.mp h
    split at ht
    · cases ht
      exact Int.le_refl _
    · cases ht
      refine happly (.reset s.clock) ?_
      rintro now ⟨⟩
      exact Int.le_refl _
  | wake =>
    obtain ⟨-, ht⟩ := Option.ite_none_right_eq_some.mp h
    cases ht
    exact Int.le_refl _
  | iterate took =>
    rcases iterate_cases h with ⟨-, rfl⟩ | ⟨-, timeLeft, -, rfl⟩ | rfl
    · refine happly (.reset (s.clock + took)) ?_
      rintro now ⟨⟩
      omega
    · exact Int.le_refl _
    · exact Int.le_refl _
  | readBlocking read =>
    rcases readBlocking_cases h with ⟨numWakeLocksProcessed, rfl⟩ | rfl
    · exact happly (.decrement numWakeLocksProcessed (-1)) nofun
    · exact Int.le_refl _

/-- A read is over when the lock times out; a reference that is taken meanwhile only moves this
to a later time. -/
theorem reading_deadline (h : (machine timeout).Reachable s) {since timeLeft : Int}
    (hpc : s.pc = .reading since timeLeft) :
    since + timeLeft ≤ s.wakelock.mWakelockTimeoutStartTime + timeout.kWakelockTimeoutNs := by
  induction h generalizing since timeLeft with
  | init hinit =>
    obtain ⟨-, -, -, hexited⟩ := hinit
    rw [hexited] at hpc
    cases hpc
  | step hs _ ht ih =>
    have hforward := startTime_le ht (simulation.reachable hs).1
    rcases step_reading ht hpc with hbefore | ⟨took, rfl, -, rfl, htimeout⟩
    · have hdeadline := ih hbefore
      omega
    · obtain ⟨-, hleft⟩ := SharedWakelock.sharedWakelockDidTimeout_eq_some htimeout
      omega

/-! ## The thread after the timeout -/

/-- A step of the thread. -/
def isThread : WakelockStep → Bool
  | .test | .wake | .iterate _ | .readBlocking _ => true
  | .elapse _ | .operation _ | .startWakelockThread => false

/-- One that the framework has no part in: a read comes back because its timeout is over. -/
def isUnaided : WakelockStep → Bool
  | .readBlocking (some _) => false
  | l => isThread l

theorem isThread_of_isUnaided {l : WakelockStep} (h : isUnaided l = true) : isThread l = true := by
  cases l with
  | readBlocking read => rfl
  | test | wake | iterate | elapse | operation | startWakelockThread => exact h

/-- Time passes, or other threads give references back or reset the lock. -/
def Quiet (_ : WakelockThread) : WakelockStep → Prop
  | .elapse _ | .operation (.decrement ..) | .operation (.reset _) => True
  | _ => False

/-- Nothing is referenced any more. -/
def Unreferenced (s : WakelockThread) : Prop := s.wakelock.mWakelockRefCount = 0

/-- The thread runs, and the lock has timed out; a read is over. -/
structure Overdue (timeout : WakelockTimeout) (s : WakelockThread) : Prop where
  run : s.wakelock.mThreadsRun = true
  started : s.pc ≠ .exited
  late : s.wakelock.mWakelockTimeoutStartTime + timeout.kWakelockTimeoutNs < s.clock
  read : ∀ since timeLeft, s.pc = .reading since timeLeft →
    timeLeft ≠ 0 ∧ since + timeLeft ≤ s.clock
  lock : s.wakelock.kernelWakelock = true ↔ 0 < s.wakelock.mWakelockRefCount

def stepsToReset (s : WakelockThread) : Nat :=
  if s.wakelock.mWakelockRefCount = 0 then 0 else s.pc.stepsToReset

theorem stepsToReset_le (s : WakelockThread) : s.stepsToReset ≤ 4 := by
  unfold stepsToReset
  split
  · omega
  · cases s.pc <;> simp [WakelockPc.stepsToReset]

theorem stepsToReset_le_pc (s : WakelockThread) : s.stepsToReset ≤ s.pc.stepsToReset := by
  unfold stepsToReset
  split
  · exact Nat.zero_le _
  · exact Nat.le_refl _

theorem stepsToReset_of_pos (hpos : ¬ Unreferenced s) : s.stepsToReset = s.pc.stepsToReset :=
  if_neg hpos

/-- With fewer references the thread is not further away. -/
theorem stepsToReset_mono {w : SharedWakelock}
    (hcount : w.mWakelockRefCount ≤ s.wakelock.mWakelockRefCount) (clock : Int) :
    stepsToReset ⟨w, clock, s.pc⟩ ≤ s.stepsToReset := by
  unfold stepsToReset
  dsimp only
  by_cases hzero : w.mWakelockRefCount = 0
  · rw [if_pos hzero]
    exact Nat.zero_le _
  · have hpos : ¬ s.wakelock.mWakelockRefCount = 0 := by omega
    exact Nat.le_of_eq ((if_neg hzero).trans (if_neg hpos).symm)

/-- Other threads and the clock leave the lock overdue. -/
theorem Overdue.of_givesBack (hs : Overdue timeout s) {w : SharedWakelock}
    (hw : SharedWakelock.GivesBack s.wakelock w) {clock : Int} (hclock : s.clock ≤ clock) :
    Overdue timeout ⟨w, clock, s.pc⟩ where
  run := hw.run.trans hs.run
  started := hs.started
  late := by
    have hlate := hs.late
    have hstart := hw.start
    dsimp only
    omega
  read since timeLeft hpc := by
    obtain ⟨hne, hover⟩ := hs.read since timeLeft hpc
    exact ⟨hne, Int.le_trans hover hclock⟩
  lock := hw.lock hs.lock

/-- So does the thread, on its way. -/
theorem Overdue.of_pc (hs : Overdue timeout s) {pc : WakelockPc}
    (hpc : pc = .loop ∨ pc = .waiting ∨ pc = .passed) : Overdue timeout { s with pc := pc } := by
  refine ⟨hs.run, ?_, hs.late, ?_, hs.lock⟩
  · rcases hpc with rfl | rfl | rfl <;> intro hexited <;> cases hexited
  · intro since timeLeft hread
    rcases hpc with rfl | rfl | rfl <;> cases hread

theorem overdue_quiet (hs : Overdue timeout s) {l : WakelockStep} (hquiet : Quiet s l)
    (h : step timeout s l = some t) : Overdue timeout t ∧ t.stepsToReset ≤ s.stepsToReset := by
  have hgives : ∀ {w : SharedWakelock}, SharedWakelock.GivesBack s.wakelock w →
      ∀ {clock : Int}, s.clock ≤ clock →
        Overdue timeout ⟨w, clock, s.pc⟩ ∧ stepsToReset ⟨w, clock, s.pc⟩ ≤ s.stepsToReset :=
    fun hw _ hclock => ⟨hs.of_givesBack hw hclock, stepsToReset_mono hw.count _⟩
  cases l with
  | elapse ns =>
    cases h
    exact hgives (SharedWakelock.givesBack_refl _) (Int.le_add_of_nonneg_right (Int.natCast_nonneg ns))
  | operation op =>
    obtain ⟨-, ht⟩ := Option.ite_none_right_eq_some.mp h
    cases ht
    cases op with
    | decrement delta timeoutStart =>
      exact hgives (SharedWakelock.givesBack_decrement hs.run delta timeoutStart) (Int.le_refl _)
    | reset now => exact hgives (SharedWakelock.givesBack_reset hs.run now) (Int.le_refl _)
    | increment | storeThreadsRun => cases hquiet
  | startWakelockThread | test | wake | iterate | readBlocking => cases hquiet

/-- A step of the thread brings it nearer to the reset, or is the reset. -/
theorem overdue_thread (hs : Overdue timeout s) (hpos : ¬ Unreferenced s) {l : WakelockStep}
    (hthread : isThread l = true) (h : step timeout s l = some t) :
    Overdue timeout t ∧ t.stepsToReset < s.stepsToReset := by
  have hnearer : ∀ {t : WakelockThread}, t.pc.stepsToReset < s.pc.stepsToReset →
      t.stepsToReset < s.stepsToReset := by
    intro t hlt
    have hle := t.stepsToReset_le_pc
    rw [stepsToReset_of_pos hpos]
    omega
  cases l with
  | test =>
    obtain ⟨hpc, ht⟩ := Option.ite_none_right_eq_some.mp h
    rw [if_pos hs.run] at ht
    cases ht
    refine ⟨hs.of_pc (Or.inr (Or.inl rfl)), hnearer ?_⟩
    show WakelockPc.waiting.stepsToReset < s.pc.stepsToReset
    rw [hpc]
    decide
  | wake =>
    obtain ⟨⟨hpc, -⟩, ht⟩ := Option.ite_none_right_eq_some.mp h
    cases ht
    refine ⟨hs.of_pc (Or.inr (Or.inr rfl)), hnearer ?_⟩
    show WakelockPc.passed.stepsToReset < s.pc.stepsToReset
    rw [hpc]
    decide
  | iterate took =>
    obtain ⟨hpc, ht⟩ := Option.ite_none_right_eq_some.mp h
    -- the lock has timed out, so it is reset
    have hlate : s.wakelock.sharedWakelockDidTimeout timeout s.clock = none :=
      SharedWakelock.sharedWakelockDidTimeout_eq_none.mpr (by have := hs.late; omega)
    rw [if_pos hs.run, SharedWakelock.iteration, hlate] at ht
    cases ht
    have hreset := hs.of_givesBack (SharedWakelock.givesBack_reset hs.run (s.clock + took))
      (Int.le_add_of_nonneg_right (Int.natCast_nonneg took))
    refine ⟨hreset.of_pc (Or.inl rfl), ?_⟩
    rw [stepsToReset_of_pos hpos, hpc, stepsToReset]
    dsimp only
    rw [if_pos (SharedWakelock.count_reset hs.run _)]
    decide
  | readBlocking read =>
    have hpc : s.pc.stepsToReset = 4 := by
      dsimp only [step, readBlocking] at h
      split at h
      · rename_i hpc
        rw [hpc]
        rfl
      · cases h
    -- whatever is read, the thread goes back to its loop with no more references
    have hback : ∀ {w : SharedWakelock}, SharedWakelock.GivesBack s.wakelock w →
        Overdue timeout ⟨w, s.clock, .loop⟩ ∧ stepsToReset ⟨w, s.clock, .loop⟩ < s.stepsToReset := by
      intro w hw
      refine ⟨(hs.of_givesBack hw (Int.le_refl _)).of_pc (Or.inl rfl), hnearer ?_⟩
      show WakelockPc.loop.stepsToReset < s.pc.stepsToReset
      rw [hpc]
      decide
    rcases readBlocking_cases h with ⟨numWakeLocksProcessed, rfl⟩ | rfl
    · exact hback (SharedWakelock.givesBack_decrement hs.run numWakeLocksProcessed (-1))
    · exact hback (SharedWakelock.givesBack_refl _)
  | elapse | operation | startWakelockThread => cases hthread

/-- While there is a reference, the thread can go on by itself. -/
theorem overdue_enabled (hs : Overdue timeout s) (hpos : ¬ Unreferenced s) :
    ∃ l t, isUnaided l = true ∧ step timeout s l = some t := by
  obtain ⟨w, clock, pc⟩ := s
  cases pc with
  | exited => exact absurd rfl hs.started
  | loop =>
    refine ⟨.test, ⟨w, clock, .waiting⟩, rfl, ?_⟩
    rw [step, if_pos rfl, if_pos hs.run]
  | waiting => exact ⟨.wake, _, rfl, if_pos ⟨rfl, Or.inl (Nat.pos_of_ne_zero hpos)⟩⟩
  | passed =>
    have hlate : w.sharedWakelockDidTimeout timeout clock = none :=
      SharedWakelock.sharedWakelockDidTimeout_eq_none.mpr (by have := hs.late; dsimp only at this; omega)
    refine ⟨.iterate 0, ⟨w.resetSharedWakelock (clock + (0 : Nat)), clock + (0 : Nat), .loop⟩, rfl, ?_⟩
    rw [step, iterate, if_pos rfl, if_pos hs.run, SharedWakelock.iteration, hlate]
  | reading since timeLeft => exact ⟨.readBlocking none, _, rfl, if_pos (hs.read since timeLeft rfl)⟩

theorem ranked : StepMachine.Ranked (machine timeout) (Overdue timeout) isThread Quiet
    stepsToReset Unreferenced where
  lowers _ _ _ hs hpos hthread h := overdue_thread hs hpos hthread h
  waits _ _ _ hs _ hquiet h := overdue_quiet hs hquiet h
  enabled _ hs hpos := by
    obtain ⟨l, t, hunaided, h⟩ := overdue_enabled hs hpos
    exact ⟨l, t, isThread_of_isUnaided hunaided, h⟩

/-- The thread gets to the reset by itself. -/
theorem exists_unaided (hs : Overdue timeout s) :
    ∃ ls t, (machine timeout).exec s ls = some t ∧ Overdue timeout t ∧ Unreferenced t ∧
      ∀ l ∈ ls, isUnaided l = true := by
  have hlowers : ∀ s l t, Overdue timeout s → (¬ Unreferenced s ∧ isUnaided l = true) →
      (machine timeout).step s l = some t → Overdue timeout t ∧ t.stepsToReset < s.stepsToReset :=
    fun _ _ _ hs hl h => overdue_thread hs hl.1 (isThread_of_isUnaided hl.2) h
  have henabled : ∀ s, Overdue timeout s → ¬ Unreferenced s →
      ∃ l t, (¬ Unreferenced s ∧ isUnaided l = true) ∧ (machine timeout).step s l = some t := by
    intro s hs hpos
    obtain ⟨l, t, hunaided, h⟩ := overdue_enabled hs hpos
    exact ⟨l, t, ⟨hpos, hunaided⟩, h⟩
  obtain ⟨ls, t, halong, hexec, ht, hzero⟩ :=
    StepMachine.exists_exec_settled hlowers henabled hs
  exact ⟨ls, t, hexec, ht, hzero,
    (StepMachine.along_iff_forall hexec).mp (halong.imp fun _ _ hl => hl.2)⟩

/-- **The kernel lock is let go.**  Take any run whose iterations miss the very end of the time,
and any state of it in which the thread runs, a reference is held and the lock has timed out.
Until a reference is taken again, the thread takes at most four steps before nothing is
referenced, however others give references back or reset the lock; where it cannot take a step
unless the framework acknowledges something, the kernel lock has been released; and there is a
run of such steps to that point. -/
theorem releases (h : (machine timeout).ReachableBy (MissesDeadline timeout) s)
    (hrun : s.wakelock.mThreadsRun = true) (hstarted : s.pc ≠ .exited)
    (hpos : 0 < s.wakelock.mWakelockRefCount)
    (hlate : s.wakelock.mWakelockTimeoutStartTime + timeout.kWakelockTimeoutNs < s.clock) :
    (∀ ls t, (machine timeout).Along (StepMachine.Working isThread Quiet Unreferenced) s ls →
      (machine timeout).exec s ls = some t → ls.countP isThread ≤ 4 ∧
        (Unreferenced t → t.wakelock.kernelWakelock = false) ∧
        ((∀ l r, isUnaided l = true → (machine timeout).step t l ≠ some r) → Unreferenced t)) ∧
    ∃ ls t, (machine timeout).exec s ls = some t ∧ Unreferenced t ∧
      t.wakelock.kernelWakelock = false ∧ ∀ l ∈ ls, isUnaided l = true := by
  have hs : Overdue timeout s := by
    refine ⟨hrun, hstarted, hlate, fun since timeLeft hpc => ?_, ?_⟩
    · -- a read that is under way is over when the lock times out
      obtain ⟨-, hleft, -⟩ := reading_timeLeft h hpc
      have hdeadline := reading_deadline h.reachable hpc
      omega
    · exact ⟨fun _ => hpos, SharedWakelock.held_of_positive (simulation.reachable h.reachable).2⟩
  have hreleased : ∀ {t : WakelockThread}, Overdue timeout t → Unreferenced t →
      t.wakelock.kernelWakelock = false := by
    intro t ht hzero
    rw [← Bool.not_eq_true, ht.lock, hzero]
    exact Nat.lt_irrefl 0
  refine ⟨fun ls t halong hexec => ?_, ?_⟩
  · obtain ⟨ht, hle⟩ := ranked.count_le hs halong hexec
    have hfour := s.stepsToReset_le
    refine ⟨by omega, hreleased ht, fun hstuck => ?_⟩
    apply Classical.byContradiction
    intro hpos
    obtain ⟨l, r, hunaided, hstep⟩ := overdue_enabled ht hpos
    exact hstuck l r hunaided hstep
  · obtain ⟨ls, t, hexec, ht, hzero, hall⟩ := exists_unaided hs
    exact ⟨ls, t, hexec, hzero, hreleased ht hzero, hall⟩

/-- A wake-up event is posted at 5 and never acknowledged: a second later the thread lets go by
itself. -/
theorem releases_example : ∃ s : WakelockThread, s.pc = .reading 400000005 600000000 ∧
    ∃ ls t, (machine .oneSecond).exec s ls = some t ∧ Unreferenced t ∧
      t.wakelock.kernelWakelock = false ∧ ∀ l ∈ ls, isUnaided l = true := by
  have hrun : (machine .oneSecond).exec started [.startWakelockThread, .test, .elapse 5,
      .operation (.increment 1 5), .wake, .elapse 400000000, .iterate 0, .elapse 600000001] =
      some ⟨⟨true, 1, 5, 0, true⟩, 1000000006, .reading 400000005 600000000⟩ := by
    decide +kernel
  have hreach : (machine .oneSecond).ReachableBy (MissesDeadline .oneSecond) _ :=
    StepMachine.ReachableBy.exec (.init started_init) hrun (by decide +kernel)
  exact ⟨_, rfl, (releases hreach rfl nofun (by decide) (by decide)).2⟩

end WakelockThread
end SensorsHal
