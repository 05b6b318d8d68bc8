import Mathlib.Data.List.Count
import Sm8150Common.SharedWakelock

/-! # References and the timeout reset

Each timeout reset of the shared wakelock starts a new generation of references.
The ledger below runs the lock of `SharedWakelock` and keeps, as ghost state,
the references that have been taken and not yet given back, each with its
generation: those of live `ScopedWakelock` objects, with their creation time,
and those of wake-up events.

A `ScopedWakelock` gives back its reference with its creation time, so that the
lock can tell a reference from before the last reset.  An acknowledgement
(`handleWakelocks`) and a pending write that fails (`handlePendingWrites`) carry
no time and count against whatever is there. -/
namespace SensorsHal

/-- The reference of a live `ScopedWakelock`. -/
structure ScopedRef where
  createdAtTimeNs : Int
  generation : Nat
  deriving DecidableEq, Repr

/-- The lock, and the references that have been taken and not given back. -/
structure ReferenceLedger where
  wakelock : SharedWakelock
  /-- The last reading of the clock. -/
  clock : Int
  /-- The number of timeout resets so far. -/
  generation : Nat
  scopedRefs : List ScopedRef
  /-- The generations of the references held by wake-up events. -/
  events : List Nat
  deriving DecidableEq, Repr

namespace ReferenceLedger

/-- What happens to the lock while the threads run.  `given` are the references,
by generation, whose events an acknowledgement or a failed write is about. -/
inductive Step
  | createScopedWakelock (now : Int)
  | destroyScopedWakelock (ref : ScopedRef)
  | post (numWakeupEvents : Nat) (now : Int)
  | acknowledge (given : List Nat)
  | failPendingWrite (delta : Nat) (given : List Nat)
  | timeout (now reset : Int)
  deriving DecidableEq, Repr

/-- The references `given` are among those of the events. -/
def Covers (events given : List Nat) : Prop := ∀ g ∈ given, given.count g ≤ events.count g

instance (events given : List Nat) : Decidable (Covers events given) :=
  inferInstanceAs (Decidable (∀ g ∈ given, _))

/-- Events give back `given`, and the lock is decremented by `delta`, with no
time. -/
def giveBack (s : ReferenceLedger) (delta : Nat) (given : List Nat) : ReferenceLedger :=
  { s with
    wakelock := s.wakelock.decrementRefCountAndMaybeReleaseWakelock delta (-1)
    events := s.events.diff given }

/-- Each reading of the clock is later than the one before. -/
def step (timeout : WakelockTimeout) (s : ReferenceLedger) : Step → Option ReferenceLedger
  | .createScopedWakelock now =>
    if s.clock < now then
      some { s with
        wakelock := s.wakelock.incrementRefCountAndMaybeAcquireWakelock 1 now
        clock := now
        scopedRefs := ⟨now, s.generation⟩ :: s.scopedRefs }
    else none
  | .destroyScopedWakelock ref =>
    if ref ∈ s.scopedRefs then
      some { s with
        wakelock := s.wakelock.decrementRefCountAndMaybeReleaseWakelock 1 ref.createdAtTimeNs
        scopedRefs := s.scopedRefs.erase ref }
    else none
  | .post numWakeupEvents now =>
    if s.clock < now then
      some { s with
        wakelock := s.wakelock.incrementRefCountAndMaybeAcquireWakelock numWakeupEvents now
        clock := now
        events := List.replicate numWakeupEvents s.generation ++ s.events }
    else none
  | .acknowledge given =>
    if Covers s.events given then some (s.giveBack given.length given) else none
  | .failPendingWrite delta given =>
    if Covers s.events given then some (s.giveBack delta given) else none
  | .timeout now reset =>
    -- `handleWakelocks` has passed its wait, and the lock has timed out
    if s.clock < now ∧ now < reset ∧ 0 < s.wakelock.mWakelockRefCount ∧
        s.wakelock.sharedWakelockDidTimeout timeout now = none then
      some { s with
        wakelock := s.wakelock.resetSharedWakelock reset
        clock := reset
        generation := s.generation + 1 }
    else none

/-- The lock is free, the threads run and nothing has been taken. -/
def machine (timeout : WakelockTimeout) : StepMachine ReferenceLedger Step where
  init s := s.wakelock.mThreadsRun = true ∧ s.wakelock.mWakelockRefCount = 0 ∧
    0 ≤ s.clock ∧ s.wakelock.mWakelockTimeoutResetTime ≤ s.clock ∧ s.scopedRefs = [] ∧ s.events = []
  step := step timeout

/-- The references taken since the last timeout reset and not given back. -/
def fresh (s : ReferenceLedger) : Nat :=
  s.scopedRefs.countP (fun ref => ref.generation = s.generation) + s.events.count s.generation

/-- A give-back without a time takes no more than the references of the current
generation it is about, or no other one of that generation is left. -/
def GivesBackOwn (s : ReferenceLedger) (delta : Nat) (given : List Nat) : Prop :=
  delta ≤ given.count s.generation ∨ s.fresh = given.count s.generation

/-- The condition on a step. -/
def OwnGeneration (s : ReferenceLedger) : Step → Prop
  | .acknowledge given => s.GivesBackOwn given.length given
  | .failPendingWrite delta given => s.GivesBackOwn delta given
  | _ => True

/-- The invariant of the runs under `OwnGeneration`.  `stale` is what the time
check in the decrement relies on. -/
structure Invariant (s : ReferenceLedger) : Prop where
  run : s.wakelock.mThreadsRun = true
  clock_nonneg : 0 ≤ s.clock
  reset_le : s.wakelock.mWakelockTimeoutResetTime ≤ s.clock
  created : ∀ ref ∈ s.scopedRefs, 0 ≤ ref.createdAtTimeNs ∧ ref.createdAtTimeNs ≤ s.clock
  past : ∀ ref ∈ s.scopedRefs, ref.generation ≤ s.generation
  past_events : ∀ g ∈ s.events, g ≤ s.generation
  stale : ∀ ref ∈ s.scopedRefs, ref.generation < s.generation →
    ref.createdAtTimeNs < s.wakelock.mWakelockTimeoutResetTime
  counted : s.fresh ≤ s.wakelock.mWakelockRefCount
  held : 0 < s.wakelock.mWakelockRefCount → s.wakelock.kernelWakelock = true

variable {timeout : WakelockTimeout}

theorem invariant_init {s : ReferenceLedger} (h : (machine timeout).init s) : Invariant s := by
  obtain ⟨hrun, hzero, hclock, hreset, hscoped, hevents⟩ := h
  refine ⟨hrun, hclock, hreset, ?_, ?_, ?_, ?_, ?_, ?_⟩
  · simp [hscoped]
  · simp [hscoped]
  · simp [hevents]
  · simp [hscoped]
  · simp [fresh, hscoped, hevents]
  · omega

/-! ## What each step preserves -/

/-- Taking references, all of the current generation. -/
theorem Invariant.of_increment {s : ReferenceLedger} (hs : Invariant s) {delta : Nat} {now : Int}
    (hnow : s.clock < now) {scopedRefs : List ScopedRef} {events : List Nat}
    (hrefs : ∀ ref ∈ scopedRefs, ref = ⟨now, s.generation⟩ ∨ ref ∈ s.scopedRefs)
    (hevents : ∀ g ∈ events, g = s.generation ∨ g ∈ s.events)
    (hfresh : scopedRefs.countP (fun ref => ref.generation = s.generation) +
      events.count s.generation ≤ s.fresh + delta) :
    Invariant { s with
      wakelock := s.wakelock.incrementRefCountAndMaybeAcquireWakelock delta now
      clock := now
      scopedRefs := scopedRefs
      events := events } := by
  have hnow' : s.clock ≤ now := Int.le_of_lt hnow
  have hnonneg : 0 ≤ now := Int.le_trans hs.clock_nonneg hnow'
  have hcounted := hs.counted
  have hheld := SharedWakelock.apply_held hs.held (.increment delta now)
  rw [SharedWakelock.apply, SharedWakelock.increment_running hs.run] at hheld
  rw [SharedWakelock.increment_running hs.run]
  refine ⟨hs.run, hnonneg, Int.le_trans hs.reset_le hnow', ?_, ?_, ?_, ?_, ?_, hheld⟩
  · intro ref href
    rcases hrefs ref href with rfl | href
    · exact ⟨hnonneg, Int.le_refl _⟩
    · obtain ⟨hge, hle⟩ := hs.created ref href
      exact ⟨hge, Int.le_trans hle hnow'⟩
  · intro ref href
    rcases hrefs ref href with rfl | href
    · exact Nat.le_refl _
    · exact hs.past ref href
  · intro g hg
    rcases hevents g hg with rfl | hg
    · exact Nat.le_refl _
    · exact hs.past_events g hg
  · intro ref href hlt
    rcases hrefs ref href with rfl | href
    · exact absurd hlt (Nat.lt_irrefl _)
    · exact hs.stale ref href hlt
  · exact Nat.le_trans hfresh (Nat.add_le_add_right hcounted delta)

/-- Giving references back: what matters is that the count still covers those of
the current generation. -/
theorem Invariant.of_decrement {s : ReferenceLedger} (hs : Invariant s) {delta : Nat} {start : Int}
    {scopedRefs : List ScopedRef} {events : List Nat}
    (hrefs : ∀ ref ∈ scopedRefs, ref ∈ s.scopedRefs) (hevents : ∀ g ∈ events, g ∈ s.events)
    (hfresh : scopedRefs.countP (fun ref => ref.generation = s.generation) +
      events.count s.generation ≤
        (s.wakelock.decrementRefCountAndMaybeReleaseWakelock delta start).mWakelockRefCount) :
    Invariant { s with
      wakelock := s.wakelock.decrementRefCountAndMaybeReleaseWakelock delta start
      scopedRefs := scopedRefs
      events := events } := by
  obtain ⟨hrun, hreset⟩ := s.wakelock.decrement_keeps delta start
  refine ⟨hrun.trans hs.run, hs.clock_nonneg, ?_, fun ref href => hs.created ref (hrefs ref href),
    fun ref href => hs.past ref (hrefs ref href), fun g hg => hs.past_events g (hevents g hg), ?_,
    hfresh, SharedWakelock.apply_held hs.held (.decrement delta start)⟩
  · show (SharedWakelock.decrementRefCountAndMaybeReleaseWakelock _ _ _).mWakelockTimeoutResetTime
      ≤ _
    rw [hreset]
    exact hs.reset_le
  · intro ref href hlt
    show _ <
      (SharedWakelock.decrementRefCountAndMaybeReleaseWakelock _ _ _).mWakelockTimeoutResetTime
    rw [hreset]
    exact hs.stale ref (hrefs ref href) hlt

theorem invariant_create {s : ReferenceLedger} (hs : Invariant s) {now : Int}
    (hnow : s.clock < now) :
    Invariant { s with
      wakelock := s.wakelock.incrementRefCountAndMaybeAcquireWakelock 1 now
      clock := now
      scopedRefs := ⟨now, s.generation⟩ :: s.scopedRefs } := by
  refine hs.of_increment hnow (fun ref href => List.mem_cons.mp href) (fun g hg => Or.inr hg) ?_
  rw [List.countP_cons, if_pos (by simp), fresh]
  omega

theorem invariant_post {s : ReferenceLedger} (hs : Invariant s) (n : Nat) {now : Int}
    (hnow : s.clock < now) :
    Invariant { s with
      wakelock := s.wakelock.incrementRefCountAndMaybeAcquireWakelock n now
      clock := now
      events := List.replicate n s.generation ++ s.events } := by
  refine hs.of_increment hnow (fun ref href => Or.inr href) (fun g hg => ?_) ?_
  · exact (List.mem_append.mp hg).imp_left List.eq_of_mem_replicate
  · rw [List.count_append, List.count_replicate_self, fresh]
    omega

/-- The destructor of a `ScopedWakelock`: one of an earlier generation does not
touch the lock, one of the current generation gives back its own reference. -/
theorem invariant_destroy {s : ReferenceLedger} (hs : Invariant s) {ref : ScopedRef}
    (href : ref ∈ s.scopedRefs) :
    Invariant { s with
      wakelock := s.wakelock.decrementRefCountAndMaybeReleaseWakelock 1 ref.createdAtTimeNs
      scopedRefs := s.scopedRefs.erase ref } := by
  refine hs.of_decrement (fun r hr => List.mem_of_mem_erase hr) (fun g hg => hg) ?_
  have hcounted := hs.counted
  unfold fresh at hcounted
  rw [List.countP_erase]
  by_cases hgen : ref.generation = s.generation
  · have hpos : 0 < s.scopedRefs.countP (fun r => r.generation = s.generation) :=
      List.countP_pos_iff.mpr ⟨ref, href, by simpa using hgen⟩
    have hle := SharedWakelock.le_count_decrement hs.run 1 ref.createdAtTimeNs
    rw [if_pos (by simp [href, hgen])]
    omega
  · have hlt : ref.generation < s.generation := Nat.lt_of_le_of_ne (hs.past ref href) hgen
    have hcreated := (hs.created ref href).1
    rw [SharedWakelock.decrement_stale hs.run 1 (by omega) (hs.stale ref href hlt),
      if_neg (by simp [hgen])]
    omega

/-- A give-back without a time, under the condition. -/
theorem invariant_giveBack {s : ReferenceLedger} (hs : Invariant s) {delta : Nat}
    {given : List Nat} (hcov : Covers s.events given) (hown : s.GivesBackOwn delta given) :
    Invariant (s.giveBack delta given) := by
  refine hs.of_decrement (fun ref href => href) (fun g hg => List.diff_subset _ _ hg) ?_
  have hcounted := hs.counted
  have hgiven : given.count s.generation ≤ s.events.count s.generation := by
    by_cases hmem : s.generation ∈ given
    · exact hcov _ hmem
    · rw [List.count_eq_zero.mpr hmem]
      exact Nat.zero_le _
  have hle := SharedWakelock.le_count_decrement hs.run delta (-1)
  rw [List.count_diff]
  unfold GivesBackOwn fresh at hown
  unfold fresh at hcounted
  omega

/-- A timeout reset: nothing is left, and every reference becomes one of an
earlier generation. -/
theorem invariant_timeout {s : ReferenceLedger} (hs : Invariant s) {now reset : Int}
    (hnow : s.clock < now) (hreset : now < reset) (hpos : 0 < s.wakelock.mWakelockRefCount) :
    Invariant { s with
      wakelock := s.wakelock.resetSharedWakelock reset
      clock := reset
      generation := s.generation + 1 } := by
  have hlater : s.clock < reset := Int.lt_trans hnow hreset
  have hlater' : s.clock ≤ reset := Int.le_of_lt hlater
  rw [SharedWakelock.resetSharedWakelock, SharedWakelock.decrement_untimed hs.run _ hpos]
  refine ⟨hs.run, Int.le_trans hs.clock_nonneg hlater', Int.le_refl _, ?_, ?_, ?_, ?_, ?_, ?_⟩
  · intro ref href
    obtain ⟨hge, hle⟩ := hs.created ref href
    exact ⟨hge, Int.le_trans hle hlater'⟩
  · exact fun ref href => Nat.le_succ_of_le (hs.past ref href)
  · exact fun g hg => Nat.le_succ_of_le (hs.past_events g hg)
  · intro ref href _
    exact Int.lt_of_le_of_lt (hs.created ref href).2 hlater
  · have hscoped : s.scopedRefs.countP (fun ref => ref.generation = s.generation + 1) = 0 :=
      List.countP_eq_zero.mpr fun ref href he => by
        have := hs.past ref href
        have := of_decide_eq_true he
        omega
    have hevents : s.events.count (s.generation + 1) = 0 :=
      List.count_eq_zero.mpr fun hmem => by
        have := hs.past_events _ hmem
        omega
    simp [fresh, hscoped, hevents]
  · intro h
    dsimp only at h
    omega

theorem invariant_step {s t : ReferenceLedger} {l : Step} (hs : Invariant s)
    (hok : OwnGeneration s l) (h : step timeout s l = some t) : Invariant t := by
  cases l with
  | createScopedWakelock now =>
    obtain ⟨hnow, rfl⟩ := Option.ite_none_right_eq_some.mp h |>.imp_right Option.some.inj
    exact invariant_create hs hnow
  | destroyScopedWakelock ref =>
    obtain ⟨href, rfl⟩ := Option.ite_none_right_eq_some.mp h |>.imp_right Option.some.inj
    exact invariant_destroy hs href
  | post n now =>
    obtain ⟨hnow, rfl⟩ := Option.ite_none_right_eq_some.mp h |>.imp_right Option.some.inj
    exact invariant_post hs n hnow
  | acknowledge given =>
    obtain ⟨hcov, rfl⟩ := Option.ite_none_right_eq_some.mp h |>.imp_right Option.some.inj
    exact invariant_giveBack hs hcov hok
  | failPendingWrite delta given =>
    obtain ⟨hcov, rfl⟩ := Option.ite_none_right_eq_some.mp h |>.imp_right Option.some.inj
    exact invariant_giveBack hs hcov hok
  | timeout now reset =>
    obtain ⟨⟨hnow, hreset, hpos, -⟩, rfl⟩ :=
      Option.ite_none_right_eq_some.mp h |>.imp_right Option.some.inj
    exact invariant_timeout hs hnow hreset hpos

/-- **References outlive earlier give-backs.**  In every run in which no
acknowledgement and no failed pending write gives back, without a time, more
than its own references of the current generation (unless it gives back the last
of these), the count covers the references taken since the last timeout reset,
and the kernel lock is held while there is one. -/
theorem fresh_le_count {s : ReferenceLedger}
    (h : (machine timeout).ReachableBy OwnGeneration s) :
    s.fresh ≤ s.wakelock.mWakelockRefCount ∧ (0 < s.fresh → s.wakelock.kernelWakelock = true) := by
  have hs : Invariant s :=
    h.invariant (fun _ => invariant_init) fun _ _ _ hs hok ht => invariant_step hs hok ht
  exact ⟨hs.counted, fun hpos => hs.held (Nat.lt_of_lt_of_le hpos hs.counted)⟩

/-- Nothing taken, at time zero. -/
def start : ReferenceLedger := ⟨⟨true, 0, 0, 0, false⟩, 0, 0, [], []⟩

theorem start_init : (machine timeout).init start := ⟨rfl, rfl, by decide, by decide, rfl, rfl⟩

/-- A `ScopedWakelock` from before a timeout reset is destroyed after it, while
two new wake-up events are unacknowledged; then one of these is acknowledged. -/
theorem fresh_le_count_example :
    ∃ s, (machine .oneSecond).ReachableBy OwnGeneration s ∧ s.fresh = 1 ∧
      (s.fresh ≤ s.wakelock.mWakelockRefCount ∧
        (0 < s.fresh → s.wakelock.kernelWakelock = true)) := by
  have hcreate : (machine .oneSecond).ReachableBy OwnGeneration
      ⟨⟨true, 1, 1, 0, true⟩, 1, 0, [⟨1, 0⟩], []⟩ :=
    .step (l := .createScopedWakelock 1) (.init start_init) trivial (by decide)
  have htimeout : (machine .oneSecond).ReachableBy OwnGeneration
      ⟨⟨true, 0, 1, 1000000003, false⟩, 1000000003, 1, [⟨1, 0⟩], []⟩ :=
    .step (l := .timeout 1000000002 1000000003) hcreate trivial (by decide)
  have hpost : (machine .oneSecond).ReachableBy OwnGeneration
      ⟨⟨true, 2, 1000000004, 1000000003, true⟩, 1000000004, 1, [⟨1, 0⟩], [1, 1]⟩ :=
    .step (l := .post 2 1000000004) htimeout trivial (by decide)
  have hdestroy : (machine .oneSecond).ReachableBy OwnGeneration
      ⟨⟨true, 2, 1000000004, 1000000003, true⟩, 1000000004, 1, [], [1, 1]⟩ :=
    .step (l := .destroyScopedWakelock ⟨1, 0⟩) hpost trivial (by decide)
  have hacknowledge : (machine .oneSecond).ReachableBy OwnGeneration
      ⟨⟨true, 1, 1000000004, 1000000003, true⟩, 1000000004, 1, [], [1]⟩ :=
    .step (l := .acknowledge [1]) hdestroy (Or.inl (by decide)) (by decide)
  exact ⟨_, hacknowledge, by decide, fresh_le_count hacknowledge⟩

/-- A wake-up event is acknowledged after a timeout reset and a second wake-up
event: the lock is released although nobody has read the second one. -/
theorem late_acknowledgement_releases :
    ¬ ∀ timeout s, (machine timeout).Reachable s →
      s.fresh ≤ s.wakelock.mWakelockRefCount ∧
        (0 < s.fresh → s.wakelock.kernelWakelock = true) := by
  intro h
  have hrun : (machine .oneSecond).exec start [.post 1 1, .timeout 1000000002 1000000003,
      .post 1 1000000004, .acknowledge [0]] =
      some ⟨⟨true, 0, 1000000004, 1000000003, false⟩, 1000000004, 1, [], [1]⟩ := by
    decide
  have := (h .oneSecond _ (StepMachine.Reachable.exec (.init start_init) hrun)).1
  exact absurd this (by decide)

end ReferenceLedger
end SensorsHal
