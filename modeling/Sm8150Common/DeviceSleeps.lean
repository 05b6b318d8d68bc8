import Sm8150Common.PipelineDrain
import Sm8150Common.WakelockBalance

/-!
# The device falls asleep again

`WakelockBalance` says what each reference to the wakelock stands for, `PipelineDrain` that
what is pending gets out.  Together: when the sub-HALs have no more to post, the references are
given back, in whatever order the post in progress, the worker of the pending queue, the
framework, the wakelock thread and the `ScopedWakelock` objects move
(`HalProxy.cpp`, lines 579–652 and 668–735).

`falls_asleep` bounds the steps this takes, and says what is left at the end: the references of
the tails that were refused, and without these the kernel lock is released, without a timeout.
-/
namespace SensorsHal

namespace PipelineRun
variable {α ε : Type} {limits : Limits} {process : α → ε → ε × α} {s t : PipelineRun α ε}

theorem read_step {n : Nat} (h : step limits process s (.read n) = some t) :
    t.received = s.received ++ s.pipeline.mEventQueue.unread.take n ∧
      t.stepsLeft = s.stepsLeft := by
  cases h
  exact ⟨rfl, rfl⟩

/-- Without a new post, what is on its way gets less by what is read, at least. -/
theorem inFlight_step (hs : (machine limits process).Reachable s) {l : PipelineStep ε}
    (hposted : t.posted = s.posted) (h : step limits process s l = some t) :
    ∃ items, t.received = s.received ++ items ∧
      t.inFlight.length + items.length ≤ s.inFlight.length := by
  obtain ⟨items, hreceived⟩ := received_step h
  obtain ⟨more, hrefusals⟩ := refusals_step h
  have hdropped := dropped_step h
  have hold := posted_count hs fun _ => true
  have hnew := posted_count (reachable_step hs h) fun _ => true
  simp only [List.countP_true] at hold hnew
  have hreceivedLength : t.received.length = s.received.length + items.length := by
    rw [hreceived, List.length_append]
  have hrefused : s.refusedTails.length ≤ t.refusedTails.length := by
    rw [refusedTails, refusedTails, hrefusals, List.flatMap_append, List.length_append]
    omega
  have hdroppedLength : s.dropped.flatten.length ≤ t.dropped.flatten.length := by
    rw [hdropped]
    split
    · rw [List.flatten_append, List.length_append]
      omega
    · exact Nat.le_refl _
  rw [hposted] at hnew
  exact ⟨items, hreceived, by omega⟩

/-- At rest nothing is on its way but what the framework has not read. -/
theorem inFlight_of_drained (hs : Consistent limits s) (hdrained : s.Drained) :
    s.inFlight = s.pipeline.mEventQueue.unread := by
  obtain ⟨hpend, hpost⟩ := hdrained
  rw [inFlight, hs.unwritten_of_empty hpend, held, hpost]
  simp

/-- With room for a whole chunk, a `writeBlocking` need not fail. -/
theorem not_failsChunk (hs : Consistent limits s) (hunread : s.pipeline.mEventQueue.unread = []) :
    ¬ s.FailsChunk (.writeBlocking true) := by
  have hfits : s.chunk.length ≤ s.pipeline.mEventQueue.availableToWrite := by
    rw [MessageQueue.availableToWrite, hunread]
    unfold chunk
    split
    · rename_i it front rest hworker hpend
      have hok := hs.worker_stage
      rw [hworker] at hok
      obtain ⟨front', rest', -, rfl⟩ := hok
      rw [List.length_take]
      exact Nat.le_trans (Nat.min_le_left _ _) (Nat.min_le_right _ _)
    · exact Nat.zero_le _
  intro hfails
  have hwrites : (s.pipeline.mEventQueue.write s.chunk true).2 = true := by
    unfold MessageQueue.write
    rw [dif_pos ⟨rfl, hfits⟩]
  exact absurd (hwrites.symm.trans hfails) (by decide)

/-- Until nothing is pending, the post in progress or the worker can move, and unless the
framework has to read first, without a failure. -/
theorem exists_internal_succeeding (limits : Limits) (process : α → ε → ε × α)
    (hs : Consistent limits s) (hunread : s.pipeline.mEventQueue.unread = [])
    (hset : ¬ s.Drained) :
    ∃ l, isInternal l = true ∧ ¬ s.FailsChunk l ∧ (step limits process s l).isSome = true := by
  obtain ⟨l, hl, hsome⟩ := exists_internal limits process hset
  cases l with
  | post | read => cases hl
  | writeBlocking succeeds =>
    refine ⟨.writeBlocking true, rfl, not_failsChunk hs hunread, ?_⟩
    dsimp only [step] at hsome ⊢
    split at hsome
    · rfl
    · cases hsome
  | probe | write | store | wake | test | retire => exact ⟨_, hl, id, hsome⟩

end PipelineRun

namespace ChargedRun
variable {α : Type}

/-- A step that brings the device closer to sleep: a post in progress or the worker moves while
something is pending, a chunk that fails gives back what it is worth, the framework reads or
acknowledges events, an acknowledgement is taken in, or a `ScopedWakelock` is destroyed. -/
def Helps (mSensors : SensorMap) (s : ChargedRun α) : Step → Prop
  | .pipeline (.post ..) _ _ => False
  | .pipeline (.read n) _ _ => 0 < n ∧ s.run.pipeline.mEventQueue.unread ≠ []
  | .pipeline l _ _ => ¬ s.run.Drained ∧
      (s.run.FailsChunk l → s.chunkDelta mSensors = wakeups mSensors s.run.chunk)
  | .acknowledge n => 0 < n
  | .readWakeLockQueue | .destroyScopedWakelock _ => True
  | .createScopedWakelock _ | .timeout _ _ => False

/-- Each event on its way may have to be read, acknowledged and taken in. -/
def stepsToSleep (mSensors : SensorMap) (s : ChargedRun α) : Nat :=
  s.run.stepsLeft + 3 * s.run.inFlight.length +
    2 * (wakeups mSensors s.run.received - s.acknowledged) + s.mWakeLockQueue.length +
    s.scopedWakelocks.length

section Sleep
variable {timeout : WakelockTimeout} {limits : Limits} {process : α → Event → Event × α}
  {mSensors : SensorMap} {s t : ChargedRun α}

theorem Helps.chargesExactly {l : Step} (h : s.Helps mSensors l) :
    ChargesExactly mSensors s process l := by
  cases l with
  | pipeline l isLocked now =>
    cases l with
    | post => exact h.elim
    | read n => exact fun hfails => hfails.elim
    | probe | write | store | wake | test | writeBlocking | retire => exact h.2
  | timeout => exact h.elim
  | createScopedWakelock | destroyScopedWakelock | acknowledge | readWakeLockQueue => trivial

/-- The accounts are kept, and an event fits into the event queue. -/
def Awake (limits : Limits) (process : α → Event → Event × α) (mSensors : SensorMap)
    (s : ChargedRun α) : Prop :=
  Balanced limits process mSensors s ∧ 0 < s.run.pipeline.mEventQueue.quantumCount

theorem Awake.ready (hs : Awake limits process mSensors s) : PipelineRun.Ready limits s.run :=
  ⟨((PipelineRun.simulation limits process).reachable hs.1.pipeline).1, hs.2⟩

theorem Awake.step {l : Step} (hs : Awake limits process mSensors s)
    (hok : ChargesExactly mSensors s process l)
    (h : step mSensors s timeout limits process l = some t) :
    Awake limits process mSensors t := by
  refine ⟨balanced_step hs.1 hok h, ?_⟩
  cases l with
  | pipeline l isLocked now =>
    obtain ⟨-, ht⟩ := Option.ite_none_right_eq_some.mp h
    obtain ⟨run, hstep, rfl⟩ := Option.map_eq_some_iff.mp ht
    dsimp only
    rw [PipelineRun.quantumCount_step hstep]
    exact hs.2
  | createScopedWakelock | destroyScopedWakelock | acknowledge =>
    obtain ⟨-, ht⟩ := Option.ite_none_right_eq_some.mp h
    cases ht
    exact hs.2
  | readWakeLockQueue =>
    dsimp only [ChargedRun.step] at h
    split at h <;> cases h
    exact hs.2
  | timeout => exact hok.elim

/-- What a step of the pipeline takes away from what is on its way, it adds to what is to be
acknowledged at most. -/
theorem stepsToSleep_pipeline (hs : Awake limits process mSensors s) {l : PipelineStep Event}
    {isLocked : Bool} {now : Int} (hl : s.Helps mSensors (.pipeline l isLocked now))
    {run : PipelineRun α Event} (h : s.run.step limits process l = some run) :
    run.stepsLeft + 3 * run.inFlight.length + 2 * (wakeups mSensors run.received - s.acknowledged)
      < s.run.stepsLeft + 3 * s.run.inFlight.length +
        2 * (wakeups mSensors s.run.received - s.acknowledged) := by
  have hposted : run.posted = s.run.posted := by
    rcases PipelineRun.posted_step h with hsame | ⟨_, _, rfl, -⟩
    · exact hsame
    · exact hl.elim
  obtain ⟨items, hreceived, hless⟩ := PipelineRun.inFlight_step hs.1.pipeline hposted h
  have hworth : wakeups mSensors items ≤ items.length := List.countP_le_length
  have hack := hs.1.acknowledged
  rw [hreceived, wakeups_append]
  cases l with
  | post => exact hl.elim
  | read n =>
    obtain ⟨hn, hunread⟩ := hl
    obtain ⟨hread, hleft⟩ := PipelineRun.read_step h
    -- an event that is read is no longer on its way, and adds one to acknowledge at most
    have hpos : 0 < items.length := by
      rw [List.append_cancel_left (hreceived.symm.trans hread), List.length_take]
      exact Nat.lt_min.mpr ⟨hn, List.length_pos_iff.mpr hunread⟩
    omega
  | probe | write | store | wake | test | writeBlocking | retire =>
    have hlower := PipelineRun.stepsLeft_internal hs.ready hl.1 rfl h
    omega

theorem helps_step {l : Step} (hs : Awake limits process mSensors s) (hl : s.Helps mSensors l)
    (h : step mSensors s timeout limits process l = some t) :
    Awake limits process mSensors t ∧ t.stepsToSleep mSensors < s.stepsToSleep mSensors := by
  refine ⟨hs.step hl.chargesExactly h, ?_⟩
  unfold stepsToSleep
  cases l with
  | pipeline l isLocked now =>
    obtain ⟨-, ht⟩ := Option.ite_none_right_eq_some.mp h
    obtain ⟨run, hstep, rfl⟩ := Option.map_eq_some_iff.mp ht
    have hless := stepsToSleep_pipeline hs hl hstep
    dsimp only
    omega
  | acknowledge n =>
    obtain ⟨hread, ht⟩ := Option.ite_none_right_eq_some.mp h
    cases ht
    have hpos : 0 < n := hl
    dsimp only
    rw [List.length_append, List.length_singleton]
    omega
  | readWakeLockQueue =>
    dsimp only [ChargedRun.step] at h
    split at h
    · cases h
    · rename_i n rest hqueue
      cases h
      dsimp only
      rw [hqueue, List.length_cons]
      omega
  | destroyScopedWakelock createdAtTimeNs =>
    obtain ⟨hmem, ht⟩ := Option.ite_none_right_eq_some.mp h
    cases ht
    have hpos := List.length_pos_of_mem hmem
    dsimp only
    rw [List.length_erase_of_mem hmem]
    omega
  | createScopedWakelock | timeout => exact hl.elim

/-- As long as there is a reference, somebody can help. -/
theorem exists_helps (hs : Awake limits process mSensors s) (hne : s.references mSensors ≠ 0) :
    ∃ l, s.Helps mSensors l ∧ (step mSensors s timeout limits process l).isSome = true := by
  have hpipeline : ∀ l, s.Helps mSensors (.pipeline l false s.clock) →
      (s.run.step limits process l).isSome = true →
      ∃ l, s.Helps mSensors l ∧ (step mSensors s timeout limits process l).isSome = true := by
    intro l hl hsome
    refine ⟨.pipeline l false s.clock, hl, ?_⟩
    rw [step, if_pos ⟨Int.le_refl _, nofun⟩, Option.isSome_map]
    exact hsome
  cases hscoped : s.scopedWakelocks with
  | cons createdAtTimeNs rest =>
    refine ⟨.destroyScopedWakelock createdAtTimeNs, trivial, ?_⟩
    rw [step, if_pos (hscoped ▸ List.mem_cons_self)]
    rfl
  | nil =>
  cases hqueue : s.mWakeLockQueue with
  | cons n rest =>
    refine ⟨.readWakeLockQueue, trivial, ?_⟩
    rw [step, hqueue]
    rfl
  | nil =>
  by_cases hack : wakeups mSensors s.run.received ≤ s.acknowledged
  · by_cases hunread : s.run.pipeline.mEventQueue.unread = []
    · -- all references are those of events that the post or the worker still has
      have hready := hs.ready
      have hset : ¬ s.run.Drained := by
        intro hdrained
        refine hne ?_
        unfold references
        rw [PipelineRun.inFlight_of_drained hready.1 hdrained, hunread, hscoped, hqueue,
          Nat.sub_eq_zero_of_le hack]
        rfl
      obtain ⟨l, hl, hsucceeds, hsome⟩ :=
        PipelineRun.exists_internal_succeeding limits process hready.1 hunread hset
      refine hpipeline l ?_ hsome
      cases l with
      | post | read => cases hl
      | probe | write | store | wake | test | writeBlocking | retire =>
        exact ⟨hset, fun hfails => absurd hfails hsucceeds⟩
    · exact hpipeline (.read 1) ⟨Nat.one_pos, hunread⟩ rfl
  · refine ⟨.acknowledge 1, Nat.one_pos, ?_⟩
    rw [step, if_pos (by omega)]
    rfl

/-- **The device falls asleep again.**  From every state of every session whose posts are
charged for what they hand on, whose failed chunks give back what they are worth and in which
the lock has not timed out: a run of steps that help is no longer than `stepsToSleep`, in
whatever order they come; where none can be taken, the reference count is that of the refused
tails, and without these the kernel lock is released; and such a run exists. -/
theorem falls_asleep (h : (machine mSensors timeout limits process).ReachableBy
      (fun s l => ChargesExactly mSensors s process l) s)
    (hq : 0 < s.run.pipeline.mEventQueue.quantumCount) :
    (∀ ls t, (machine mSensors timeout limits process).Along (Helps mSensors) s ls →
      (machine mSensors timeout limits process).exec s ls = some t →
      ls.length ≤ s.stepsToSleep mSensors ∧
      ((∀ l r, t.Helps mSensors l → (machine mSensors timeout limits process).step t l ≠ some r) →
        t.wakelock.mWakelockRefCount = wakeups mSensors t.run.refusedTails ∧
        (t.wakelock.kernelWakelock = true ↔ 0 < wakeups mSensors t.run.refusedTails))) ∧
    ∃ ls t, (machine mSensors timeout limits process).Along (Helps mSensors) s ls ∧
      (machine mSensors timeout limits process).exec s ls = some t ∧
      t.wakelock.mWakelockRefCount = wakeups mSensors t.run.refusedTails := by
  have hs : Awake limits process mSensors s :=
    ⟨h.invariant (I := Balanced limits process mSensors) (fun _ hs => balanced_init hs)
      fun _ _ _ hs hok hstep => balanced_step hs hok hstep, hq⟩
  have hlowers : ∀ r l r', Awake limits process mSensors r → r.Helps mSensors l →
      (machine mSensors timeout limits process).step r l = some r' →
      Awake limits process mSensors r' ∧ r'.stepsToSleep mSensors < r.stepsToSleep mSensors :=
    fun _ _ _ hr hl hstep => helps_step hr hl hstep
  have henabled : ∀ r, Awake limits process mSensors r → ¬ r.references mSensors = 0 →
      ∃ l r', r.Helps mSensors l ∧ (machine mSensors timeout limits process).step r l = some r' := by
    intro r hr hne
    obtain ⟨l, hl, hsome⟩ := exists_helps hr hne
    obtain ⟨r', hstep⟩ := Option.isSome_iff_exists.mp hsome
    exact ⟨l, r', hl, hstep⟩
  have hleft : ∀ r, Awake limits process mSensors r → r.references mSensors = 0 →
      r.wakelock.mWakelockRefCount = wakeups mSensors r.run.refusedTails := by
    intro r hr hzero
    have hcount := hr.1.count_eq
    rw [hzero, Nat.zero_add] at hcount
    exact hcount
  refine ⟨fun ls t halong hrun => ?_, ?_⟩
  · obtain ⟨ht, hle⟩ := StepMachine.exec_length_le hlowers hs halong hrun
    refine ⟨by omega, fun hstuck => ?_⟩
    have hcount := hleft t ht (StepMachine.settled_of_stuck henabled ht hstuck)
    exact ⟨hcount, hcount ▸ ht.1.held⟩
  · obtain ⟨ls, t, halong, hrun, ht, hzero⟩ :=
      StepMachine.exists_exec_settled hlowers henabled hs
    exact ⟨ls, t, halong, hrun, hleft t ht hzero⟩

end Sleep

/-- One of two wake-up events is still with the worker: seven steps at most. -/
theorem falls_asleep_example : ∃ s : ChargedRun Unit,
    s.wakelock.mWakelockRefCount = 1 ∧ s.stepsToSleep oneWakeupSensor = 7 ∧
    ∃ ls t, (machine oneWakeupSensor .oneSecond ⟨4, 4, by decide⟩
      fun s event => (event, s)).exec s ls = some t ∧
      t.wakelock.mWakelockRefCount = wakeups oneWakeupSensor t.run.refusedTails := by
  have hinit : (machine oneWakeupSensor .oneSecond ⟨4, 4, by decide⟩
      fun s event => (event, s)).init quiet :=
    ⟨⟨rfl, rfl, rfl, rfl, rfl, rfl, rfl, rfl, rfl, rfl⟩, rfl, rfl, rfl, by decide, by decide, rfl,
      rfl, rfl⟩
  have hrun : ∃ s, (machine oneWakeupSensor .oneSecond ⟨4, 4, by decide⟩
        fun s event => (event, s)).exec quiet awakeSteps = some s ∧
        s.wakelock.mWakelockRefCount = 1 ∧
        s.stepsToSleep oneWakeupSensor = 7 ∧ 0 < s.run.pipeline.mEventQueue.quantumCount :=
    ⟨_, rfl, by decide +kernel, by decide +kernel, by decide +kernel⟩
  obtain ⟨s, hs, hcount, hsteps, hq⟩ := hrun
  obtain ⟨-, ls, t, -, hexec, hleft⟩ :=
    falls_asleep (.exec (.init hinit) hs (by decide +kernel)) hq
  exact ⟨s, hcount, hsteps, ls, t, hexec, hleft⟩

end ChargedRun
end SensorsHal
