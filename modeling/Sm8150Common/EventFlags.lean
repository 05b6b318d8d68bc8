import Sm8150Common.TableRuns

/-!
# The flags of the queues

A post that has written to the event queue wakes its reader through
`mEventQueueFlag` (`HalProxy.cpp`, line 687), which it takes to be there.
`initializeCommon` makes the flag anew for each queue, and when that fails only
`result` says so (lines 244–258): the threads are started, the sub-HALs get their
callback, and the next event they post is written to the queue.

A `FlaggedProxy` is a `ProxyRun` with the two pointers, in which every outcome of
`createEventFlag` and of the sub-HALs' `initialize` is open and posts may come
between any two statements.  `failed_not_ok` says that a failure is reported on
every run; `no_null_wake` says that the pointer is not null when it is used, on
the runs whose event queues all get their flag, as long as no post writes while
the flag is changed; `null_wake` is a run in which one queue does not.
-/
namespace SensorsHal

/-! ## What `initialize` returns -/

/-- `result` and, as ghost state, whether something has failed. -/
structure Outcome where
  result : Result
  failed : Bool
  deriving DecidableEq, Repr

namespace Outcome

def ok : Outcome := ⟨.OK, false⟩

/-- After a call that returned `currRes`. -/
def record (outcome : Outcome) (currRes : Result) : Outcome :=
  if currRes = .OK then outcome else ⟨currRes, true⟩

/-- What has failed is reported. -/
def Reported (outcome : Outcome) : Prop := outcome.failed = true → outcome.result ≠ .OK

theorem reported_ok : ok.Reported := fun h => absurd h Bool.false_ne_true

theorem Reported.record {outcome : Outcome} (h : outcome.Reported) (currRes : Result) :
    (outcome.record currRes).Reported := by
  unfold Outcome.record
  by_cases hok : currRes = .OK
  · rw [if_pos hok]
    exact h
  · rw [if_neg hok]
    exact fun _ => hok

end Outcome

/-! ## The flags -/

/-- What `initializeCommon` does about the flags (lines 244–258). -/
inductive FlagStatement
  | deleteEventQueueFlag
  | deleteWakelockQueueFlag
  | createEventQueueFlag
  | createWakelockQueueFlag
  | testPointers
  deriving DecidableEq, Repr

/-- The proxy with its pointers to the flags, which are `false` when they are null. -/
structure FlaggedProxy (α : Type) where
  run : ProxyRun α
  flags : FlagStatement
  mEventQueueFlag : Bool
  mWakelockQueueFlag : Bool
  /-- How many sub-HALs have been given the callback. -/
  callbacks : Nat
  /-- Of the last `initialize`. -/
  outcome : Outcome
  /-- A post has woken the reader through a null pointer. -/
  crashed : Bool

/-- The statements of `initializeCommon` that make the flags and initialize sub-HALs, among the
steps of the proxy. -/
inductive FlaggedStep
  /-- `created` is what `createEventFlag` answers, where it is called. -/
  | flagStatement (created : Bool)
  | initializeSubHal (currRes : Result)
  | proxy (l : ProxyStep)

namespace FlaggedProxy
variable {α : Type}

/-- `BAD_VALUE` unless the pointer is there. -/
def flagResult (created : Bool) : Result := if created then .OK else .BAD_VALUE

section Step
variable (limits : Limits) (process : α → Event → Event × α) (s : FlaggedProxy α)

/-- The next statement about the flags.  A flag that could not be created is left
null. -/
def flagStatement (created : Bool) : Option (FlaggedProxy α) :=
  match s.flags with
  | .deleteEventQueueFlag =>
    some { s with mEventQueueFlag := false, flags := .deleteWakelockQueueFlag }
  | .deleteWakelockQueueFlag =>
    some { s with mWakelockQueueFlag := false, flags := .createEventQueueFlag }
  | .createEventQueueFlag =>
    some { s with
      mEventQueueFlag := created
      outcome := s.outcome.record (flagResult created)
      flags := .createWakelockQueueFlag }
  | .createWakelockQueueFlag =>
    some { s with
      mWakelockQueueFlag := created
      outcome := s.outcome.record (flagResult created)
      flags := .testPointers }
  | .testPointers =>
    -- the callback and the queues are not null: they have been made just before
    (s.run.step limits process (.session .statement)).map fun run =>
      { s with
        run := run
        outcome := s.outcome.record (flagResult s.mEventQueueFlag)
        flags := .deleteEventQueueFlag }

/-- The loop over the sub-HALs has not come to its end. -/
def InitializesSubHal : Prop :=
  s.run.session.next = .initializeSubHals ∧
    s.run.session.reinitialised < s.run.proxy.mSubHalList.length

instance : Decidable s.InitializesSubHal := inferInstanceAs (Decidable (_ ∧ _))

/-- The sub-HAL has been given the callback, or is given it now. -/
def HasCallback (subHalIndex : Nat) : Prop :=
  subHalIndex < s.callbacks ∨
    s.InitializesSubHal ∧ subHalIndex = s.run.session.reinitialised

instance (subHalIndex : Nat) : Decidable (s.HasCallback subHalIndex) :=
  inferInstanceAs (Decidable (_ ∨ _))

/-- The statements about the flags and the sub-HALs are steps of their own, and only
a sub-HAL with the callback posts. -/
def Allows : ProxyStep → Prop
  | .session .statement => s.run.session.next ≠ .createEventFlags ∧ ¬ s.InitializesSubHal
  | .postEvents subHalIndex _ => s.HasCallback subHalIndex
  | _ => True

instance : DecidablePred s.Allows
  | .session .statement => inferInstanceAs (Decidable (_ ∧ _))
  | .postEvents subHalIndex _ => inferInstanceAs (Decidable (s.HasCallback subHalIndex))
  | .session (.begin ..) | .session (.check _) | .session (.body ..) | .session (.pipeline _)
  | .initializeCommon _ | .connect .. | .disconnect .. => isTrue trivial

/-- The body of call `k` writes to the event queue, and so wakes the reader (lines
682–687). -/
def WakesReader (k : Nat) (succeeds : Bool) : Prop :=
  ∃ call ∈ s.run.session.calls[k]?,
    let p := s.run.session.run.pipeline
    let events := call.events.map fun event => (⟨event, call.stale⟩ : Stamped Event)
    0 < (p.directWrite events (p.directWriteCount events) succeeds).2

instance (k : Nat) (succeeds : Bool) : Decidable (s.WakesReader k succeeds) :=
  inferInstanceAs (Decidable (∃ call ∈ s.run.session.calls[k]?, _))

/-- The step wakes the reader through a null pointer. -/
def WakesNull : ProxyStep → Prop
  | .session (.body k succeeds) => s.mEventQueueFlag = false ∧ s.WakesReader k succeeds
  | _ => False

instance : DecidablePred s.WakesNull
  | .session (.body _ _) => inferInstanceAs (Decidable (_ ∧ _))
  | .session .statement | .session (.begin ..) | .session (.check _) | .session (.pipeline _)
  | .initializeCommon _ | .postEvents .. | .connect .. | .disconnect .. => isFalse id

/-- `result` is `OK` when `initialize` begins. -/
def outcomeAt : ProxyStep → Outcome
  | .initializeCommon _ => .ok
  | _ => s.outcome

def step (l : FlaggedStep) : Option (FlaggedProxy α) :=
  if s.crashed then none
  else match l with
    | .flagStatement created =>
      if s.run.session.next = .createEventFlags then s.flagStatement limits process created
      else none
    | .initializeSubHal currRes =>
      if s.InitializesSubHal then
        (s.run.step limits process (.session .statement)).map fun run =>
          { s with
            run := run
            callbacks := max s.callbacks (s.run.session.reinitialised + 1)
            outcome := s.outcome.record currRes }
      else none
    | .proxy l =>
      if s.Allows l then
        (s.run.step limits process l).map fun run =>
          { s with run := run, outcome := s.outcomeAt l, crashed := decide (s.WakesNull l) }
      else none

end Step

/-- The constructor has returned: no sub-HAL has been given the callback. -/
def machine (limits : Limits) (process : α → Event → Event × α) (mSubHalList : List SubHal) :
    StepMachine (FlaggedProxy α) FlaggedStep where
  init s := (ProxyRun.machine limits process mSubHalList).init s.run ∧
    s.flags = .deleteEventQueueFlag ∧ s.callbacks = 0 ∧ s.outcome = .ok ∧ s.crashed = false
  step := step limits process

/-! ## What a step does -/

/-- The flag of the event queue has been deleted, and is not created yet. -/
def InWindow (s : FlaggedProxy α) : Prop :=
  s.flags = .deleteWakelockQueueFlag ∨ s.flags = .createEventQueueFlag

instance (s : FlaggedProxy α) : Decidable s.InWindow := inferInstanceAs (Decidable (_ ∨ _))

section Steps
variable {limits : Limits} {process : α → Event → Event × α} {s t : FlaggedProxy α}

/-- A statement about the flags deletes the one of the event queue, or leaves it deleted;
or creates it; or comes after that and leaves it as it is. -/
theorem flagStatement_cases {created : Bool}
    (h : s.flagStatement limits process created = some t) :
    t.crashed = s.crashed ∧
      (t.run = s.run ∨ s.run.step limits process (.session .statement) = some t.run) ∧
      (t.outcome = s.outcome ∨ ∃ currRes, t.outcome = s.outcome.record currRes) ∧
      (t.InWindow ∨
        (s.flags = .createEventQueueFlag ∧ t.mEventQueueFlag = created) ∨
        (s.flags = .createWakelockQueueFlag ∨ s.flags = .testPointers) ∧
          t.mEventQueueFlag = s.mEventQueueFlag) := by
  unfold flagStatement at h
  split at h
  all_goals rename_i hflags
  · obtain rfl := Option.some.inj h
    exact ⟨rfl, .inl rfl, .inl rfl, .inl (.inl rfl)⟩
  · obtain rfl := Option.some.inj h
    exact ⟨rfl, .inl rfl, .inl rfl, .inl (.inr rfl)⟩
  · obtain rfl := Option.some.inj h
    exact ⟨rfl, .inl rfl, .inr ⟨_, rfl⟩, .inr (.inl ⟨hflags, rfl⟩)⟩
  · obtain rfl := Option.some.inj h
    exact ⟨rfl, .inl rfl, .inr ⟨_, rfl⟩, .inr (.inr ⟨.inl hflags, rfl⟩)⟩
  · obtain ⟨run, hrun, rfl⟩ := Option.map_eq_some_iff.mp h
    exact ⟨rfl, .inr hrun, .inr ⟨_, rfl⟩, .inr (.inr ⟨.inr hflags, rfl⟩)⟩

/-- A step of the flags, of the loop over the sub-HALs, or of the proxy. -/
theorem step_cases {l : FlaggedStep} (h : s.step limits process l = some t) :
    s.crashed = false ∧
      ((∃ created, l = .flagStatement created ∧
          s.flagStatement limits process created = some t) ∨
        (∃ currRes run, l = .initializeSubHal currRes ∧ s.InitializesSubHal ∧
          s.run.step limits process (.session .statement) = some run ∧
          t = { s with
            run := run
            callbacks := max s.callbacks (s.run.session.reinitialised + 1)
            outcome := s.outcome.record currRes }) ∨
        ∃ l' run, l = .proxy l' ∧ s.Allows l' ∧ s.run.step limits process l' = some run ∧
          t = { s with
            run := run
            outcome := s.outcomeAt l'
            crashed := decide (s.WakesNull l') }) := by
  unfold step at h
  by_cases hcrashed : s.crashed = true
  · rw [if_pos hcrashed] at h
    cases h
  · rw [if_neg hcrashed] at h
    refine ⟨Bool.eq_false_of_not_eq_true hcrashed, ?_⟩
    cases l with
    | flagStatement created =>
      obtain ⟨-, ht⟩ := Option.ite_none_right_eq_some.mp h
      exact .inl ⟨created, rfl, ht⟩
    | initializeSubHal currRes =>
      obtain ⟨hloop, ht⟩ := Option.ite_none_right_eq_some.mp h
      obtain ⟨run, hrun, rfl⟩ := Option.map_eq_some_iff.mp ht
      exact .inr (.inl ⟨currRes, run, rfl, hloop, hrun, rfl⟩)
    | proxy l =>
      obtain ⟨hallows, ht⟩ := Option.ite_none_right_eq_some.mp h
      obtain ⟨run, hrun, rfl⟩ := Option.map_eq_some_iff.mp ht
      exact .inr (.inr ⟨l, run, rfl, hallows, hrun, rfl⟩)

/-- The flags are a refinement: the proxy below them takes the same step, or none. -/
theorem simulation (limits : Limits) (process : α → Event → Event × α)
    (mSubHalList : List SubHal) :
    StepMachine.Simulation (machine limits process mSubHalList)
      (ProxyRun.machine limits process mSubHalList) FlaggedProxy.run fun _ => True where
  init := fun _ h => ⟨trivial, h.1⟩
  step := by
    intro s l t _ h
    refine ⟨trivial, ?_⟩
    obtain ⟨-, ⟨created, -, ht⟩ | ⟨_, run, -, -, hrun, rfl⟩ | ⟨l', run, -, -, hrun, rfl⟩⟩ :=
      step_cases h
    · obtain ⟨-, hsame | hrun, -⟩ := flagStatement_cases ht
      · exact ⟨[], congrArg some hsame.symm⟩
      · exact ⟨[.session .statement], (StepMachine.exec_singleton ..).trans hrun⟩
    · exact ⟨[.session .statement], (StepMachine.exec_singleton ..).trans hrun⟩
    · exact ⟨[l'], (StepMachine.exec_singleton ..).trans hrun⟩

/-! ## A failure is reported -/

theorem reported_step {l : FlaggedStep} (hs : s.outcome.Reported)
    (h : s.step limits process l = some t) : t.outcome.Reported := by
  obtain ⟨-, ⟨created, -, ht⟩ | ⟨currRes, run, -, -, -, rfl⟩ | ⟨l', run, -, -, -, rfl⟩⟩ :=
    step_cases h
  · obtain ⟨-, -, hsame | ⟨currRes, hrecord⟩, -⟩ := flagStatement_cases ht
    · exact hsame ▸ hs
    · exact hrecord ▸ hs.record currRes
  · exact hs.record currRes
  · cases l' with
    | initializeCommon newQueueSize => exact Outcome.reported_ok
    | _ => exact hs

/-- On every run, whatever comes in between, an `initialize` in which something fails
does not return `OK`. -/
theorem failed_not_ok {mSubHalList : List SubHal}
    (h : (machine limits process mSubHalList).Reachable s) : s.outcome.Reported := by
  refine h.invariant (I := fun s => s.outcome.Reported) ?_ fun _ _ _ hs ht => reported_step hs ht
  intro s hs
  rw [hs.2.2.2.1]
  exact Outcome.reported_ok

/-! ## The pointer -/

/-- **The condition on a step.**  The event queue gets its flag, and no post writes to
it while the flag is changed. -/
def KeepsFlag (s : FlaggedProxy α) : FlaggedStep → Prop
  | .flagStatement created => s.flags = .createEventQueueFlag → created = true
  | .proxy (.session (.body k succeeds)) => s.InWindow → ¬ s.WakesReader k succeeds
  | _ => True

instance (s : FlaggedProxy α) : DecidablePred s.KeepsFlag
  | .flagStatement _ => inferInstanceAs (Decidable (_ → _))
  | .proxy (.session (.body ..)) => inferInstanceAs (Decidable (_ → ¬ _))
  | .initializeSubHal _ | .proxy (.session .statement) | .proxy (.session (.begin ..))
  | .proxy (.session (.check _)) | .proxy (.session (.pipeline _)) | .proxy (.initializeCommon _)
  | .proxy (.postEvents ..) | .proxy (.connect ..) | .proxy (.disconnect ..) => isTrue trivial

end Steps
end FlaggedProxy

/-- The statement does not come after those about the flags. -/
def InitStatement.FlagsAhead : InitStatement → Prop
  | .storeThreadsRun | .startPendingWritesThread | .startWakelockThread | .initializeSubHals
  | .storeOperationMode => False
  | _ => True

namespace FlaggedProxy
variable {α : Type} {limits : Limits} {process : α → Event → Event × α} {s t : FlaggedProxy α}

/-- No `initialize` has come to the flags: no sub-HAL has the callback. -/
structure Fresh (s : FlaggedProxy α) : Prop where
  callbacks : s.callbacks = 0
  calls : s.run.session.calls = []
  flags : s.flags = .deleteEventQueueFlag
  ahead : s.run.session.next.FlagsAhead

/-- The pointer to the flag of the event queue is good whenever a post may use it. -/
structure Live (s : FlaggedProxy α) : Prop where
  alive : s.crashed = false
  flag : s.mEventQueueFlag = true ∨ s.InWindow ∨ s.Fresh

/-- A statement before those about the flags. -/
theorem statement_flagsAhead {ε : Type} {newQueueSize numSubHals : Nat} {s t : InitRun α ε}
    (hahead : s.next.FlagsAhead) (hne : s.next ≠ .createEventFlags)
    (h : s.statement newQueueSize numSubHals = some t) :
    t.next.FlagsAhead ∧ t.calls = s.calls := by
  unfold InitRun.statement at h
  split at h
  all_goals rename_i hnext; rw [hnext] at hahead
  case h_3 =>
    obtain ⟨-, ht⟩ := Option.ite_none_right_eq_some.mp h
    obtain rfl := Option.some.inj ht
    exact ⟨trivial, rfl⟩
  case h_12 => exact absurd hnext hne
  case h_18 => cases h
  all_goals first
    | exact hahead.elim
    | obtain rfl := Option.some.inj h
      exact ⟨trivial, rfl⟩

/-- Before the flags, a step of the proxy brings no call. -/
theorem Fresh.proxyStep {l : ProxyStep} {run : ProxyRun α} (hs : s.Fresh) (hallows : s.Allows l)
    (h : s.run.step limits process l = some run) :
    run.session.next.FlagsAhead ∧ run.session.calls = [] := by
  cases l with
  | initializeCommon newQueueSize =>
    obtain ⟨-, rfl⟩ := Option.ite_none_right_eq_some.mp h |>.imp_right Option.some.inj
    refine ⟨trivial, ?_⟩
    show List.map _ s.run.session.calls = []
    rw [hs.calls, List.map_nil]
  | session l =>
    cases l with
    | begin subHal events numWakeupEvents => cases h
    | statement =>
      obtain ⟨session, hsession, rfl⟩ := Option.map_eq_some_iff.mp h
      obtain ⟨hahead, hcalls⟩ := statement_flagsAhead hs.ahead hallows.1 hsession
      exact ⟨hahead, hcalls.trans hs.calls⟩
    | check k =>
      obtain ⟨session, hsession, -⟩ := Option.map_eq_some_iff.mp h
      rw [InitRun.step, hs.calls] at hsession
      cases hsession
    | body k succeeds =>
      obtain ⟨session, hsession, -⟩ := Option.map_eq_some_iff.mp h
      rw [InitRun.step, hs.calls] at hsession
      cases hsession
    | pipeline l =>
      obtain ⟨session, hsession, rfl⟩ := Option.map_eq_some_iff.mp h
      obtain ⟨-, ht⟩ := Option.ite_none_right_eq_some.mp hsession
      obtain ⟨run, -, rfl⟩ := Option.map_eq_some_iff.mp ht
      exact ⟨hs.ahead, hs.calls⟩
  | postEvents subHalIndex events =>
    rcases hallows with hlt | ⟨hloop, -⟩
    · rw [hs.callbacks] at hlt
      omega
    · have hahead := hs.ahead
      rw [hloop.1] at hahead
      exact hahead.elim
  | connect added i =>
    obtain rfl := Option.some.inj h
    exact ⟨hs.ahead, hs.calls⟩
  | disconnect removed i =>
    obtain rfl := Option.some.inj h
    exact ⟨hs.ahead, hs.calls⟩

/-- A step that meets the condition wakes nobody through a null pointer. -/
theorem Live.not_wakesNull {l : ProxyStep} (hs : s.Live) (hok : s.KeepsFlag (.proxy l)) :
    ¬ s.WakesNull l := by
  intro hnull
  cases l with
  | session l =>
    cases l with
    | body k succeeds =>
      obtain ⟨hflag, hwakes⟩ := hnull
      rcases hs.flag with hthere | hwindow | hfresh
      · rw [hflag] at hthere
        cases hthere
      · exact hok hwindow hwakes
      · obtain ⟨call, hcall, -⟩ := hwakes
        rw [hfresh.calls] at hcall
        cases hcall
    | _ => exact hnull
  | _ => exact hnull

theorem live_flagStatement {created : Bool} (hs : s.Live)
    (hok : s.KeepsFlag (.flagStatement created))
    (h : s.flagStatement limits process created = some t) : t.Live := by
  obtain ⟨hcrashed, -, -, hwindow | ⟨hflags, hflag⟩ | ⟨hflags, hflag⟩⟩ := flagStatement_cases h
  · exact ⟨hcrashed.trans hs.alive, .inr (.inl hwindow)⟩
  · exact ⟨hcrashed.trans hs.alive, .inl (hflag.trans (hok hflags))⟩
  · refine ⟨hcrashed.trans hs.alive, .inl (hflag.trans ?_)⟩
    -- behind the window the flag has been created
    rcases hs.flag with hthere | hwindow | hfresh
    · exact hthere
    · rcases hwindow with hw | hw <;> rw [hw] at hflags <;> simp at hflags
    · rw [hfresh.flags] at hflags
      simp at hflags

theorem live_step {l : FlaggedStep} (hs : s.Live) (hok : s.KeepsFlag l)
    (h : s.step limits process l = some t) : t.Live := by
  obtain ⟨-, ⟨created, rfl, ht⟩ | ⟨currRes, run, rfl, hloop, -, rfl⟩ |
    ⟨l', run, rfl, hallows, hrun, rfl⟩⟩ := step_cases h
  · exact live_flagStatement hs hok ht
  · refine ⟨hs.alive, ?_⟩
    rcases hs.flag with hthere | hwindow | hfresh
    · exact .inl hthere
    · exact .inr (.inl hwindow)
    · have hahead := hfresh.ahead
      rw [hloop.1] at hahead
      exact hahead.elim
  · refine ⟨decide_eq_false (hs.not_wakesNull hok), ?_⟩
    rcases hs.flag with hthere | hwindow | hfresh
    · exact .inl hthere
    · exact .inr (.inl hwindow)
    · obtain ⟨hahead, hcalls⟩ := hfresh.proxyStep hallows hrun
      exact .inr (.inr ⟨hfresh.callbacks, hcalls, hfresh.flags, hahead⟩)

theorem live_init {mSubHalList : List SubHal} (h : (machine limits process mSubHalList).init s) :
    s.Live := by
  obtain ⟨⟨-, hnext, -, hcalls, -⟩, hflags, hcallbacks, -, hcrashed⟩ := h
  refine ⟨hcrashed, .inr (.inr ⟨hcallbacks, hcalls, hflags, ?_⟩)⟩
  rw [hnext]
  trivial

/-- **A failed `initialize` leaves no crash behind.**  On every run on which each event
queue gets its flag, and no post writes to it while the flag is changed, whatever
becomes of the wakelock queue's flag and of the sub-HALs: an `initialize` in which
something fails does not return `OK`, and no post wakes the reader through a null
pointer. -/
theorem no_null_wake (limits : Limits) (process : α → Event → Event × α)
    (mSubHalList : List SubHal) {s : FlaggedProxy α}
    (h : (machine limits process mSubHalList).ReachableBy KeepsFlag s) :
    (s.run.session.next = .returned → s.outcome.failed = true → s.outcome.result ≠ .OK) ∧
      s.crashed = false := by
  have hlive : s.Live :=
    h.invariant (fun _ => live_init) fun _ _ _ hs hok ht => live_step hs hok ht
  exact ⟨fun _ => failed_not_ok h.reachable, hlive.alive⟩

/-- One sub-HAL with one wake-up sensor, and no callback given. -/
def unflagged : FlaggedProxy Unit :=
  ⟨ProxyRun.constructed, .deleteEventQueueFlag, false, false, 0, .ok, false⟩

def unflaggedMachine : StepMachine (FlaggedProxy Unit) FlaggedStep :=
  machine ⟨64, 64, by decide⟩ (fun s event => (event, s)) ProxyRun.oneSensor

theorem unflagged_init : unflaggedMachine.init unflagged :=
  ⟨ProxyRun.constructed_init, rfl, rfl, rfl, rfl⟩

/-- One `initialize`, after which the sub-HAL posts an event. -/
def postAfterInitialize (eventQueueFlag wakelockQueueFlag : Bool) (currRes : Result) :
    List FlaggedStep :=
  .proxy (.initializeCommon 1) :: List.replicate 11 (.proxy (.session .statement)) ++
    [true, true, eventQueueFlag, wakelockQueueFlag, true].map FlaggedStep.flagStatement ++
    List.replicate 3 (.proxy (.session .statement)) ++ .initializeSubHal currRes ::
    List.replicate 2 (.proxy (.session .statement)) ++
    [.proxy (.postEvents 0 [⟨5#32, 1, ⟨0, 0, 0#32⟩⟩]), .proxy (.session (.check 0)),
      .proxy (.session (.body 0 true))]

/-- The flag of the wakelock queue cannot be created, and the sub-HAL fails. -/
theorem no_null_wake_example : ∃ s : FlaggedProxy Unit,
    unflaggedMachine.ReachableBy KeepsFlag s ∧ s.run.session.run.written.length = 1 ∧
      s.outcome.result ≠ .OK ∧ s.crashed = false := by
  have hrun : (unflaggedMachine.exec unflagged (postAfterInitialize true false .NO_MEMORY)).map
      (fun s => (s.run.session.run.written.length, decide (s.run.session.next = .returned),
        s.outcome.failed)) = some (1, true, true) := by
    decide +kernel
  obtain ⟨s, hexec, hs⟩ := Option.map_eq_some_iff.mp hrun
  obtain ⟨hwritten, hreturned, hfailed⟩ := by simpa using hs
  have hreach : unflaggedMachine.ReachableBy KeepsFlag s :=
    StepMachine.ReachableBy.exec (.init unflagged_init) hexec (by decide +kernel)
  obtain ⟨hresult, halive⟩ := no_null_wake _ _ _ hreach
  exact ⟨s, hreach, hwritten, hresult hreturned hfailed, halive⟩

/-- The flag of the event queue cannot be created: `initialize` says so, and the first
event that is posted after it wakes the reader through a null pointer. -/
theorem null_wake :
    ¬ ∀ s : FlaggedProxy Unit, unflaggedMachine.Reachable s →
      (s.run.session.next = .returned → s.outcome.failed = true → s.outcome.result ≠ .OK) ∧
        s.crashed = false := by
  intro h
  have hrun : (unflaggedMachine.exec unflagged (postAfterInitialize false true .OK)).map
      (fun s => s.crashed) = some true := by
    decide +kernel
  obtain ⟨s, hexec, hcrashed⟩ := Option.map_eq_some_iff.mp hrun
  have halive := (h s (StepMachine.Reachable.exec (.init unflagged_init) hexec)).2
  rw [hcrashed] at halive
  cases halive

end FlaggedProxy
end SensorsHal
