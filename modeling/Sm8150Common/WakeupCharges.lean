import Sm8150Common.EventPipeline
import Sm8150Common.HandleSpace
import Sm8150Common.SharedWakelock

/-! # What a batch charges to the wakelock

A batch posted with a locked wakelock takes one reference for each of its
wake-up events, before it is known what becomes of them.  The pending queue keeps
that number with whatever is left of the batch (`HalProxy.cpp`, line 698), and
the worker gives references back when a chunk cannot be written (lines 597–606).

`givesBackExactly_iff` compares what is given back for a batch with the wake-up
events in its failed chunks; `chargesKept_iff` compares the charge of a post with
the wake-up events it keeps. -/
namespace SensorsHal

/-! ## Counting wake-up events -/

def isWakeupEvent (mSensors : SensorMap) (event : Event) : Bool :=
  (getSensorInfo mSensors event.sensorHandle).isWakeup

/-- The number of wake-up events. -/
def wakeups (mSensors : SensorMap) (events : List Event) : Nat :=
  events.countP (isWakeupEvent mSensors)

@[simp] theorem wakeups_append (mSensors : SensorMap) (l k : List Event) :
    wakeups mSensors (l ++ k) = wakeups mSensors l + wakeups mSensors k :=
  List.countP_append

/-- The loop body of `countNumWakeupEvents`: `mSensors[sensorHandle]` makes an
entry for a handle that has none. -/
def countWakeupEvent (st : Nat × SensorMap) (event : Event) : Nat × SensorMap :=
  let mSensors := st.2.insertIfNew event.sensorHandle default
  let sensor := getSensorInfo mSensors event.sensorHandle
  (if sensor.isWakeup then st.1 + 1 else st.1, mSensors)

/-- `numWakeupEvents`, and `mSensors` afterwards. -/
def countNumWakeupEvents (mSensors : SensorMap) (events : List Event) (n : Nat) : Nat × SensorMap :=
  (events.take n).foldl countWakeupEvent (0, mSensors)

/-- An entry made up by `operator[]` says what its absence said. -/
@[simp] theorem getSensorInfo_insertIfNew (mSensors : SensorMap) (h k : SensorHandle) :
    getSensorInfo (mSensors.insertIfNew h default) k = getSensorInfo mSensors k := by
  unfold getSensorInfo
  rw [Std.TreeMap.getElem?_insertIfNew]
  split
  · rename_i habsent
    obtain ⟨heq, hnot⟩ := habsent
    have : h = k := Std.LawfulEqCmp.eq_of_compare heq
    subst this
    rw [Std.TreeMap.getElem?_eq_none hnot]
    rfl
  · rfl

/-- `countNumWakeupEvents` counts the wake-up events among the first `n` events
and leaves every lookup as it was. -/
theorem countNumWakeupEvents_spec (mSensors : SensorMap) (events : List Event) (n : Nat) :
    (countNumWakeupEvents mSensors events n).1 = wakeups mSensors (events.take n) ∧
      ∀ h, getSensorInfo (countNumWakeupEvents mSensors events n).2 h = getSensorInfo mSensors h := by
  have general : ∀ (events : List Event) (count : Nat) (m : SensorMap),
      (∀ h, getSensorInfo m h = getSensorInfo mSensors h) →
      (events.foldl countWakeupEvent (count, m)).1 = count + wakeups mSensors events ∧
        ∀ h, getSensorInfo (events.foldl countWakeupEvent (count, m)).2 h =
          getSensorInfo mSensors h := by
    intro events
    induction events with
    | nil => exact fun count m hm => ⟨rfl, hm⟩
    | cons event events ih =>
      intro count m hm
      rw [List.foldl_cons]
      obtain ⟨hcount, hlookup⟩ := ih
        (if (getSensorInfo m event.sensorHandle).isWakeup then count + 1 else count)
        (m.insertIfNew event.sensorHandle default) fun h => by
          rw [getSensorInfo_insertIfNew, hm]
      have hstep : countWakeupEvent (count, m) event =
          (if (getSensorInfo m event.sensorHandle).isWakeup then count + 1 else count,
            m.insertIfNew event.sensorHandle default) := by
        simp [countWakeupEvent]
      rw [hstep]
      refine ⟨?_, hlookup⟩
      rw [hcount, hm, wakeups, wakeups, List.countP_cons]
      unfold isWakeupEvent
      split <;> omega
  obtain ⟨hcount, hlookup⟩ := general (events.take n) 0 mSensors fun _ => rfl
  exact ⟨by rw [countNumWakeupEvents, hcount, Nat.zero_add], hlookup⟩

theorem wakeups_congr {m m' : SensorMap} (h : ∀ k, getSensorInfo m' k = getSensorInfo m k)
    (events : List Event) : wakeups m' events = wakeups m events := by
  have : isWakeupEvent m' = isWakeupEvent m := by
    funext event
    rw [isWakeupEvent, isWakeupEvent, h]
  rw [wakeups, wakeups, this]

/-- `processEvents` counts the wake-up events it passes on. -/
theorem processEvents_snd (mSensors : SensorMap) (i : Nat) (events : List Event) :
    (processEvents mSensors i events).2 = wakeups mSensors (processEvents mSensors i events).1 := by
  have general : ∀ (events : List Event) (st : List Event × Nat), st.2 = wakeups mSensors st.1 →
      (events.foldl (processEvent mSensors i) st).2 =
        wakeups mSensors (events.foldl (processEvent mSensors i) st).1 := by
    intro events
    induction events with
    | nil => exact fun _ h => h
    | cons event events ih =>
      intro st hst
      rw [List.foldl_cons]
      apply ih
      rw [processEvent]
      dsimp only
      rw [wakeups_append, ← hst, wakeups, List.countP_singleton]
      unfold isWakeupEvent
      split <;> rfl
  exact general events ([], 0) rfl

/-! ## What failed chunks give back -/

/-- The delta of an iteration whose `writeBlocking` failed, and `mSensors`
afterwards (lines 597–606).  Without wake-up events there is no call, as with
delta 0. -/
def failedWriteDelta (mSensors : SensorMap) (pendingWriteEvents : List Event)
    (it : EventPipeline.Iteration) : Nat × SensorMap :=
  if 0 < it.numWakeupEvents then
    if it.eventQueueSize < pendingWriteEvents.length then
      countNumWakeupEvents mSensors pendingWriteEvents it.eventQueueSize
    else (it.numWakeupEvents, mSensors)
  else (0, mSensors)

/-- The sum of the deltas over the iterations for one pending entry, whose
`writeBlocking` calls turn out as in the list.  Posts add entries behind it and
leave it alone (`Consistent` in `PipelineRuns`). -/
def givenBack (eventQueueSize : Nat) : SensorMap → List Event × Nat → List Bool → Nat
  | _, _, [] => 0
  | mSensors, front, succeeds :: outcomes =>
    let (delta, mSensors) :=
      if succeeds then (0, mSensors)
      else failedWriteDelta mSensors front.1 (.ofFront eventQueueSize front)
    match EventPipeline.retireEntry eventQueueSize front with
    | none => delta
    | some front => delta + givenBack eventQueueSize mSensors front outcomes

/-- The events in the chunks whose write fails. -/
def failedChunks (eventQueueSize : Nat) : List Event → List Bool → List Event
  | _, [] => []
  | events, succeeds :: outcomes =>
    (if succeeds then [] else events.take eventQueueSize) ++
      if eventQueueSize < events.length then
        failedChunks eventQueueSize (events.drop eventQueueSize) outcomes
      else []

/-- The last chunk, if its turn comes and its write fails. -/
def failedLastChunk (eventQueueSize : Nat) : List Event → List Bool → Option (List Event)
  | _, [] => none
  | events, succeeds :: outcomes =>
    if eventQueueSize < events.length then
      failedLastChunk eventQueueSize (events.drop eventQueueSize) outcomes
    else if succeeds then none else some events

/-- **Giving back what was lost.**  The pending entry `front` gives back one
reference for each wake-up event in its failed chunks. -/
def GivesBackExactly (mSensors : SensorMap) (eventQueueSize : Nat) (front : List Event × Nat)
    (outcomes : List Bool) : Prop :=
  givenBack eventQueueSize mSensors front outcomes =
    wakeups mSensors (failedChunks eventQueueSize front.1 outcomes)

instance (mSensors : SensorMap) (eventQueueSize : Nat) (front : List Event × Nat)
    (outcomes : List Bool) : Decidable (GivesBackExactly mSensors eventQueueSize front outcomes) :=
  inferInstanceAs (Decidable (_ = _))

theorem suffix_of_failedLastChunk {eventQueueSize : Nat} {events last : List Event}
    {outcomes : List Bool} (h : failedLastChunk eventQueueSize events outcomes = some last) :
    last <:+ events := by
  induction outcomes generalizing events with
  | nil => cases h
  | cons succeeds outcomes ih =>
    rw [failedLastChunk] at h
    split at h
    · exact (ih h).trans (List.drop_suffix _ _)
    · split at h
      · cases h
      · cases h
        exact List.suffix_refl _

section OneIteration
variable (mSensors : SensorMap) {eventQueueSize : Nat} {events : List Event}

/-- Before the last chunk the worker counts. -/
theorem failedWriteDelta_of_lt (h : eventQueueSize < events.length) {numWakeupEvents : Nat}
    (hpos : 0 < numWakeupEvents) :
    failedWriteDelta mSensors events (.ofFront eventQueueSize (events, numWakeupEvents)) =
      countNumWakeupEvents mSensors events eventQueueSize :=
  (if_pos hpos).trans (if_pos h)

/-- For the last chunk it takes the number stored with the entry. -/
theorem failedWriteDelta_of_le (h : events.length ≤ eventQueueSize) (numWakeupEvents : Nat) :
    failedWriteDelta mSensors events (.ofFront eventQueueSize (events, numWakeupEvents)) =
      (numWakeupEvents, mSensors) := by
  rcases Nat.eq_zero_or_pos numWakeupEvents with hzero | hpos
  · subst hzero
    exact if_neg (Nat.lt_irrefl 0)
  · exact (if_pos hpos).trans (if_neg (Nat.not_lt_of_le h))

theorem givenBack_of_lt (h : eventQueueSize < events.length) (numWakeupEvents : Nat)
    (succeeds : Bool) (outcomes : List Bool) :
    givenBack eventQueueSize mSensors (events, numWakeupEvents) (succeeds :: outcomes) =
      let next := if succeeds then (0, mSensors) else
        failedWriteDelta mSensors events (.ofFront eventQueueSize (events, numWakeupEvents))
      next.1 +
        givenBack eventQueueSize next.2 (events.drop eventQueueSize, numWakeupEvents) outcomes := by
  have hretire : EventPipeline.retireEntry eventQueueSize (events, numWakeupEvents) =
      some (events.drop eventQueueSize, numWakeupEvents) := if_pos h
  rw [givenBack, hretire]

theorem givenBack_of_le (h : events.length ≤ eventQueueSize) (numWakeupEvents : Nat)
    (succeeds : Bool) (outcomes : List Bool) :
    givenBack eventQueueSize mSensors (events, numWakeupEvents) (succeeds :: outcomes) =
      if succeeds then 0 else numWakeupEvents := by
  have hretire : EventPipeline.retireEntry eventQueueSize (events, numWakeupEvents) = none :=
    if_neg (Nat.not_lt_of_le h)
  rw [givenBack, hretire]
  cases succeeds with
  | true => rfl
  | false =>
    rw [failedWriteDelta_of_le mSensors h]
    rfl

end OneIteration

/-- Nothing is given back for an entry that was stored with no wake-up event. -/
theorem givenBack_of_zero (eventQueueSize : Nat) (mSensors : SensorMap) (events : List Event)
    (outcomes : List Bool) : givenBack eventQueueSize mSensors (events, 0) outcomes = 0 := by
  induction outcomes generalizing events with
  | nil => rfl
  | cons succeeds outcomes ih =>
    have hdelta : failedWriteDelta mSensors events (.ofFront eventQueueSize (events, 0)) =
        (0, mSensors) := if_neg (Nat.lt_irrefl 0)
    by_cases hlt : eventQueueSize < events.length
    · rw [givenBack_of_lt mSensors hlt, hdelta, ite_self]
      dsimp only
      rw [ih]
    · rw [givenBack_of_le mSensors (Nat.le_of_not_lt hlt), ite_self]

/-- All chunks but the last are counted; for the last one the worker gives back
the number stored with the entry. -/
theorem givenBack_add (eventQueueSize : Nat) (mSensors : SensorMap) (events : List Event)
    {numWakeupEvents : Nat} (hpos : 0 < numWakeupEvents) (outcomes : List Bool) :
    givenBack eventQueueSize mSensors (events, numWakeupEvents) outcomes +
        ((failedLastChunk eventQueueSize events outcomes).elim 0 (wakeups mSensors)) =
      wakeups mSensors (failedChunks eventQueueSize events outcomes) +
        ((failedLastChunk eventQueueSize events outcomes).elim 0 fun _ => numWakeupEvents) := by
  induction outcomes generalizing events mSensors with
  | nil => rfl
  | cons succeeds outcomes ih =>
    rw [failedChunks, failedLastChunk, wakeups_append]
    by_cases hlt : eventQueueSize < events.length
    · rw [givenBack_of_lt mSensors hlt, if_pos hlt, if_pos hlt]
      cases succeeds with
      | true =>
        have hrest := ih mSensors (events.drop eventQueueSize)
        have hnone : wakeups mSensors [] = 0 := rfl
        simp only [if_true, hnone, Nat.zero_add]
        exact hrest
      | false =>
        rw [failedWriteDelta_of_lt mSensors hlt hpos]
        obtain ⟨hcount, hlookup⟩ := countNumWakeupEvents_spec mSensors events eventQueueSize
        have hrest := ih (countNumWakeupEvents mSensors events eventQueueSize).2
          (events.drop eventQueueSize)
        have hcongr : wakeups (countNumWakeupEvents mSensors events eventQueueSize).2 =
            wakeups mSensors := funext (wakeups_congr hlookup)
        rw [hcongr] at hrest
        simp only [Bool.false_eq_true, if_false]
        rw [hcount]
        omega
    · have hle := Nat.le_of_not_lt hlt
      rw [givenBack_of_le mSensors hle, if_neg hlt, if_neg hlt, List.take_of_length_le hle]
      cases succeeds with
      | true => rfl
      | false => simp [wakeups, Nat.add_comm]

/-- One pending entry. -/
theorem givesBackExactly_entry_iff (mSensors : SensorMap) (eventQueueSize : Nat)
    (events : List Event) (numWakeupEvents : Nat) (outcomes : List Bool) :
    GivesBackExactly mSensors eventQueueSize (events, numWakeupEvents) outcomes ↔
      if numWakeupEvents = 0 then
        wakeups mSensors (failedChunks eventQueueSize events outcomes) = 0
      else ∀ last, failedLastChunk eventQueueSize events outcomes = some last →
        wakeups mSensors last = numWakeupEvents := by
  unfold GivesBackExactly
  rcases Nat.eq_zero_or_pos numWakeupEvents with hzero | hpos
  · subst hzero
    rw [givenBack_of_zero, if_pos rfl, eq_comm]
  · have hadd := givenBack_add eventQueueSize mSensors events hpos outcomes
    rw [if_neg (by omega)]
    cases hlast : failedLastChunk eventQueueSize events outcomes with
    | none =>
      rw [hlast] at hadd
      simpa using hadd
    | some last =>
      rw [hlast] at hadd
      dsimp only [Option.elim] at hadd
      simp only [Option.some.injEq, forall_eq']
      omega

theorem wakeups_failedChunks_le (mSensors : SensorMap) (eventQueueSize : Nat) (events : List Event)
    (outcomes : List Bool) :
    wakeups mSensors (failedChunks eventQueueSize events outcomes) ≤ wakeups mSensors events := by
  induction outcomes generalizing events with
  | nil => exact Nat.zero_le _
  | cons succeeds outcomes ih =>
    have hcut : wakeups mSensors (events.take eventQueueSize) +
        wakeups mSensors (events.drop eventQueueSize) = wakeups mSensors events := by
      rw [← wakeups_append, List.take_append_drop]
    have hrest := ih (events.drop eventQueueSize)
    have hnone : wakeups mSensors [] = 0 := rfl
    rw [failedChunks, wakeups_append]
    split <;> split <;> omega

/-- **When a batch gives back exactly what it lost.**  An entry stored with
`numWakeupEvents` does if and only if its last chunk is written or has that many
wake-up events (with none stored: if and only if no wake-up event is lost).  For
the remainder of a batch stored with the number of its wake-up events this says
that the last chunk is written or that all wake-up events of the batch are in
it. -/
theorem givesBackExactly_iff (mSensors : SensorMap) (eventQueueSize : Nat) (outcomes : List Bool) :
    (∀ events numWakeupEvents,
      GivesBackExactly mSensors eventQueueSize (events, numWakeupEvents) outcomes ↔
        if numWakeupEvents = 0 then
          wakeups mSensors (failedChunks eventQueueSize events outcomes) = 0
        else ∀ last, failedLastChunk eventQueueSize events outcomes = some last →
          wakeups mSensors last = numWakeupEvents) ∧
    ∀ batch numToWrite,
      GivesBackExactly mSensors eventQueueSize (batch.drop numToWrite, wakeups mSensors batch)
          outcomes ↔
        ∀ last, failedLastChunk eventQueueSize (batch.drop numToWrite) outcomes = some last →
          wakeups mSensors (batch.take (batch.length - last.length)) = 0 := by
  refine ⟨fun events numWakeupEvents => givesBackExactly_entry_iff .., ?_⟩
  intro batch numToWrite
  rw [givesBackExactly_entry_iff]
  -- the last chunk is a suffix of the batch, and so are all chunks together
  have hsplit : ∀ last, last <:+ batch →
      wakeups mSensors (batch.take (batch.length - last.length)) + wakeups mSensors last =
        wakeups mSensors batch := by
    rintro last ⟨before, rfl⟩
    simp
  have hremainder : wakeups mSensors (batch.drop numToWrite) ≤ wakeups mSensors batch :=
    (List.drop_sublist _ _).countP_le
  split
  · rename_i hzero
    constructor
    · intro _ last hlast
      have := hsplit last ((suffix_of_failedLastChunk hlast).trans (List.drop_suffix _ _))
      omega
    · intro _
      have := wakeups_failedChunks_le mSensors eventQueueSize (batch.drop numToWrite) outcomes
      omega
  · refine forall₂_congr fun last hlast => ?_
    have := hsplit last ((suffix_of_failedLastChunk hlast).trans (List.drop_suffix _ _))
    omega

/-- A table with one wake-up sensor, and an event of it. -/
def oneWakeupSensor : SensorMap := (∅ : SensorMap).insert 1#32 ⟨1#32, 1, SensorFlagBits.WAKE_UP⟩

def oneWakeupEvent : Event := ⟨1#32, 1, ⟨0, 0, 0#32⟩⟩

/-- Of two wake-up events the first is written at once; the write of the second
fails, and the reference of the first is given back with it. -/
theorem not_givesBackExactly_split :
    ¬ ∀ mSensors eventQueueSize batch numToWrite outcomes,
      GivesBackExactly mSensors eventQueueSize (batch.drop numToWrite, wakeups mSensors batch)
        outcomes := by
  intro h
  have := h oneWakeupSensor 2 [oneWakeupEvent, oneWakeupEvent] 1 [false]
  exact absurd this (by decide)

/-! ## What a post is charged -/

/-- What a post changes of the proxy. -/
structure PostTarget (α : Type) where
  wakelock : SharedWakelock
  pipeline : EventPipeline Event
  /-- What the light correction remembers. -/
  correction : α

namespace PostTarget
variable {α : Type} (s : PostTarget α)

/-- With the clock at `now`; `succeeds` is the outcome of the direct write, if
there is one. -/
def postEventsToMessageQueue (limits : Limits) (process : α → Event → Event × α)
    (eventsList : List Event) (numWakeupEvents : Nat) (isLocked : Bool) (now : Int)
    (succeeds : Bool) : PostTarget α :=
  let wakelock :=
    if isLocked then s.wakelock.incrementRefCountAndMaybeAcquireWakelock numWakeupEvents now
    else s.wakelock
  let (events, correction) := correctEvents (correctLight process) s.correction eventsList
  { wakelock := wakelock
    pipeline := s.pipeline.writeOrStore limits events numWakeupEvents succeeds
    correction := correction }

/-- `HalProxyCallbackBase::postEvents` of sub-HAL `mSubHalIndex`. -/
def postEvents (limits : Limits) (process : α → Event → Event × α) (mSensors : SensorMap)
    (mSubHalIndex : Nat) (events : List Event) (isLocked : Bool) (now : Int) (succeeds : Bool) :
    PostTarget α :=
  if events.isEmpty || !s.wakelock.mThreadsRun then s
  else
    let (processedEvents, numWakeupEvents) := processEvents mSensors mSubHalIndex events
    s.postEventsToMessageQueue limits process processedEvents numWakeupEvents isLocked now succeeds

end PostTarget

namespace EventPipeline
variable {ε : Type} (p p' : EventPipeline ε)

/-- What has come into the event queue between `p` and `p'`. -/
def written : List ε := p'.mEventQueue.unread.drop p.mEventQueue.unread.length

/-- What has come into the pending queue. -/
def stored : List ε := p'.pendingEvents.drop p.pendingEvents.length

/-- The queues keep what they hold and take in the front of a batch and its back. -/
def TakesIn (events : List ε) (p p' : EventPipeline ε) : Prop :=
  (p'.mEventQueue.unread = p.mEventQueue.unread ++ p.written p' ∧
      p.written p' = events.take (p.written p').length) ∧
    p'.pendingEvents = p.pendingEvents ++ p.stored p' ∧
      p.stored p' = events.drop (events.length - (p.stored p').length)

variable (limits : Limits) (events : List ε) (numWakeupEvents : Nat) (succeeds : Bool)

theorem written_writeOrStore :
    p.written (p.writeOrStore limits events numWakeupEvents succeeds) =
      events.take (p.writtenAtOnce events.length succeeds) := by
  rw [written, (p.writeOrStore_spec limits events numWakeupEvents succeeds).1, List.drop_left]

theorem stored_writeOrStore :
    p.stored (p.writeOrStore limits events numWakeupEvents succeeds) =
      if p.Overflows limits events.length succeeds then []
      else events.drop (p.writtenAtOnce events.length succeeds) := by
  rw [stored, (p.writeOrStore_spec limits events numWakeupEvents succeeds).2, List.drop_left]

theorem length_written_writeOrStore :
    (p.written (p.writeOrStore limits events numWakeupEvents succeeds)).length =
      p.writtenAtOnce events.length succeeds := by
  rw [written_writeOrStore, List.length_take, Nat.min_eq_left (p.writtenAtOnce_le _ _)]

theorem length_sub_stored_writeOrStore :
    events.length - (p.stored (p.writeOrStore limits events numWakeupEvents succeeds)).length =
      if p.Overflows limits events.length succeeds then events.length
      else p.writtenAtOnce events.length succeeds := by
  rw [stored_writeOrStore]
  split
  · rfl
  · rw [List.length_drop, Nat.sub_sub_self (p.writtenAtOnce_le _ _)]

/-- The queues do so when a batch is written or stored. -/
theorem takesIn_writeOrStore :
    TakesIn events p (p.writeOrStore limits events numWakeupEvents succeeds) := by
  obtain ⟨hunread, hpending⟩ := p.writeOrStore_spec limits events numWakeupEvents succeeds
  refine ⟨⟨?_, ?_⟩, ?_, ?_⟩
  · rw [written_writeOrStore]
    exact hunread
  · rw [length_written_writeOrStore, written_writeOrStore]
  · rw [stored_writeOrStore]
    exact hpending
  · rw [length_sub_stored_writeOrStore, stored_writeOrStore]
    split
    · exact (List.drop_length ..).symm
    · rfl

end EventPipeline

/-- The wake-up events among `events` in the places of what has come into the event queue (the
front of the batch) and into the pending queue (its back). -/
def keptWakeups (mSensors : SensorMap) (events : List Event) (p p' : EventPipeline Event) : Nat :=
  wakeups mSensors (events.take (p.written p').length) +
    wakeups mSensors (events.drop (events.length - (p.stored p').length))

/-- **Charging what is kept.**  From `s` to `s'` the reference count rises by the
wake-up events that were kept. -/
def ChargesKept {α : Type} (mSensors : SensorMap) (events : List Event) (s s' : PostTarget α) :
    Prop :=
  s'.wakelock.mWakelockRefCount =
    s.wakelock.mWakelockRefCount + keptWakeups mSensors events s.pipeline s'.pipeline

theorem length_processEvents (mSensors : SensorMap) (i : Nat) (events : List Event) :
    (processEvents mSensors i events).1.length = events.length := by
  rw [processEvents_fst, List.length_map]

/-- The charge of a post is the number of its wake-up events. -/
theorem count_postEvents {α : Type} (limits : Limits) (process : α → Event → Event × α)
    {s : PostTarget α} (hrun : s.wakelock.mThreadsRun = true) (mSensors : SensorMap) (i : Nat)
    (events : List Event) (now : Int) (succeeds : Bool) :
    (s.postEvents limits process mSensors i events true now succeeds).wakelock.mWakelockRefCount =
      s.wakelock.mWakelockRefCount + wakeups mSensors (processEvents mSensors i events).1 := by
  rw [PostTarget.postEvents, hrun]
  by_cases hempty : events = []
  · subst hempty
    rfl
  · rw [if_neg (by simpa using hempty)]
    dsimp only [PostTarget.postEventsToMessageQueue]
    rw [if_pos rfl, SharedWakelock.increment_running hrun, processEvents_snd,
      SharedWakelock.incrementRefCount]

theorem postEvents_pipeline {α : Type} (limits : Limits) (process : α → Event → Event × α)
    {s : PostTarget α} (hrun : s.wakelock.mThreadsRun = true) (mSensors : SensorMap) (i : Nat)
    {events : List Event} (hne : events ≠ []) (isLocked : Bool) (now : Int) (succeeds : Bool) :
    (s.postEvents limits process mSensors i events isLocked now succeeds).pipeline =
      s.pipeline.writeOrStore limits
        (correctEvents (correctLight process) s.correction (processEvents mSensors i events).1).1
        (processEvents mSensors i events).2 succeeds := by
  rw [PostTarget.postEvents, hrun, if_neg (by simpa using hne)]
  rfl

/-- What comes into the queues is the corrected batch. -/
theorem takesIn_postEvents {α : Type} (limits : Limits) (process : α → Event → Event × α)
    {s : PostTarget α} (hrun : s.wakelock.mThreadsRun = true) (mSensors : SensorMap) (i : Nat)
    (events : List Event) (isLocked : Bool) (now : Int) (succeeds : Bool) :
    EventPipeline.TakesIn
      (correctEvents (correctLight process) s.correction (processEvents mSensors i events).1).1
      s.pipeline (s.postEvents limits process mSensors i events isLocked now succeeds).pipeline := by
  by_cases hempty : events = []
  · subst hempty
    have hsame : s.postEvents limits process mSensors i [] isLocked now succeeds = s := if_pos rfl
    rw [hsame]
    simp [EventPipeline.TakesIn, EventPipeline.written, EventPipeline.stored]
  · rw [postEvents_pipeline limits process hrun mSensors i hempty]
    exact EventPipeline.takesIn_writeOrStore ..

/-- A post keeps the events it writes at once and those it can store. -/
theorem keptWakeups_postEvents {α : Type} (limits : Limits) (process : α → Event → Event × α)
    {s : PostTarget α} (hrun : s.wakelock.mThreadsRun = true) (mSensors : SensorMap) (i : Nat)
    (events : List Event) (now : Int) (succeeds : Bool) :
    keptWakeups mSensors (processEvents mSensors i events).1 s.pipeline
        (s.postEvents limits process mSensors i events true now succeeds).pipeline =
      let processed := (processEvents mSensors i events).1
      let n := s.pipeline.writtenAtOnce events.length succeeds
      wakeups mSensors (processed.take n) +
        if s.pipeline.Overflows limits events.length succeeds then 0
        else wakeups mSensors (processed.drop n) := by
  by_cases hempty : events = []
  · subst hempty
    have hnil : (processEvents mSensors i []).1 = [] := rfl
    rw [keptWakeups, hnil]
    simp [wakeups]
  · have hlength : (correctEvents (correctLight process) s.correction
        (processEvents mSensors i events).1).1.length = events.length := by
      rw [length_correctEvents, length_processEvents]
    have hwritten := s.pipeline.length_written_writeOrStore limits (correctEvents
      (correctLight process) s.correction (processEvents mSensors i events).1).1
      (processEvents mSensors i events).2 succeeds
    have hstored := s.pipeline.length_sub_stored_writeOrStore limits (correctEvents
      (correctLight process) s.correction (processEvents mSensors i events).1).1
      (processEvents mSensors i events).2 succeeds
    rw [hlength] at hwritten hstored
    rw [keptWakeups, postEvents_pipeline limits process hrun mSensors i hempty, hwritten,
      length_processEvents, hstored]
    dsimp only
    congr 1
    split
    · rw [← length_processEvents mSensors i events, List.drop_length]
      rfl
    · rfl

/-- **When a post charges only for what it keeps.**  With the threads running, a
post with a locked wakelock puts the front of its batch, as corrected, into the
event queue, and its back or nothing into the pending queue; and it charges for
these if and only if the batch does not overflow the pending queue or the part
that is then discarded has no wake-up event. -/
theorem chargesKept_iff {α : Type} (limits : Limits) (process : α → Event → Event × α)
    {s : PostTarget α} (hrun : s.wakelock.mThreadsRun = true) (mSensors : SensorMap) (i : Nat)
    (events : List Event) (now : Int) (succeeds : Bool) :
    EventPipeline.TakesIn
      (correctEvents (correctLight process) s.correction (processEvents mSensors i events).1).1
      s.pipeline (s.postEvents limits process mSensors i events true now succeeds).pipeline ∧
    (ChargesKept mSensors (processEvents mSensors i events).1 s
        (s.postEvents limits process mSensors i events true now succeeds) ↔
      (s.pipeline.Overflows limits events.length succeeds →
        wakeups mSensors ((processEvents mSensors i events).1.drop
          (s.pipeline.writtenAtOnce events.length succeeds)) = 0)) := by
  refine ⟨takesIn_postEvents limits process hrun mSensors i events true now succeeds, ?_⟩
  have hcut : wakeups mSensors ((processEvents mSensors i events).1.take
        (s.pipeline.writtenAtOnce events.length succeeds)) +
      wakeups mSensors ((processEvents mSensors i events).1.drop
        (s.pipeline.writtenAtOnce events.length succeeds)) =
      wakeups mSensors (processEvents mSensors i events).1 := by
    rw [← wakeups_append, List.take_append_drop]
  rw [ChargesKept, count_postEvents limits process hrun, keptWakeups_postEvents limits process hrun]
  dsimp only
  split
  · rename_i hover
    constructor
    · intro h _
      omega
    · intro h
      have := h hover
      omega
  · rename_i hfits
    exact ⟨fun _ hover => absurd hover hfits, fun _ => by omega⟩

/-- A sub-HAL posts two wake-up events and there is room for them. -/
theorem chargesKept_two : ChargesKept oneWakeupSensor
    (processEvents oneWakeupSensor 0 [oneWakeupEvent, oneWakeupEvent]).1
    (⟨SharedWakelock.idle, ⟨⟨2, [], by decide⟩, [], 0, 0⟩, ()⟩ : PostTarget Unit)
    (PostTarget.postEvents ⟨SharedWakelock.idle, ⟨⟨2, [], by decide⟩, [], 0, 0⟩, ()⟩
      ⟨100000, 1000000, by decide⟩ (fun s event => (event, s)) oneWakeupSensor 0
      [oneWakeupEvent, oneWakeupEvent] true 1 true) :=
  (chargesKept_iff _ _ rfl _ _ _ _ _).2.mpr fun h => absurd h (by decide)

/-- The state in which a `ScopedWakelock` has just been created and both queues
are empty; the event queue has room for one event. -/
def oneScopedWakelock : PostTarget Unit where
  wakelock := SharedWakelock.idle.incrementRefCountAndMaybeAcquireWakelock 1 1
  pipeline := ⟨⟨1, [], by decide⟩, [], 0, 0⟩
  correction := ()

theorem wakeups_replicate (n : Nat) :
    wakeups oneWakeupSensor (List.replicate n oneWakeupEvent) = n := by
  have hwake : isWakeupEvent oneWakeupSensor oneWakeupEvent = true := by decide
  rw [wakeups, List.countP_replicate, if_pos hwake]

theorem processEvents_replicate (n : Nat) :
    (processEvents oneWakeupSensor 0 (List.replicate n oneWakeupEvent)).1 =
      List.replicate n oneWakeupEvent := by
  have hstamp : stampEvent 0 oneWakeupEvent = oneWakeupEvent := by decide
  rw [processEvents_fst, List.map_replicate, hstamp]

/-- A batch of more wake-up events than the pending queue may hold: all are
charged, one is kept. -/
theorem not_chargesKept_overflow :
    ¬ ∀ (limits : Limits) (process : Unit → Event → Event × Unit) (s : PostTarget Unit),
      s.wakelock.mThreadsRun = true → ∀ mSensors i events now succeeds,
      ChargesKept mSensors (processEvents mSensors i events).1 s
        (s.postEvents limits process mSensors i events true now succeeds) := by
  intro h
  have hcharge := h ⟨100000, 1000000, by decide⟩ (fun s event => (event, s)) oneScopedWakelock rfl
    oneWakeupSensor 0 (List.replicate 100002 oneWakeupEvent) 2 true
  rw [ChargesKept, count_postEvents _ _ rfl, keptWakeups_postEvents _ _ rfl] at hcharge
  have honce : oneScopedWakelock.pipeline.writtenAtOnce 100002 true = 1 := by decide
  have hover : oneScopedWakelock.pipeline.Overflows ⟨100000, 1000000, by decide⟩ 100002 true := by
    decide
  rw [processEvents_replicate, List.length_replicate, honce] at hcharge
  dsimp only at hcharge
  rw [if_pos hover, List.take_replicate, wakeups_replicate, wakeups_replicate] at hcharge
  omega

end SensorsHal
