import Sm8150Common.SensorTypes

/-! # From a post to the event queue

Events reach the framework through a fast message queue.  A post writes what it
can at once, if nothing waits before it, and leaves the rest of its batch in the
pending queue (`HalProxy.cpp`, lines 668–703); a worker thread writes the
pending batches a chunk at a time (lines 579–619).

The functions below are the stretches of that code between two places where
another thread may come in.  Events are of any type: none of this looks into
them. -/
namespace SensorsHal

/-! ## The message queue -/

/-- A message queue with one writer and one reader. -/
structure MessageQueue (ε : Type) where
  quantumCount : Nat
  unread : List ε
  fits : unread.length ≤ quantumCount

namespace MessageQueue
variable {ε : Type} (q : MessageQueue ε)

def availableToWrite : Nat := q.quantumCount - q.unread.length

/-- All or nothing: without room the write fails, and it may fail with room
(`succeeds`). -/
def write (items : List ε) (succeeds : Bool) : MessageQueue ε × Bool :=
  if h : succeeds = true ∧ items.length ≤ q.availableToWrite then
    (⟨q.quantumCount, q.unread ++ items, by
      have hroom := h.2
      have hfits := q.fits
      rw [availableToWrite] at hroom
      rw [List.length_append]
      omega⟩, true)
  else (q, false)

/-- The framework reads up to `n` items. -/
def read (n : Nat) : List ε × MessageQueue ε :=
  (q.unread.take n, ⟨q.quantumCount, q.unread.drop n, by
    have hfits := q.fits
    rw [List.length_drop]
    omega⟩)

theorem write_cases (items : List ε) (succeeds : Bool) :
    q.write items succeeds = (q, false) ∨
      (q.write items succeeds).2 = true ∧
      (q.write items succeeds).1.unread = q.unread ++ items ∧
      (q.write items succeeds).1.quantumCount = q.quantumCount := by
  unfold write
  split
  · exact Or.inr ⟨rfl, rfl, rfl⟩
  · exact Or.inl rfl

/-- What is read and what is left were unread. -/
theorem read_append (n : Nat) : (q.read n).1 ++ (q.read n).2.unread = q.unread :=
  List.take_append_drop n q.unread

end MessageQueue

/-! ## Sizes

`size_t` wraps at `0x10000000000000000`.  Adding the length of a batch does not
wrap: see `Limits`. -/

def sizeAdd (a b : Nat) : Nat := (a + b) % 0x10000000000000000

def sizeSub (a b : Nat) : Nat :=
  (a + (0x10000000000000000 - b % 0x10000000000000000)) % 0x10000000000000000

theorem sizeAdd_eq {a b : Nat} (h : a + b < 0x10000000000000000) : sizeAdd a b = a + b :=
  Nat.mod_eq_of_lt h

theorem sizeSub_eq {a b : Nat} (hb : b ≤ a) (ha : a < 0x10000000000000000) :
    sizeSub a b = a - b := by
  unfold sizeSub
  omega

/-- The bound on the pending queue (`HalProxy.h`), and the longest vector of
events there can be.  Together they stay in the range of `size_t`. -/
structure Limits where
  kMaxSizePendingWriteEventsQueue : Nat
  maxBatch : Nat
  fits : kMaxSizePendingWriteEventsQueue + maxBatch < 0x10000000000000000

/-! ## Posting -/

section Correction
variable {α ε : Type}

/-- Each event goes through `process`, in order, with whatever `process` keeps
from one event to the next. -/
def correctEvents (process : α → ε → ε × α) : α → List ε → List ε × α
  | s, [] => ([], s)
  | s, event :: events =>
    let (event, s) := process s event
    let (events, s) := correctEvents process s events
    (event :: events, s)

@[simp] theorem length_correctEvents (process : α → ε → ε × α) (s : α) (events : List ε) :
    (correctEvents process s events).1.length = events.length := by
  induction events generalizing s with
  | nil => rfl
  | cons event events ih => simp [correctEvents, ih]

/-- Only the vendor's light events are corrected (line 678). -/
def correctLight (process : α → Event → Event × α) (s : α) (event : Event) : Event × α :=
  if event.sensorType = SENSOR_TYPE_QTI_WISE_LIGHT then process s event else (event, s)

end Correction

/-- The event queue and the queue of batches in front of it, each batch with its
number of wake-up events. -/
structure EventPipeline (ε : Type) where
  mEventQueue : MessageQueue ε
  mPendingWriteEventsQueue : List (List ε × Nat)
  mSizePendingWriteEventsQueue : Nat
  mMostEventsObservedPendingWriteEventsQueue : Nat

namespace EventPipeline
variable {ε : Type} (p : EventPipeline ε)

/-- The events of the pending queue, in order. -/
def pendingEvents : List ε := p.mPendingWriteEventsQueue.flatMap Prod.fst

/-- The events a post tries to write at once (lines 681–682). -/
def directWriteCount (events : List ε) : Nat :=
  if p.mPendingWriteEventsQueue.isEmpty then min events.length p.mEventQueue.availableToWrite else 0

/-- The direct write, and `numToWrite` after it (lines 683–691). -/
def directWrite (events : List ε) (numToWrite : Nat) (succeeds : Bool) : EventPipeline ε × Nat :=
  if 0 < numToWrite then
    let (queue, written) := p.mEventQueue.write (events.take numToWrite) succeeds
    ({ p with mEventQueue := queue }, if written then numToWrite else 0)
  else (p, 0)

/-- The body of the conditional below (lines 696–700). -/
def pushPending (eventsLeft : List ε) (numWakeupEvents : Nat) : EventPipeline ε :=
  let size := sizeAdd p.mSizePendingWriteEventsQueue eventsLeft.length
  { p with
    mPendingWriteEventsQueue := p.mPendingWriteEventsQueue ++ [(eventsLeft, numWakeupEvents)]
    mSizePendingWriteEventsQueue := size
    mMostEventsObservedPendingWriteEventsQueue :=
      max p.mMostEventsObservedPendingWriteEventsQueue size }

/-- What is left of the batch waits, unless it is too much (lines 693–702). -/
def storeRemainder (limits : Limits) (events : List ε) (numWakeupEvents numToWrite : Nat) :
    EventPipeline ε :=
  if numToWrite < events.length ∧
      sizeAdd p.mSizePendingWriteEventsQueue (events.length - numToWrite) ≤
        limits.kMaxSizePendingWriteEventsQueue then
    p.pushPending (events.drop numToWrite) numWakeupEvents
  else p

/-- A post from line 681 on, if nothing comes in between. -/
def writeOrStore (limits : Limits) (events : List ε) (numWakeupEvents : Nat) (succeeds : Bool) :
    EventPipeline ε :=
  let (p, numToWrite) := p.directWrite events (p.directWriteCount events) succeeds
  p.storeRemainder limits events numWakeupEvents numToWrite

/-! ## The worker -/

/-- The locals of an iteration of the worker, taken while it holds the mutex
(lines 586–589). -/
structure Iteration where
  numWakeupEvents : Nat
  eventQueueSize : Nat
  numToWrite : Nat
  deriving DecidableEq, Repr

def Iteration.ofFront (eventQueueSize : Nat) (front : List ε × Nat) : Iteration :=
  { numWakeupEvents := front.2
    eventQueueSize := eventQueueSize
    numToWrite := min front.1.length eventQueueSize }

def beginIteration (front : List ε × Nat) : Iteration :=
  .ofFront p.mEventQueue.quantumCount front

/-- What becomes of the front entry when its chunk is done (lines 609–616). -/
def retireEntry (eventQueueSize : Nat) (front : List ε × Nat) : Option (List ε × Nat) :=
  if eventQueueSize < front.1.length then some (front.1.drop eventQueueSize, front.2) else none

/-- The end of an iteration, with the mutex taken again (lines 608–616). -/
def retireChunk (it : Iteration) : EventPipeline ε :=
  match p.mPendingWriteEventsQueue with
  | [] => p
  | front :: rest =>
    { p with
      mSizePendingWriteEventsQueue := sizeSub p.mSizePendingWriteEventsQueue it.numToWrite
      mPendingWriteEventsQueue := (retireEntry it.eventQueueSize front).toList ++ rest }

/-! ## The size on record -/

/-- The size is that of the pending queue and within the bound, no pending batch
is empty, and the most ever seen covers the size. -/
structure Sized (limits : Limits) : Prop where
  size : p.mSizePendingWriteEventsQueue = p.pendingEvents.length
  bounded : p.mSizePendingWriteEventsQueue ≤ limits.kMaxSizePendingWriteEventsQueue
  nonempty : ∀ entry ∈ p.mPendingWriteEventsQueue, entry.1 ≠ []
  observed : p.mSizePendingWriteEventsQueue ≤ p.mMostEventsObservedPendingWriteEventsQueue

variable {p} {limits : Limits}

theorem pendingEvents_cons {entry : List ε × Nat} {rest : List (List ε × Nat)}
    (h : p.mPendingWriteEventsQueue = entry :: rest) :
    p.pendingEvents = entry.1 ++ rest.flatMap Prod.fst := by
  rw [pendingEvents, h, List.flatMap_cons]

theorem isEmpty_of_directWriteCount_pos {events : List ε} (h : 0 < p.directWriteCount events) :
    p.mPendingWriteEventsQueue = [] := by
  unfold directWriteCount at h
  split at h
  · rename_i hempty
    exact List.isEmpty_iff.mp hempty
  · omega

theorem directWriteCount_le (p : EventPipeline ε) (events : List ε) :
    p.directWriteCount events ≤ events.length ∧
      p.directWriteCount events ≤ p.mEventQueue.availableToWrite := by
  unfold directWriteCount
  split
  · omega
  · omega

/-- Either nothing is written, or the first `numToWrite` events are, and nothing
else changes. -/
theorem directWrite_cases (p : EventPipeline ε) (events : List ε) (numToWrite : Nat)
    (succeeds : Bool) :
    p.directWrite events numToWrite succeeds = (p, 0) ∨
      (p.directWrite events numToWrite succeeds).2 = numToWrite ∧ 0 < numToWrite ∧
      ∃ queue : MessageQueue ε, queue.unread = p.mEventQueue.unread ++ events.take numToWrite ∧
        queue.quantumCount = p.mEventQueue.quantumCount ∧
        (p.directWrite events numToWrite succeeds).1 = { p with mEventQueue := queue } := by
  unfold directWrite
  split
  · rename_i hpos
    rcases p.mEventQueue.write_cases (events.take numToWrite) succeeds with h | ⟨hok, hun, hq⟩
    · rw [h]
      exact Or.inl rfl
    · refine Or.inr ⟨?_, hpos, _, hun, hq, rfl⟩
      exact if_pos hok
  · exact Or.inl rfl

/-- The remainder of a batch, if there is one, is stored as the last batch, or
the bound is exceeded and nothing changes. -/
theorem storeRemainder_cases (p : EventPipeline ε) (limits : Limits) (events : List ε)
    (numWakeupEvents numToWrite : Nat) :
    (numToWrite < events.length ∧
      sizeAdd p.mSizePendingWriteEventsQueue (events.length - numToWrite) ≤
        limits.kMaxSizePendingWriteEventsQueue ∧
      p.storeRemainder limits events numWakeupEvents numToWrite =
        p.pushPending (events.drop numToWrite) numWakeupEvents) ∨
    ((numToWrite < events.length → limits.kMaxSizePendingWriteEventsQueue <
        sizeAdd p.mSizePendingWriteEventsQueue (events.length - numToWrite)) ∧
      p.storeRemainder limits events numWakeupEvents numToWrite = p) := by
  unfold storeRemainder
  split
  · rename_i h
    exact Or.inl ⟨h.1, h.2, rfl⟩
  · rename_i h
    exact Or.inr ⟨fun hlt => Nat.lt_of_not_le fun hle => h ⟨hlt, hle⟩, rfl⟩

@[simp] theorem pendingEvents_pushPending (p : EventPipeline ε) (eventsLeft : List ε)
    (numWakeupEvents : Nat) :
    (p.pushPending eventsLeft numWakeupEvents).pendingEvents = p.pendingEvents ++ eventsLeft := by
  simp [pendingEvents, pushPending]

/-! ## A whole post -/

/-- How many of `n` events a post writes at once. -/
def writtenAtOnce (p : EventPipeline ε) (n : Nat) (succeeds : Bool) : Nat :=
  if p.mPendingWriteEventsQueue.isEmpty = true ∧ succeeds = true then
    min n p.mEventQueue.availableToWrite
  else 0

theorem writtenAtOnce_le (p : EventPipeline ε) (n : Nat) (succeeds : Bool) :
    p.writtenAtOnce n succeeds ≤ n := by
  unfold writtenAtOnce
  split
  · exact Nat.min_le_left _ _
  · exact Nat.zero_le _

/-- What is left of `n` events would take the pending queue over its bound. -/
def Overflows (limits : Limits) (p : EventPipeline ε) (n : Nat) (succeeds : Bool) : Prop :=
  p.writtenAtOnce n succeeds < n ∧ limits.kMaxSizePendingWriteEventsQueue <
    sizeAdd p.mSizePendingWriteEventsQueue (n - p.writtenAtOnce n succeeds)

instance (limits : Limits) (p : EventPipeline ε) (n : Nat) (succeeds : Bool) :
    Decidable (p.Overflows limits n succeeds) :=
  inferInstanceAs (Decidable (_ ∧ _))

theorem directWrite_spec (p : EventPipeline ε) (events : List ε) (succeeds : Bool) :
    ∃ queue : MessageQueue ε,
      p.directWrite events (p.directWriteCount events) succeeds =
        ({ p with mEventQueue := queue }, p.writtenAtOnce events.length succeeds) ∧
      queue.quantumCount = p.mEventQueue.quantumCount ∧
      queue.unread =
        p.mEventQueue.unread ++ events.take (p.writtenAtOnce events.length succeeds) := by
  have hfits := (p.directWriteCount_le events).2
  unfold directWrite
  by_cases hpos : 0 < p.directWriteCount events
  · have hempty := isEmpty_of_directWriteCount_pos hpos
    have hcount : p.directWriteCount events =
        min events.length p.mEventQueue.availableToWrite := by
      rw [directWriteCount, hempty]
      rfl
    rw [if_pos hpos]
    unfold MessageQueue.write writtenAtOnce
    cases succeeds with
    | true =>
      rw [dif_pos ⟨rfl, Nat.le_trans (List.length_take_le _ _) hfits⟩, hempty, ← hcount]
      exact ⟨_, rfl, rfl, rfl⟩
    | false =>
      rw [dif_neg (by simp), if_neg (by simp)]
      exact ⟨_, rfl, rfl, by simp⟩
  · have hzero : p.writtenAtOnce events.length succeeds = 0 := by
      unfold directWriteCount at hpos
      unfold writtenAtOnce
      split
      · rename_i h
        rw [if_pos h.1] at hpos
        omega
      · rfl
    rw [if_neg hpos, hzero]
    exact ⟨p.mEventQueue, rfl, rfl, by simp⟩

/-- A post appends to the event queue what it writes at once, and to the pending
queue the rest, unless that overflows. -/
theorem writeOrStore_spec (p : EventPipeline ε) (limits : Limits) (events : List ε)
    (numWakeupEvents : Nat) (succeeds : Bool) :
    (p.writeOrStore limits events numWakeupEvents succeeds).mEventQueue.unread =
        p.mEventQueue.unread ++ events.take (p.writtenAtOnce events.length succeeds) ∧
      (p.writeOrStore limits events numWakeupEvents succeeds).pendingEvents =
        p.pendingEvents ++
          if p.Overflows limits events.length succeeds then []
          else events.drop (p.writtenAtOnce events.length succeeds) := by
  obtain ⟨queue, hwrite, hq, hunread⟩ := p.directWrite_spec events succeeds
  rw [writeOrStore, hwrite]
  dsimp only
  rcases storeRemainder_cases { p with mEventQueue := queue } limits events numWakeupEvents
    (p.writtenAtOnce events.length succeeds) with ⟨hlt, hle, hst⟩ | ⟨hover, hst⟩
  · rw [hst, if_neg (fun h => absurd h.2 (Nat.not_lt_of_le hle)), pendingEvents_pushPending]
    exact ⟨hunread, rfl⟩
  · rw [hst]
    refine ⟨hunread, ?_⟩
    by_cases hlt : p.writtenAtOnce events.length succeeds < events.length
    · rw [if_pos ⟨hlt, hover hlt⟩, List.append_nil]
      rfl
    · rw [if_neg (fun h => hlt h.1), List.drop_eq_nil_iff.mpr (Nat.le_of_not_lt hlt),
        List.append_nil]
      rfl

/-- A post whose remainder is empty or refused touches the event queue only. -/
theorem writeOrStore_of_refused (p : EventPipeline ε) (limits : Limits) (events : List ε)
    (numWakeupEvents : Nat) (succeeds : Bool)
    (h : p.writtenAtOnce events.length succeeds < events.length →
      p.Overflows limits events.length succeeds) :
    ∃ queue : MessageQueue ε,
      p.writeOrStore limits events numWakeupEvents succeeds = { p with mEventQueue := queue } := by
  obtain ⟨queue, hwrite, -, -⟩ := p.directWrite_spec events succeeds
  refine ⟨queue, ?_⟩
  rw [writeOrStore, hwrite]
  dsimp only
  rcases storeRemainder_cases { p with mEventQueue := queue } limits events numWakeupEvents
    (p.writtenAtOnce events.length succeeds) with ⟨hlt, hle, -⟩ | ⟨-, hst⟩
  · exact absurd (h hlt).2 (Nat.not_lt_of_le hle)
  · exact hst

/-- A chunk leaves from the front. -/
theorem pendingEvents_retireChunk {front : List ε × Nat} {rest : List (List ε × Nat)}
    (h : p.mPendingWriteEventsQueue = front :: rest) :
    (p.retireChunk (p.beginIteration front)).pendingEvents =
      p.pendingEvents.drop (p.beginIteration front).numToWrite := by
  rw [pendingEvents_cons h, pendingEvents, retireChunk, h]
  dsimp only [beginIteration, Iteration.ofFront]
  unfold retireEntry
  split
  · rename_i hlt
    rw [Nat.min_eq_right (Nat.le_of_lt hlt)]
    rw [List.drop_append_of_le_length (Nat.le_of_lt hlt)]
    simp
  · rename_i hle
    rw [Nat.min_eq_left (Nat.le_of_not_lt hle)]
    simp

theorem Sized.of_queue (h : p.Sized limits) (queue : MessageQueue ε) :
    ({ p with mEventQueue := queue } : EventPipeline ε).Sized limits :=
  ⟨h.size, h.bounded, h.nonempty, h.observed⟩

/-- Below the bound the addition does not wrap. -/
theorem Sized.sizeAdd_eq (h : p.Sized limits) {n : Nat} (hn : n ≤ limits.maxBatch) :
    sizeAdd p.mSizePendingWriteEventsQueue n = p.pendingEvents.length + n := by
  have hbound := h.bounded
  have hfits := limits.fits
  rw [← h.size]
  exact SensorsHal.sizeAdd_eq (by omega)

theorem Sized.storeRemainder (h : p.Sized limits) {events : List ε}
    (hlen : events.length ≤ limits.maxBatch) (numWakeupEvents numToWrite : Nat) :
    (p.storeRemainder limits events numWakeupEvents numToWrite).Sized limits := by
  rcases p.storeRemainder_cases limits events numWakeupEvents numToWrite with
    ⟨hlt, hle, hst⟩ | ⟨-, hst⟩
  · rw [hst]
    have hleft : (events.drop numToWrite).length = events.length - numToWrite := List.length_drop
    refine ⟨?_, ?_, ?_, Nat.le_max_right _ _⟩
    · rw [pendingEvents_pushPending, List.length_append, ← h.sizeAdd_eq (by omega)]
      rfl
    · show sizeAdd _ (events.drop numToWrite).length ≤ _
      rw [hleft]
      exact hle
    · intro entry hentry
      rcases List.mem_append.mp hentry with hentry | hentry
      · exact h.nonempty entry hentry
      · rw [List.mem_singleton.mp hentry]
        intro hnil
        have := List.drop_eq_nil_iff.mp hnil
        omega
  · rw [hst]
    exact h

/-- A chunk is part of what is pending. -/
theorem Sized.numToWrite_le (h : p.Sized limits) {front : List ε × Nat}
    {rest : List (List ε × Nat)} (hpend : p.mPendingWriteEventsQueue = front :: rest) :
    (p.beginIteration front).numToWrite ≤ p.mSizePendingWriteEventsQueue := by
  rw [h.size, pendingEvents_cons hpend, List.length_append]
  exact Nat.le_trans (Nat.min_le_left _ _) (Nat.le_add_right _ _)

/-- Retiring a chunk takes its size off, without wrapping. -/
theorem Sized.size_retireChunk (h : p.Sized limits) {front : List ε × Nat}
    {rest : List (List ε × Nat)} (hpend : p.mPendingWriteEventsQueue = front :: rest) :
    (p.retireChunk (p.beginIteration front)).mSizePendingWriteEventsQueue =
      p.mSizePendingWriteEventsQueue - (p.beginIteration front).numToWrite := by
  have hbound := h.bounded
  have hfits := limits.fits
  rw [EventPipeline.retireChunk, hpend]
  exact sizeSub_eq (h.numToWrite_le hpend) (by omega)

theorem Sized.retireChunk (h : p.Sized limits) {front : List ε × Nat}
    {rest : List (List ε × Nat)} (hpend : p.mPendingWriteEventsQueue = front :: rest) :
    (p.retireChunk (p.beginIteration front)).Sized limits := by
  have hsub := h.size_retireChunk hpend
  refine ⟨?_, ?_, ?_, ?_⟩
  · rw [hsub, pendingEvents_retireChunk hpend, List.length_drop, h.size]
  · rw [hsub]
    exact Nat.le_trans (Nat.sub_le _ _) h.bounded
  · intro entry hentry
    rw [EventPipeline.retireChunk, hpend] at hentry
    rcases List.mem_append.mp hentry with hentry | hentry
    · unfold retireEntry at hentry
      split at hentry
      · rename_i hlt
        rw [List.mem_singleton.mp hentry]
        intro hnil
        have := List.drop_eq_nil_iff.mp hnil
        omega
      · cases hentry
    · exact h.nonempty entry (hpend ▸ List.mem_cons_of_mem _ hentry)
  · rw [hsub, EventPipeline.retireChunk, hpend]
    exact Nat.le_trans (Nat.sub_le _ _) h.observed

end EventPipeline
end SensorsHal
