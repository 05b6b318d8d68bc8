import Sm8150Common.Library.StepMachine

/-! # The shared wakelock

The proxy keeps the device awake with one kernel wakelock and a reference count
(`HalProxy.cpp`, lines 625–735).  References are taken by `ScopedWakelock`
objects, one each, and by posted batches, one for each wake-up event; they are
given back by the destructors, by acknowledgements of the framework and by
pending writes that fail.  A reset after `kWakelockTimeoutNs` drops whatever is
left.

The count is a natural number: it stays below the maximum of `size_t`.  Times
are in nanoseconds.  `kernelWakelock` records which of `acquire_wake_lock` and
`release_wake_lock` was called last. -/
namespace SensorsHal

/-- How long the lock is kept after the last reference was taken (`HalProxy.h`). -/
structure WakelockTimeout where
  kWakelockTimeoutNs : Int
  positive : 0 < kWakelockTimeoutNs

def WakelockTimeout.oneSecond : WakelockTimeout := ⟨1000000000, by decide⟩

/-- The fields of `HalProxy` that the lock is kept in, and what the kernel was last told. -/
structure SharedWakelock where
  mThreadsRun : Bool
  mWakelockRefCount : Nat
  mWakelockTimeoutStartTime : Int
  mWakelockTimeoutResetTime : Int
  kernelWakelock : Bool
  deriving DecidableEq, Repr

namespace SharedWakelock
variable (w : SharedWakelock)

/-- An increment under `mWakelockMutex`, with the clock at `now`, which is also what
`*timeoutStart` gets. -/
def incrementRefCount (delta : Nat) (now : Int) : SharedWakelock :=
  { w with
    kernelWakelock := if w.mWakelockRefCount = 0 then true else w.kernelWakelock
    mWakelockTimeoutStartTime := now
    mWakelockRefCount := w.mWakelockRefCount + delta }

/-- A decrement under `mWakelockMutex`.  `timeoutStart` is `-1` for the callers that pass
none. -/
def decrementRefCount (delta : Nat) (timeoutStart : Int) : SharedWakelock :=
  let timeoutStart := if timeoutStart = -1 then w.mWakelockTimeoutResetTime else timeoutStart
  if w.mWakelockRefCount = 0 ∨ timeoutStart < w.mWakelockTimeoutResetTime then w
  else
    let count := w.mWakelockRefCount - min w.mWakelockRefCount delta
    { w with
      mWakelockRefCount := count
      kernelWakelock := if count = 0 then false else w.kernelWakelock }

/-- The flag is tested before the mutex is taken (line 707). -/
def incrementRefCountAndMaybeAcquireWakelock (delta : Nat) (now : Int) : SharedWakelock :=
  if !w.mThreadsRun then w else w.incrementRefCount delta now

/-- So it is here (line 723). -/
def decrementRefCountAndMaybeReleaseWakelock (delta : Nat) (timeoutStart : Int) : SharedWakelock :=
  if !w.mThreadsRun then w else w.decrementRefCount delta timeoutStart

/-- The reset is a decrement by the whole count. -/
def resetSharedWakelock (now : Int) : SharedWakelock :=
  { w.decrementRefCountAndMaybeReleaseWakelock w.mWakelockRefCount (-1) with
    mWakelockTimeoutResetTime := now }

/-- `none` if the lock has timed out, else `*timeLeft`. -/
def sharedWakelockDidTimeout (timeout : WakelockTimeout) (now : Int) : Option Int :=
  let duration := now - w.mWakelockTimeoutStartTime
  if duration > timeout.kWakelockTimeoutNs then none
  else some (timeout.kWakelockTimeoutNs - duration)

/-- The operations on the lock, each under `mWakelockMutex`, and the store to
`mThreadsRun`. -/
inductive Op
  | increment (delta : Nat) (now : Int)
  | decrement (delta : Nat) (timeoutStart : Int)
  | reset (now : Int)
  | storeThreadsRun (run : Bool)
  deriving DecidableEq, Repr

def apply : Op → SharedWakelock
  | .increment delta now => w.incrementRefCountAndMaybeAcquireWakelock delta now
  | .decrement delta timeoutStart => w.decrementRefCountAndMaybeReleaseWakelock delta timeoutStart
  | .reset now => w.resetSharedWakelock now
  | .storeThreadsRun run => { w with mThreadsRun := run }

/-- The operations in any order, from a count of zero and a released lock. -/
def machine : StepMachine SharedWakelock Op where
  init w := w.mWakelockRefCount = 0 ∧ w.kernelWakelock = false
  step w op := some (w.apply op)

/-! ## What each operation does to the count and the kernel lock -/

/-- A delta that is cut off at the count takes the count to zero. -/
theorem sub_min_left (count delta : Nat) : count - min count delta = count - delta := by
  omega

/-- Any give-back takes at most its delta, and releases the lock on reaching
zero. -/
theorem decrementRefCount_cases (delta : Nat) (timeoutStart : Int) :
    w.decrementRefCount delta timeoutStart = w ∨
      w.decrementRefCount delta timeoutStart =
        { w with
          mWakelockRefCount := w.mWakelockRefCount - delta
          kernelWakelock := if w.mWakelockRefCount - delta = 0 then false else w.kernelWakelock } := by
  rw [decrementRefCount]
  dsimp only
  generalize (if timeoutStart = -1 then w.mWakelockTimeoutResetTime else timeoutStart) = start
  rw [sub_min_left]
  split
  · exact Or.inl rfl
  · exact Or.inr rfl

variable {w}

/-- A give-back that carries a time from before the last reset does nothing. -/
theorem decrementRefCount_stale (delta : Nat) {timeoutStart : Int} (hne : timeoutStart ≠ -1)
    (hlt : timeoutStart < w.mWakelockTimeoutResetTime) :
    w.decrementRefCount delta timeoutStart = w := by
  rw [decrementRefCount]
  dsimp only
  rw [if_neg hne, if_pos (Or.inr hlt)]

/-- One that comes in time, or without one, counts against whatever is there. -/
theorem decrementRefCount_timely (delta : Nat) {timeoutStart : Int}
    (htime : ¬ (timeoutStart ≠ -1 ∧ timeoutStart < w.mWakelockTimeoutResetTime))
    (hpos : 0 < w.mWakelockRefCount) :
    w.decrementRefCount delta timeoutStart =
      { w with
        mWakelockRefCount := w.mWakelockRefCount - delta
        kernelWakelock := if w.mWakelockRefCount - delta = 0 then false else w.kernelWakelock } := by
  have hstart : ¬ (w.mWakelockRefCount = 0 ∨
      (if timeoutStart = -1 then w.mWakelockTimeoutResetTime else timeoutStart) <
        w.mWakelockTimeoutResetTime) := by
    split <;> omega
  rw [decrementRefCount]
  dsimp only
  rw [if_neg hstart, sub_min_left]

theorem decrementRefCount_of_zero (hzero : w.mWakelockRefCount = 0) (delta : Nat)
    (timeoutStart : Int) : w.decrementRefCount delta timeoutStart = w := by
  rw [decrementRefCount]
  dsimp only
  rw [if_pos (Or.inl hzero)]

section Running
variable (hrun : w.mThreadsRun = true)
include hrun

theorem increment_running (delta : Nat) (now : Int) :
    w.incrementRefCountAndMaybeAcquireWakelock delta now = w.incrementRefCount delta now := by
  rw [incrementRefCountAndMaybeAcquireWakelock, hrun, if_neg (by decide)]

theorem decrement_running (delta : Nat) (timeoutStart : Int) :
    w.decrementRefCountAndMaybeReleaseWakelock delta timeoutStart =
      w.decrementRefCount delta timeoutStart := by
  rw [decrementRefCountAndMaybeReleaseWakelock, hrun, if_neg (by decide)]

theorem decrement_stale (delta : Nat) {timeoutStart : Int} (hne : timeoutStart ≠ -1)
    (hlt : timeoutStart < w.mWakelockTimeoutResetTime) :
    w.decrementRefCountAndMaybeReleaseWakelock delta timeoutStart = w := by
  rw [decrement_running hrun, decrementRefCount_stale delta hne hlt]

theorem decrement_untimed (delta : Nat) (hpos : 0 < w.mWakelockRefCount) :
    w.decrementRefCountAndMaybeReleaseWakelock delta (-1) =
      { w with
        mWakelockRefCount := w.mWakelockRefCount - delta
        kernelWakelock := if w.mWakelockRefCount - delta = 0 then false else w.kernelWakelock } := by
  rw [decrement_running hrun, decrementRefCount_timely delta (by simp) hpos]

/-- How many references a give-back takes at most. -/
theorem le_count_decrement (delta : Nat) (timeoutStart : Int) :
    w.mWakelockRefCount - delta ≤
      (w.decrementRefCountAndMaybeReleaseWakelock delta timeoutStart).mWakelockRefCount := by
  rw [decrement_running hrun]
  rcases w.decrementRefCount_cases delta timeoutStart with h | h
  · rw [h]
    exact Nat.sub_le _ _
  · exact Nat.le_of_eq (congrArg mWakelockRefCount h).symm

end Running

section Stopped
variable (hstop : w.mThreadsRun = false)
include hstop

theorem increment_stopped (delta : Nat) (now : Int) :
    w.incrementRefCountAndMaybeAcquireWakelock delta now = w := by
  rw [incrementRefCountAndMaybeAcquireWakelock, hstop, if_pos (by decide)]

theorem decrement_stopped (delta : Nat) (timeoutStart : Int) :
    w.decrementRefCountAndMaybeReleaseWakelock delta timeoutStart = w := by
  rw [decrementRefCountAndMaybeReleaseWakelock, hstop, if_pos (by decide)]

end Stopped

theorem decrement_of_zero (hzero : w.mWakelockRefCount = 0) (delta : Nat)
    (timeoutStart : Int) : w.decrementRefCountAndMaybeReleaseWakelock delta timeoutStart = w := by
  cases hrun : w.mThreadsRun with
  | false => exact decrement_stopped hrun delta timeoutStart
  | true => rw [decrement_running hrun, decrementRefCount_of_zero hzero]

/-- A give-back leaves the flag and the times alone. -/
theorem decrementRefCount_keeps (w : SharedWakelock) (delta : Nat) (timeoutStart : Int) :
    (w.decrementRefCount delta timeoutStart).mThreadsRun = w.mThreadsRun ∧
      (w.decrementRefCount delta timeoutStart).mWakelockTimeoutResetTime =
        w.mWakelockTimeoutResetTime := by
  rcases w.decrementRefCount_cases delta timeoutStart with h | h <;> rw [h] <;> exact ⟨rfl, rfl⟩

theorem decrement_keeps (w : SharedWakelock) (delta : Nat) (timeoutStart : Int) :
    (w.decrementRefCountAndMaybeReleaseWakelock delta timeoutStart).mThreadsRun = w.mThreadsRun ∧
      (w.decrementRefCountAndMaybeReleaseWakelock delta timeoutStart).mWakelockTimeoutResetTime =
        w.mWakelockTimeoutResetTime := by
  cases hrun : w.mThreadsRun with
  | false =>
    rw [decrement_stopped hrun]
    exact ⟨hrun, rfl⟩
  | true =>
    rw [decrement_running hrun]
    obtain ⟨hkeep, hreset⟩ := w.decrementRefCount_keeps delta timeoutStart
    exact ⟨hkeep.trans hrun, hreset⟩

/-- **What an operation can do** to the count and the kernel lock: nothing; add to
the count, and acquire the lock if the count was zero; take from the count, and
release the lock if the count becomes zero. -/
theorem apply_cases (w : SharedWakelock) (op : Op) :
    ((w.apply op).mWakelockRefCount = w.mWakelockRefCount ∧
      (w.apply op).kernelWakelock = w.kernelWakelock) ∨
    (∃ delta now, op = .increment delta now ∧ w.mThreadsRun = true ∧
      (w.apply op).mWakelockRefCount = w.mWakelockRefCount + delta ∧
      (w.apply op).kernelWakelock = if w.mWakelockRefCount = 0 then true else w.kernelWakelock) ∨
    ∃ delta, (w.apply op).mWakelockRefCount = w.mWakelockRefCount - delta ∧
      (w.apply op).kernelWakelock =
        if w.mWakelockRefCount - delta = 0 then false else w.kernelWakelock := by
  cases hrun : w.mThreadsRun with
  | false =>
    refine Or.inl ?_
    cases op with
    | increment delta now =>
      rw [apply, increment_stopped hrun]
      exact ⟨rfl, rfl⟩
    | decrement delta start =>
      rw [apply, decrement_stopped hrun]
      exact ⟨rfl, rfl⟩
    | reset now =>
      rw [apply, resetSharedWakelock, decrement_stopped hrun]
      exact ⟨rfl, rfl⟩
    | storeThreadsRun run => exact ⟨rfl, rfl⟩
  | true =>
    cases op with
    | increment delta now =>
      refine Or.inr (Or.inl ⟨delta, now, rfl, rfl, ?_⟩)
      rw [apply, increment_running hrun]
      exact ⟨rfl, rfl⟩
    | decrement delta start =>
      rw [apply, decrement_running hrun]
      rcases w.decrementRefCount_cases delta start with h | h <;> rw [h]
      · exact Or.inl ⟨rfl, rfl⟩
      · exact Or.inr (Or.inr ⟨delta, rfl, rfl⟩)
    | reset now =>
      rw [apply, resetSharedWakelock, decrement_running hrun]
      rcases w.decrementRefCount_cases w.mWakelockRefCount (-1) with h | h <;> rw [h]
      · exact Or.inl ⟨rfl, rfl⟩
      · exact Or.inr (Or.inr ⟨w.mWakelockRefCount, rfl, rfl⟩)
    | storeThreadsRun run => exact Or.inl ⟨rfl, rfl⟩

/-! ## The lock is held while the count is positive -/

theorem apply_held {w : SharedWakelock} (hw : 0 < w.mWakelockRefCount → w.kernelWakelock = true)
    (op : Op) : 0 < (w.apply op).mWakelockRefCount → (w.apply op).kernelWakelock = true := by
  intro hpos
  obtain ⟨hcount, hlock⟩ | ⟨delta, now, -, -, hcount, hlock⟩ | ⟨delta, hcount, hlock⟩ :=
    w.apply_cases op
  · rw [hlock]
    exact hw (by omega)
  · rw [hlock]
    split
    · rfl
    · exact hw (by omega)
  · rw [hlock, if_neg (by omega)]
    exact hw (by omega)

/-- **While there is a reference the lock is held**, on every run. -/
theorem held_of_positive {w : SharedWakelock} (h : machine.Reachable w) :
    0 < w.mWakelockRefCount → w.kernelWakelock = true := by
  refine h.invariant (I := fun w => 0 < w.mWakelockRefCount → w.kernelWakelock = true) ?_ ?_
  · rintro w ⟨hzero, -⟩ hpos
    omega
  · intro w op v hw hv
    cases hv
    exact apply_held hw op

/-! ## The lock is released while the count is zero

An increment by zero acquires the lock when the count is zero, and leaves the
count at zero. -/

/-- No increment by zero finds the count at zero. -/
def NoIdleIncrement (w : SharedWakelock) : Op → Prop
  | .increment delta _ => w.mThreadsRun = true → 0 < delta ∨ 0 < w.mWakelockRefCount
  | _ => True

theorem apply_released {w : SharedWakelock}
    (hw : w.mWakelockRefCount = 0 → w.kernelWakelock = false) {op : Op}
    (hop : NoIdleIncrement w op) :
    (w.apply op).mWakelockRefCount = 0 → (w.apply op).kernelWakelock = false := by
  intro hzero
  obtain ⟨hcount, hlock⟩ | ⟨delta, now, rfl, hrun, hcount, -⟩ | ⟨delta, hcount, hlock⟩ :=
    w.apply_cases op
  · rw [hlock]
    exact hw (by omega)
  · have hadds := hop hrun
    omega
  · rw [hlock, if_pos (by omega)]

/-- **The kernel lock is held exactly while there are references**, in every run
in which no increment by zero finds the count at zero. -/
theorem held_iff_positive {w : SharedWakelock} (h : machine.ReachableBy NoIdleIncrement w) :
    w.kernelWakelock = true ↔ 0 < w.mWakelockRefCount := by
  have hreleased : w.mWakelockRefCount = 0 → w.kernelWakelock = false := by
    refine h.invariant (I := fun w => w.mWakelockRefCount = 0 → w.kernelWakelock = false) ?_ ?_
    · exact fun w hw _ => hw.2
    · intro w op v hw hop hv
      cases hv
      exact apply_released hw hop
  constructor
  · intro hheld
    apply Nat.pos_of_ne_zero
    intro hzero
    rw [hreleased hzero] at hheld
    cases hheld
  · exact held_of_positive h.reachable

/-- The start: threads running, nothing held. -/
def idle : SharedWakelock := ⟨true, 0, 0, 0, false⟩

theorem idle_init : machine.init idle := ⟨rfl, rfl⟩

/-- A `ScopedWakelock` and a wake-up event that is acknowledged. -/
theorem held_iff_positive_example :
    ((idle.apply (.increment 1 1)).apply (.decrement 1 (-1))).kernelWakelock = true ↔
      0 < ((idle.apply (.increment 1 1)).apply (.decrement 1 (-1))).mWakelockRefCount :=
  held_iff_positive
    (.step (l := .decrement 1 (-1))
      (.step (l := .increment 1 1) (.init idle_init) (fun _ => Or.inl (by decide)) rfl) trivial rfl)

/-- A `ScopedWakelock` is created, the lock times out, its owner posts a batch
without wake-up events, the `ScopedWakelock` is destroyed: the kernel lock stays
held although nothing refers to it. -/
theorem held_without_reference :
    ¬ ∀ w, machine.Reachable w → (w.kernelWakelock = true ↔ 0 < w.mWakelockRefCount) := by
  intro h
  have hrun : machine.exec idle [.increment 1 1, .reset 1000000003, .increment 0 1000000004,
      .decrement 1 1] = some ⟨true, 0, 1000000004, 1000000003, true⟩ := by
    decide
  have := h _ (StepMachine.Reachable.exec (.init idle_init) hrun)
  exact absurd (this.mp rfl) (by decide)

/-! ## Resetting -/

/-- No reference, and the kernel lock released. -/
def IsReset (w : SharedWakelock) : Prop := w.mWakelockRefCount = 0 ∧ w.kernelWakelock = false

/-- A sequence of operations, in order. -/
def applyAll (w : SharedWakelock) (ops : List Op) : SharedWakelock := ops.foldl apply w

theorem reset_isReset_iff (w : SharedWakelock) (now : Int) :
    (w.resetSharedWakelock now).IsReset ↔
      (w.mThreadsRun = true ∧ 0 < w.mWakelockRefCount) ∨ w.IsReset := by
  cases hrun : w.mThreadsRun with
  | false =>
    rw [resetSharedWakelock, decrement_stopped hrun]
    simp [IsReset]
  | true =>
    rcases Nat.eq_zero_or_pos w.mWakelockRefCount with hzero | hpos
    · rw [resetSharedWakelock, decrement_of_zero hzero]
      simp [IsReset, hzero]
    · rw [resetSharedWakelock, decrement_untimed hrun _ hpos]
      simp [IsReset, hpos]

end SharedWakelock
end SensorsHal
