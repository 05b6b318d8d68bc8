/-!
# Waiting on a condition variable

A thread in `cv.wait(lock, pred)` tests the predicate while it holds the mutex.
If the predicate fails it releases the mutex and blocks, in one go; a
notification makes it ask for the mutex and test again.  There are no spurious
wake-ups, and `notifyOne` reaches a thread that is already blocked and nobody
else: between the test and the block (`parking`) a notification is lost.

Whoever makes the predicate true without the mutex runs that risk.  `Settled`
stages are those from which a waiter whose predicate stays true will not block:
`settled_step` keeps a waiter settled, and `settled_notifyOne` settles every
waiter but a parking one.
-/

namespace ConditionVariable

/-- Where a thread stands in `cv.wait(lock, pred)`.  `passed` is the return, with
the mutex held. -/
inductive WaitStage
  | testing
  | parking
  | blocked
  | notified
  | passed
  deriving DecidableEq, Repr

namespace WaitStage

def holdsMutex : WaitStage → Bool
  | .testing | .parking | .passed => true
  | .blocked | .notified => false

/-- The waiter's own next step, with the predicate at `pred`. -/
def step (pred : Bool) : WaitStage → Option WaitStage
  | .testing => some (if pred then .passed else .parking)
  | .parking => some .blocked
  | .blocked => none
  | .notified => some .testing
  | .passed => none

def notifyOne : WaitStage → WaitStage
  | .blocked => .notified
  | stage => stage

/-- Neither blocked nor about to block. -/
def Settled (stage : WaitStage) : Prop := stage ≠ .parking ∧ stage ≠ .blocked

/-- A settled waiter whose predicate holds stays settled. -/
theorem settled_step {stage next : WaitStage} (hs : stage.Settled)
    (h : stage.step true = some next) : next.Settled := by
  obtain ⟨hparking, hblocked⟩ := hs
  cases stage with
  | testing => cases h; exact ⟨by decide, by decide⟩
  | parking => exact absurd rfl hparking
  | blocked => exact absurd rfl hblocked
  | notified => cases h; exact ⟨by decide, by decide⟩
  | passed => cases h

/-- A notification settles any waiter that is not between its test and its
block. -/
theorem settled_notifyOne {stage : WaitStage} (h : stage ≠ .parking) : stage.notifyOne.Settled := by
  cases stage with
  | parking => exact absurd rfl h
  | _ => exact ⟨by decide, by decide⟩

theorem Settled.notifyOne {stage : WaitStage} (h : stage.Settled) : stage.notifyOne.Settled :=
  settled_notifyOne h.1

/-- How many steps a settled waiter is away from its return, its predicate
holding. -/
def distance : WaitStage → Nat
  | .notified => 2
  | .testing => 1
  | _ => 0

theorem distance_step {stage next : WaitStage} (hs : stage.Settled)
    (h : stage.step true = some next) : next.distance < stage.distance := by
  obtain ⟨hparking, hblocked⟩ := hs
  cases stage with
  | testing => cases h; decide
  | parking => exact absurd rfl hparking
  | blocked => exact absurd rfl hblocked
  | notified => cases h; decide
  | passed => cases h

/-- A settled waiter has a step, unless it has returned. -/
theorem step_isSome {stage : WaitStage} (hs : stage.Settled) (hne : stage ≠ .passed) (pred : Bool) :
    (stage.step pred).isSome = true := by
  obtain ⟨hparking, hblocked⟩ := hs
  cases stage with
  | testing => rfl
  | parking => rfl
  | blocked => exact absurd rfl hblocked
  | notified => rfl
  | passed => exact absurd rfl hne

end WaitStage
end ConditionVariable
