import Mathlib.Data.Fintype.EquivFin
import Sm8150Common.Library.LockOrder

/-! # The mutexes of the proxy

The proxy has three mutexes, and many threads use them: its two workers, the framework's, and
those of the sub-HALs, which also call the proxy back from within its calls to them.  Each
function of `HalProxy.cpp` and `HalProxyCallback.cpp` is read here as what it does to the
mutexes, for every way its branches can go.  A condition variable gives its mutex back while it
waits, and may wake at any time.

The mutexes are locked in one order (`rank`), but for one call: `disableAllSensors` holds
`mDynamicSensorsMutex` while it switches off the dynamic sensors (lines 568–572).  A sub-HAL
that reports a dynamic sensor from within such a call waits for itself; all else returns
(`calls_return_unless_called_back`). -/
namespace SensorsHal

/-- The mutexes of `HalProxy`. -/
inductive ProxyMutex
  | mDynamicSensorsMutex
  | mEventQueueWriteMutex
  | mWakelockMutex
  deriving DecidableEq, Repr

namespace ProxyMutex

def rank : ProxyMutex → Nat
  | .mDynamicSensorsMutex => 0
  | .mEventQueueWriteMutex => 1
  | .mWakelockMutex => 2

instance : PartialOrder ProxyMutex :=
  PartialOrder.lift rank fun a b h => by cases a <;> cases b <;> first | rfl | cases h

instance (a b : ProxyMutex) : Decidable (a < b) := inferInstanceAs (Decidable (rank a < rank b))

instance : Fintype ProxyMutex where
  elems := {.mDynamicSensorsMutex, .mEventQueueWriteMutex, .mWakelockMutex}
  complete m := by cases m <;> decide

/-- The guards of `mWakelockMutex` are of `std::recursive_mutex`, the others of `std::mutex`. -/
def recursive : ProxyMutex → Bool
  | .mWakelockMutex => true
  | .mDynamicSensorsMutex | .mEventQueueWriteMutex => false

end ProxyMutex

namespace Locks
open ProxyMutex LockOp

abbrev Locking := List (LockOp ProxyMutex)

/-! ## What functions do to the mutexes -/

/-- It returns at once when the threads do not run, like the next one. -/
def incrementRefCountAndMaybeAcquireWakelock (mThreadsRun : Bool) : Locking :=
  if mThreadsRun then guarded mWakelockMutex [] else []

def decrementRefCountAndMaybeReleaseWakelock (mThreadsRun : Bool) : Locking :=
  if mThreadsRun then guarded mWakelockMutex [] else []

def resetSharedWakelock (mThreadsRun : Bool) : Locking :=
  guarded mWakelockMutex (decrementRefCountAndMaybeReleaseWakelock mThreadsRun)

def postEventsToMessageQueue (isLocked mThreadsRun : Bool) : Locking :=
  guarded mEventQueueWriteMutex
    (if isLocked then incrementRefCountAndMaybeAcquireWakelock mThreadsRun else [])

/-- `returns` if there are no events or the threads do not run. -/
def postEvents (returns isLocked mThreadsRun : Bool) : Locking :=
  if returns then [] else postEventsToMessageQueue isLocked mThreadsRun

/-- The callback of the framework is called without the mutex. -/
def onDynamicSensorsConnected : Locking := guarded mDynamicSensorsMutex []

def onDynamicSensorsDisconnected : Locking := guarded mDynamicSensorsMutex []

/-- What a sub-HAL does with the proxy, on a thread of its own or within a call to it. -/
inductive SubHalActivity
  | createScopedWakelock (isLocked mThreadsRun : Bool)
  | destroyScopedWakelock (isLocked mThreadsRun : Bool)
  | postEvents (returns isLocked mThreadsRun : Bool)
  | onDynamicSensorsConnected
  | onDynamicSensorsDisconnected
  deriving DecidableEq, Repr

def SubHalActivity.locking : SubHalActivity → Locking
  | .createScopedWakelock isLocked mThreadsRun =>
    if isLocked then incrementRefCountAndMaybeAcquireWakelock mThreadsRun else []
  | .destroyScopedWakelock isLocked mThreadsRun =>
    if isLocked then decrementRefCountAndMaybeReleaseWakelock mThreadsRun else []
  | .postEvents returns isLocked mThreadsRun => Locks.postEvents returns isLocked mThreadsRun
  | .onDynamicSensorsConnected => Locks.onDynamicSensorsConnected
  | .onDynamicSensorsDisconnected => Locks.onDynamicSensorsDisconnected

/-- The activity takes `mDynamicSensorsMutex`. -/
def SubHalActivity.Dynamic : SubHalActivity → Bool
  | .onDynamicSensorsConnected | .onDynamicSensorsDisconnected => true
  | _ => false

/-- What sub-HALs do within calls to them. -/
def within (activities : List SubHalActivity) : Locking :=
  activities.flatMap SubHalActivity.locking

def disableAllSensors (static dynamic : List SubHalActivity) : Locking :=
  within static ++ guarded mDynamicSensorsMutex (within dynamic)

/-- Waiting, woken as often as it takes. -/
def wait (m : ProxyMutex) (wakes : Nat) : Locking :=
  (List.replicate wakes [.unlock m, .lock m]).flatten

/-- A round of `handlePendingWrites`: the threads have stopped, or a chunk is written, and if
that fails and it had wake-up events, some references are given back. -/
inductive PendingRound
  | stopped (wakes : Nat)
  | write (wakes : Nat) (givesBack mThreadsRun : Bool)
  deriving DecidableEq, Repr

def PendingRound.locking : PendingRound → Locking
  | .stopped wakes => wait mEventQueueWriteMutex wakes
  | .write wakes givesBack mThreadsRun =>
    wait mEventQueueWriteMutex wakes ++
      .unlock mEventQueueWriteMutex ::
        ((if givesBack then decrementRefCountAndMaybeReleaseWakelock mThreadsRun else []) ++
          [.lock mEventQueueWriteMutex])

def handlePendingWrites (rounds : List PendingRound) : Locking :=
  guarded mEventQueueWriteMutex (rounds.flatMap PendingRound.locking)

/-- A round of `handleWakelocks`: the threads have stopped, the lock is reset, or an
acknowledgement is waited for and perhaps read. -/
inductive WakelockRound
  | stopped (wakes : Nat)
  | timeout (wakes : Nat) (mThreadsRun : Bool)
  | read (wakes : Nat) (success mThreadsRun : Bool)
  deriving DecidableEq, Repr

def WakelockRound.locking : WakelockRound → Locking
  | .stopped wakes => wait mWakelockMutex wakes
  | .timeout wakes mThreadsRun => wait mWakelockMutex wakes ++ resetSharedWakelock mThreadsRun
  | .read wakes success mThreadsRun =>
    wait mWakelockMutex wakes ++ [.unlock mWakelockMutex, .lock mWakelockMutex] ++
      if success then decrementRefCountAndMaybeReleaseWakelock mThreadsRun else []

def handleWakelocks (rounds : List WakelockRound) (mThreadsRun : Bool) : Locking :=
  guarded mWakelockMutex
    (rounds.flatMap WakelockRound.locking ++ resetSharedWakelock mThreadsRun)

/-- The joins of `stopThreads` hold no mutex. -/
def initializeCommon (mThreadsRun : Bool) (static dynamic initialized : List SubHalActivity) :
    Locking :=
  resetSharedWakelock mThreadsRun ++ disableAllSensors static dynamic ++ within initialized

/-- What threads call.  Most of the framework's calls hold no mutex. -/
inductive ProxyCall
  | subHal (activity : SubHalActivity)
  | forwarded (activities : List SubHalActivity)
  | initializeCommon (mThreadsRun : Bool) (static dynamic initialized : List SubHalActivity)
  | handlePendingWrites (rounds : List PendingRound)
  | handleWakelocks (rounds : List WakelockRound) (mThreadsRun : Bool)

namespace ProxyCall

def locking : ProxyCall → Locking
  | .subHal activity => activity.locking
  | .forwarded activities => within activities
  | .initializeCommon mThreadsRun static dynamic initialized =>
    Locks.initializeCommon mThreadsRun static dynamic initialized
  | .handlePendingWrites rounds => Locks.handlePendingWrites rounds
  | .handleWakelocks rounds mThreadsRun => Locks.handleWakelocks rounds mThreadsRun

/-- While its dynamic sensor is switched off, a sub-HAL reports one from within the call. -/
def CalledBack : ProxyCall → Prop
  | .initializeCommon _ _ dynamic _ => ∃ activity ∈ dynamic, activity.Dynamic = true
  | _ => False

end ProxyCall

/-! ## All but one are ordered -/

/-- `mWakelockMutex` can be locked whatever a thread holds. -/
theorem wakelock_last (held : List ProxyMutex) :
    mWakelockMutex ∈ held ∧ recursive mWakelockMutex = true ∨ ∀ k ∈ held, k < mWakelockMutex := by
  by_cases hheld : mWakelockMutex ∈ held
  · exact Or.inl ⟨hheld, rfl⟩
  · refine Or.inr fun k hk => ?_
    cases k with
    | mWakelockMutex => exact absurd hk hheld
    | mDynamicSensorsMutex | mEventQueueWriteMutex => decide

section Keeps
variable {held : List ProxyMutex}

theorem keeps_increment (mThreadsRun : Bool) :
    Keeps recursive held (incrementRefCountAndMaybeAcquireWakelock mThreadsRun) :=
  .ite (.guarded (wakelock_last held) .nil)

theorem keeps_decrement (mThreadsRun : Bool) :
    Keeps recursive held (decrementRefCountAndMaybeReleaseWakelock mThreadsRun) :=
  .ite (.guarded (wakelock_last held) .nil)

theorem keeps_reset (mThreadsRun : Bool) :
    Keeps recursive held (resetSharedWakelock mThreadsRun) :=
  .guarded (wakelock_last held) (keeps_decrement mThreadsRun)

/-- A sub-HAL may report dynamic sensors where no mutex is held. -/
theorem keeps_activity (hheld : ∀ k ∈ held, k < mEventQueueWriteMutex) {activity : SubHalActivity}
    (h : activity.Dynamic = true → held = []) : Keeps recursive held activity.locking := by
  cases activity with
  | createScopedWakelock isLocked mThreadsRun => exact .ite (keeps_increment mThreadsRun)
  | destroyScopedWakelock isLocked mThreadsRun => exact .ite (keeps_decrement mThreadsRun)
  | postEvents returns isLocked mThreadsRun =>
    cases returns with
    | true => exact .nil
    | false => exact .guarded (Or.inr hheld) (.ite (keeps_increment mThreadsRun))
  | onDynamicSensorsConnected | onDynamicSensorsDisconnected =>
    rw [h rfl]
    exact .guarded (Or.inr fun k hk => by cases hk) .nil

theorem keeps_within (hheld : ∀ k ∈ held, k < mEventQueueWriteMutex)
    {activities : List SubHalActivity}
    (h : ∀ activity ∈ activities, activity.Dynamic = true → held = []) :
    Keeps recursive held (within activities) :=
  .flatMap fun activity hmem => keeps_activity hheld (h activity hmem)

theorem keeps_wait {m : ProxyMutex} (hm : ∀ k ∈ held, k < m) (wakes : Nat) :
    Keeps recursive (m :: held) (wait m wakes) := by
  unfold wait
  induction wakes with
  | zero => exact .nil
  | succ wakes ih =>
    rw [List.replicate_succ, List.flatten_cons]
    exact .append (.released hm .nil) ih

end Keeps

theorem keeps_pendingRound (round : PendingRound) :
    Keeps recursive [mEventQueueWriteMutex] round.locking := by
  have hnone : ∀ k ∈ ([] : List ProxyMutex), k < mEventQueueWriteMutex := fun k hk => by cases hk
  cases round with
  | stopped wakes => exact keeps_wait hnone wakes
  | write wakes givesBack mThreadsRun =>
    exact .append (keeps_wait hnone wakes) (.released hnone (.ite (keeps_decrement mThreadsRun)))

theorem keeps_wakelockRound (round : WakelockRound) :
    Keeps recursive [mWakelockMutex] round.locking := by
  have hnone : ∀ k ∈ ([] : List ProxyMutex), k < mWakelockMutex := fun k hk => by cases hk
  cases round with
  | stopped wakes => exact keeps_wait hnone wakes
  | timeout wakes mThreadsRun => exact .append (keeps_wait hnone wakes) (keeps_reset mThreadsRun)
  | read wakes success mThreadsRun =>
    exact .append (.append (keeps_wait hnone wakes) (.released hnone .nil))
      (.ite (keeps_decrement mThreadsRun))

/-- **One order for all.** -/
theorem ordered_locking (call : ProxyCall) (h : ¬ call.CalledBack) :
    Ordered recursive [] call.locking := by
  have hnone : ∀ {m : ProxyMutex}, ∀ k ∈ ([] : List ProxyMutex), k < m := fun k hk => by cases hk
  refine Keeps.ordered ?_
  cases call with
  | subHal activity => exact keeps_activity hnone fun _ => rfl
  | forwarded activities => exact keeps_within hnone fun _ _ _ => rfl
  | initializeCommon mThreadsRun static dynamic initialized =>
    refine .append (.append (keeps_reset mThreadsRun)
      (.append (keeps_within hnone fun _ _ _ => rfl) (.guarded (Or.inr hnone) ?_)))
      (keeps_within hnone fun _ _ _ => rfl)
    refine keeps_within ?_ fun activity hmem hdynamic => absurd ⟨activity, hmem, hdynamic⟩ h
    intro k hk
    rw [List.mem_singleton.mp hk]
    decide
  | handlePendingWrites rounds =>
    exact .guarded (Or.inr hnone) (.flatMap fun round _ => keeps_pendingRound round)
  | handleWakelocks rounds mThreadsRun =>
    exact .guarded (Or.inr hnone)
      (.append (.flatMap fun round _ => keeps_wakelockRound round) (keeps_reset mThreadsRun))

/-! ## The one that is not -/

/-- Only a report of dynamic sensors touches their mutex. -/
theorem locks_dynamic (activity : SubHalActivity) :
    holdsAfter mDynamicSensorsMutex false activity.locking = false ∧
      (activity.Dynamic = false →
        holdsAfter mDynamicSensorsMutex true activity.locking = true) ∧
      (activity.Dynamic = true → Relocks mDynamicSensorsMutex true activity.locking) := by
  cases activity with
  | createScopedWakelock isLocked mThreadsRun | destroyScopedWakelock isLocked mThreadsRun =>
    cases isLocked <;> cases mThreadsRun <;> exact ⟨rfl, fun _ => rfl, nofun⟩
  | postEvents returns isLocked mThreadsRun =>
    cases returns <;> cases isLocked <;> cases mThreadsRun <;> exact ⟨rfl, fun _ => rfl, nofun⟩
  | onDynamicSensorsConnected | onDynamicSensorsDisconnected =>
    exact ⟨rfl, nofun, fun _ => Or.inl ⟨rfl, rfl⟩⟩

theorem holdsAfter_within (activities : List SubHalActivity) :
    holdsAfter mDynamicSensorsMutex false (within activities) = false := by
  induction activities with
  | nil => rfl
  | cons activity activities ih =>
    rw [within, List.flatMap_cons, holdsAfter_append, (locks_dynamic activity).1]
    exact ih

theorem relocks_within {activities : List SubHalActivity}
    (h : ∃ activity ∈ activities, activity.Dynamic = true) :
    Relocks mDynamicSensorsMutex true (within activities) := by
  induction activities with
  | nil =>
    obtain ⟨activity, hmem, -⟩ := h
    cases hmem
  | cons activity activities ih =>
    rw [within, List.flatMap_cons, relocks_append]
    obtain ⟨-, hkept, hrelocks⟩ := locks_dynamic activity
    cases hdynamic : activity.Dynamic with
    | true => exact Or.inl (hrelocks hdynamic)
    | false =>
      rw [hkept hdynamic]
      obtain ⟨other, hother, hcalled⟩ := h
      rcases List.mem_cons.mp hother with rfl | hother
      · rw [hcalled] at hdynamic
        cases hdynamic
      · exact Or.inr (ih ⟨other, hother, hcalled⟩)

/-- A sub-HAL that reports a dynamic sensor while one is switched off waits for itself. -/
theorem relocks_locking {call : ProxyCall} (h : call.CalledBack) :
    Relocks mDynamicSensorsMutex false call.locking := by
  cases call with
  | initializeCommon mThreadsRun static dynamic initialized =>
    have hreset : holdsAfter mDynamicSensorsMutex false (resetSharedWakelock mThreadsRun) =
        false := by
      cases mThreadsRun <;> rfl
    rw [ProxyCall.locking, Locks.initializeCommon, disableAllSensors, relocks_append,
      relocks_append, relocks_append, hreset, holdsAfter_within]
    -- with the mutex held, the reports of the second loop come before it is given back
    refine Or.inl (Or.inr (Or.inr (Or.inr ?_)))
    exact relocks_append.mpr (Or.inl (relocks_within h))
  | subHal | forwarded | handlePendingWrites | handleWakelocks => exact absurd h id

/-! ## The threads of the proxy -/

variable {ι : Type} [Fintype ι] [DecidableEq ι]

/-- Threads make the proxy's calls, and no sub-HAL calls back while its dynamic sensor is
switched off. -/
def NotCalledBack (_ : ι → LockThread ProxyMutex) : LockStep ι ProxyMutex → Prop
  | .call _ todo => ∃ call : ProxyCall, todo = call.locking ∧ ¬ call.CalledBack
  | .advance _ => True

/-- **The proxy's mutexes let every call return, unless it is called back.**  However many threads
call the proxy and its sub-HALs call back from within: some thread that is in a call can always
go on, the calls under way take no more steps than they have left, and where none can go on they
have all returned.  But a thread whose sub-HAL reports a dynamic sensor while `disableAllSensors`
switches one off never returns, whatever the others do. -/
theorem calls_return_unless_called_back :
    (∀ s : ι → LockThread ProxyMutex,
      (LockSystem.machine recursive).ReachableBy NotCalledBack s →
      (∀ i, (s i).todo ≠ [] → ∃ j t, LockSystem.step recursive s (.advance j) = some t) ∧
      (∀ ls t, (∀ l ∈ ls, LockSystem.IsAdvance l) →
        (LockSystem.machine recursive).exec s ls = some t → ls.length ≤ LockSystem.left s) ∧
      ((∀ i t, LockSystem.step recursive s (.advance i) ≠ some t) → ∀ i, (s i).todo = []) ∧
      ∃ ls t, (∀ l ∈ ls, LockSystem.IsAdvance l) ∧
        (LockSystem.machine recursive).exec s ls = some t ∧ ∀ i, (t i).todo = []) ∧
    ∀ (s t : ι → LockThread ProxyMutex) (i : ι) (call : ProxyCall), call.CalledBack →
      (s i).held = [] → LockSystem.step recursive s (.call i call.locking) = some t →
      ∀ ls u, (LockSystem.machine recursive).exec t ls = some u → (u i).todo ≠ [] := by
  constructor
  · intro s hs
    have horder : (LockSystem.machine recursive).ReachableBy (LockSystem.InOrder recursive) s := by
      refine hs.imp ?_
      intro s l hl
      cases l with
      | call i todo =>
        obtain ⟨call, rfl, hcall⟩ := hl
        exact ordered_locking call hcall
      | advance i => trivial
    exact ⟨fun i hbusy => LockSystem.exists_advance (LockSystem.invariant horder) hbusy,
      LockSystem.calls_return horder⟩
  · intro s t i call hcall hheld hstep ls u hrun
    obtain ⟨-, ht⟩ := Option.ite_none_right_eq_some.mp hstep
    have hdoomed : LockSystem.Doomed mDynamicSensorsMutex (t i) := by
      cases ht
      rw [Function.update_self]
      constructor
      · rw [hheld]
        exact Nat.zero_le 1
      · rw [hheld]
        exact relocks_locking hcall
    exact LockSystem.never_returns rfl hdoomed hrun

/-- One thread posts for a sub-HAL while the worker writes; and a sub-HAL reports a disconnected
sensor while another one is switched off. -/
theorem calls_return_two :
    (∃ s : Fin 2 → LockThread ProxyMutex,
      (LockSystem.machine recursive).ReachableBy NotCalledBack s ∧ (s 0).todo ≠ [] ∧
        (s 1).todo ≠ [] ∧ ∃ ls t, (LockSystem.machine recursive).exec s ls = some t ∧
          ∀ i, (t i).todo = []) ∧
    ∃ t : Fin 2 → LockThread ProxyMutex,
      LockSystem.step recursive (fun _ => ⟨[], []⟩) (.call 0
        (ProxyCall.initializeCommon false [] [.onDynamicSensorsDisconnected] []).locking) = some t ∧
      ∀ ls u, (LockSystem.machine recursive).exec t ls = some u → (u 0).todo ≠ [] := by
  let post : ProxyCall := .subHal (.postEvents false true true)
  let write : ProxyCall := .handlePendingWrites [.write 1 true true]
  let calledBack : ProxyCall := .initializeCommon false [] [.onDynamicSensorsDisconnected] []
  let idle : Fin 2 → LockThread ProxyMutex := fun _ => ⟨[], []⟩
  constructor
  · let posting := Function.update idle 0 ⟨[], post.locking⟩
    let both := Function.update posting 1 ⟨[], write.locking⟩
    have hposting : (LockSystem.machine recursive).ReachableBy NotCalledBack posting :=
      StepMachine.ReachableBy.step (l := .call 0 post.locking) (s := idle)
        (.init fun _ => rfl) (show ∃ call : ProxyCall, _ from ⟨post, rfl, id⟩) rfl
    have hboth : (LockSystem.machine recursive).ReachableBy NotCalledBack both :=
      hposting.step (l := .call 1 write.locking)
        (show ∃ call : ProxyCall, _ from ⟨write, rfl, id⟩) rfl
    obtain ⟨-, -, -, ls, t, -, ht, hreturned⟩ := calls_return_unless_called_back.1 both hboth
    exact ⟨both, hboth, List.cons_ne_nil _ _, List.cons_ne_nil _ _, ls, t, ht, hreturned⟩
  · have hstep : LockSystem.step recursive idle (.call 0 calledBack.locking) =
        some (Function.update idle 0 ⟨[], calledBack.locking⟩) := rfl
    exact ⟨_, hstep, calls_return_unless_called_back.2 _ _ 0 calledBack
      ⟨_, List.mem_singleton_self _, rfl⟩ rfl hstep⟩

end Locks

end SensorsHal
