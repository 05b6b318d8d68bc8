import Sm8150Common.Library.DelayedDelivery
import Sm8150Common.Library.Progress

/-! # When the fall sensor is listened to

`FallSensorService` listens to the fall sensor while the screen is on.  It hears of the screen
by broadcasts, and `FallSensor` leaves what it asks of `SensorManager` to a thread of its own,
which does one thing after the other.  A service that is destroyed leaves that thread what it
has still to do; the next service has a `FallSensor` and a thread of its own.

`listens_while_screen_on` says that in the end only the service that runs listens, and only
with the screen on, in whatever order the main looper and the threads move.  A service is
started with the screen on, or with news of the screen on the way: `onStartCommand` does not
look at the screen, and one started in the dark listens until the screen has been on. -/
namespace CameraHelper

open DelayedDelivery

/-! ## `FallSensor` -/

structure Sensor where
  handle : Int
  stringType : String
  deriving DecidableEq, Repr

/-- What is left to the executor. -/
inductive SensorTask
  | registerListener
  | unregisterListener
  deriving DecidableEq, Repr

/-- `SensorManager` leaves all as it is where there is no sensor; it registers a listener if
it can enable the sensor. -/
def SensorTask.perform (mSensor : Option Sensor) (enabled registered : Bool) : SensorTask → Bool
  | .registerListener => registered || mSensor.isSome && enabled
  | .unregisterListener => registered && mSensor.isNone

/-- Without a sensor no task registers the listener. -/
theorem SensorTask.perform_found {mSensor : Option Sensor} {enabled registered : Bool}
    (task : SensorTask) (h : registered = true → mSensor.isSome = true)
    (hperform : task.perform mSensor enabled registered = true) : mSensor.isSome = true := by
  cases task with
  | registerListener =>
    rcases Bool.or_eq_true_iff.mp hperform with hregistered | hfound
    · exact h hregistered
    · exact (Bool.and_eq_true_iff.mp hfound).1
  | unregisterListener => exact h (Bool.and_eq_true_iff.mp hperform).1

/-- The sensor it found, the tasks of its executor that have not run, and whether it is
registered as a listener. -/
structure FallSensor where
  mSensor : Option Sensor
  mExecutorService : List SensorTask
  registered : Bool
  found : registered = true → mSensor.isSome = true
  deriving DecidableEq, Repr

namespace FallSensor

/-- The constructor takes the first sensor of the vendor's type. -/
def ofSensorList (sensorList : List Sensor) : FallSensor where
  mSensor := sensorList.find? fun sensor => sensor.stringType = "camera_protect"
  mExecutorService := []
  registered := false
  found := Bool.noConfusion

variable (f : FallSensor)

def submit (task : SensorTask) : FallSensor :=
  { f with mExecutorService := f.mExecutorService ++ [task] }

def enable : FallSensor := f.submit .registerListener

def disable : FallSensor := f.submit .unregisterListener

/-- The executor runs the first of its tasks. -/
def runTask (enabled : Bool) : Option FallSensor :=
  match f.mExecutorService with
  | [] => none
  | task :: rest =>
    some { f with
      mExecutorService := rest
      registered := task.perform f.mSensor enabled f.registered
      found := task.perform_found f.found }

/-- After its tasks and some that come later, the listener is registered or it is not. -/
def EndsAs (registered : Bool) (later : List SensorTask) : Prop :=
  Owes (SensorTask.perform f.mSensor true) f.registered registered (f.mExecutorService ++ later)

end FallSensor

/-! ## `FallSensorService` -/

inductive ScreenAction
  | ACTION_SCREEN_ON
  | ACTION_SCREEN_OFF
  deriving DecidableEq, Repr

def ScreenAction.screenOn : ScreenAction → Bool
  | .ACTION_SCREEN_ON => true
  | .ACTION_SCREEN_OFF => false

/-- What a broadcast makes the service ask for. -/
def ScreenAction.task : ScreenAction → SensorTask
  | .ACTION_SCREEN_ON => .registerListener
  | .ACTION_SCREEN_OFF => .unregisterListener

/-- The receiver of the service. -/
def FallSensor.onReceive (f : FallSensor) : ScreenAction → FallSensor
  | .ACTION_SCREEN_ON => f.enable
  | .ACTION_SCREEN_OFF => f.disable

/-- The screen, the broadcasts on the way to the receiver, the `FallSensor` of the service if
there is one and whether this one has been started, and those of services destroyed before. -/
structure FallSensorProcess where
  screenOn : Bool
  broadcasts : List ScreenAction
  mFallSensor : Option FallSensor
  startRequested : Bool
  destroyed : List FallSensor
  deriving DecidableEq, Repr

/-- The system's calls, the screen, and the tasks of the executors, that of a destroyed service's
sensor too. -/
inductive FallSensorStep
  | turnScreen (action : ScreenAction)
  | onCreate (sensorList : List Sensor)
  | onStartCommand
  | onReceive
  | onDestroy
  | runTask (enabled : Bool)
  | runDestroyed (i : Nat) (enabled : Bool)
  | kill
  deriving DecidableEq, Repr

namespace FallSensorProcess

def step (s : FallSensorProcess) : FallSensorStep → Option FallSensorProcess
  | .turnScreen action =>
    some { s with
      screenOn := action.screenOn
      broadcasts := s.broadcasts ++ if s.mFallSensor = none then [] else [action] }
  | .onCreate sensorList =>
    if s.mFallSensor = none then
      some { s with
        mFallSensor := some (.ofSensorList sensorList)
        startRequested := false }
    else none
  | .onStartCommand =>
    s.mFallSensor.map fun f => { s with mFallSensor := some f.enable, startRequested := true }
  | .onReceive =>
    match s.broadcasts with
    | [] => none
    | action :: rest =>
      s.mFallSensor.map fun f =>
        { s with broadcasts := rest, mFallSensor := some (f.onReceive action) }
  | .onDestroy =>
    -- the receiver is unregistered, and what is on the way to it is lost
    s.mFallSensor.map fun f =>
      { s with
        broadcasts := []
        mFallSensor := none
        destroyed := s.destroyed ++ [f.disable] }
  | .runTask enabled =>
    (s.mFallSensor.bind (·.runTask enabled)).map fun f => { s with mFallSensor := some f }
  | .runDestroyed i enabled =>
    (s.destroyed[i]?.bind (·.runTask enabled)).map fun f =>
      { s with destroyed := s.destroyed.set i f }
  | .kill => some { s with broadcasts := [], mFallSensor := none, destroyed := [] }

/-- The process has started. -/
def machine : StepMachine FallSensorProcess FallSensorStep where
  init s := s.broadcasts = [] ∧ s.mFallSensor = none ∧ s.destroyed = []
  step := step

/-- Services are started with the screen on or a broadcast on the way, and `SensorManager` can
enable the sensor. -/
def InStep (s : FallSensorProcess) : FallSensorStep → Prop
  | .onStartCommand => s.screenOn = true ∨ s.broadcasts ≠ []
  | .runTask enabled => enabled = true
  | .runDestroyed _ enabled => enabled = true
  | _ => True

instance InStep.decidable (s : FallSensorProcess) (l : FallSensorStep) : Decidable (s.InStep l) :=
  match l with
  | .onStartCommand => inferInstanceAs (Decidable (_ ∨ _))
  | .runTask _ => inferInstanceAs (Decidable (_ = _))
  | .runDestroyed _ _ => inferInstanceAs (Decidable (_ = _))
  | .turnScreen _ | .onCreate _ | .onReceive | .onDestroy | .kill =>
    inferInstanceAs (Decidable True)

end FallSensorProcess

/-! ## What is asked for last counts -/

theorem replay_found {mSensor : Option Sensor} {registered : Bool}
    (h : registered = true → mSensor.isSome = true) (tasks : List SensorTask) :
    replay (SensorTask.perform mSensor true) registered tasks = true → mSensor.isSome = true := by
  induction tasks generalizing registered with
  | nil => exact h
  | cons task tasks ih => exact ih (task.perform_found h)

namespace FallSensor
variable {f g : FallSensor} {registered : Bool} {later : List SensorTask}

/-- Whatever came before it, the last task decides. -/
theorem endsAs_concat (f : FallSensor) (later : List SensorTask) (task : SensorTask) :
    f.EndsAs (f.mSensor.isSome && task = .registerListener) (later ++ [task]) := by
  have hfound := replay_found f.found (f.mExecutorService ++ later)
  rw [EndsAs, Owes, ← List.append_assoc, replay_append, replay_cons, replay_nil]
  cases task with
  | registerListener =>
    rw [SensorTask.perform, Bool.and_true, decide_eq_true rfl, Bool.and_true]
    exact Bool.or_eq_right_iff_imp.mpr hfound
  | unregisterListener =>
    cases hsensor : f.mSensor with
    | some sensor => simp [SensorTask.perform]
    | none =>
      rw [hsensor] at hfound
      simpa [SensorTask.perform] using hfound

/-- With nothing left to do, what was to come has come. -/
theorem EndsAs.eq (h : f.EndsAs registered []) (hnil : f.mExecutorService = []) :
    f.registered = registered := by
  rw [EndsAs, hnil, List.append_nil] at h
  exact Owes.eq h

/-- A task may come now or later. -/
theorem endsAs_submit (task : SensorTask) :
    (f.submit task).EndsAs registered later ↔ f.EndsAs registered (task :: later) := by
  rw [EndsAs, EndsAs, submit, List.append_assoc]
  rfl

theorem runTask_cases {enabled : Bool} (h : f.runTask enabled = some g) :
    g.mSensor = f.mSensor ∧ f.mExecutorService.length = g.mExecutorService.length + 1 := by
  unfold FallSensor.runTask at h
  split at h
  · cases h
  · rename_i task rest hcons
    cases h
    rw [hcons]
    exact ⟨rfl, rfl⟩

theorem exists_runTask (hne : f.mExecutorService ≠ []) : ∃ g, f.runTask true = some g := by
  obtain ⟨task, rest, hcons⟩ := List.exists_cons_of_ne_nil hne
  unfold FallSensor.runTask
  split
  · rename_i hnil
    exact absurd hnil hne
  · exact ⟨_, rfl⟩

theorem onReceive_eq (f : FallSensor) (action : ScreenAction) :
    f.onReceive action = f.submit action.task := by
  cases action <;> rfl

/-- The executor brings nothing about that was not to come. -/
theorem EndsAs.runTask (h : f.EndsAs registered later) (hrun : f.runTask true = some g) :
    g.EndsAs registered later := by
  unfold FallSensor.runTask at hrun
  split at hrun
  · cases hrun
  · rename_i task rest hcons
    cases hrun
    rw [EndsAs, hcons] at h
    exact h

end FallSensor

namespace FallSensorProcess
variable {s t : FallSensorProcess}

/-- The newest broadcast shows the screen as it is; the service that runs will end listening
if the screen is on and it has a sensor, and those destroyed will end not listening. -/
structure Invariant (s : FallSensorProcess) : Prop where
  quiet : s.mFallSensor = none → s.broadcasts = []
  news : ∀ action ∈ s.broadcasts.getLast?, s.screenOn = action.screenOn
  running : ∀ f, s.mFallSensor = some f → s.startRequested = true →
    f.EndsAs (f.mSensor.isSome && s.screenOn) (s.broadcasts.map ScreenAction.task)
  destroyed : ∀ f ∈ s.destroyed, f.EndsAs false []

theorem invariant_init (h : machine.init s) : s.Invariant := by
  obtain ⟨hbroadcasts, hnone, hdestroyed⟩ := h
  refine ⟨fun _ => hbroadcasts, ?_, ?_, ?_⟩
  · rw [hbroadcasts]
    rintro action ⟨⟩
  · rw [hnone]
    rintro f ⟨⟩
  · rw [hdestroyed]
    rintro f ⟨⟩

/-- The last news of the screen decide how the service ends. -/
theorem endsAs_of_news (f : FallSensor) (earlier : List ScreenAction) (action : ScreenAction) :
    f.EndsAs (f.mSensor.isSome && action.screenOn)
      ((earlier ++ [action]).map ScreenAction.task) := by
  have hends := f.endsAs_concat (earlier.map ScreenAction.task) action.task
  rw [List.map_append]
  cases action with
  | ACTION_SCREEN_ON => exact hends
  | ACTION_SCREEN_OFF => exact hends

theorem invariant_turnScreen (hs : s.Invariant) {action : ScreenAction}
    (h : s.step (.turnScreen action) = some t) : t.Invariant := by
  obtain rfl := Option.some.inj h
  by_cases hservice : s.mFallSensor = none
  · rw [if_pos hservice, List.append_nil]
    have hquiet := hs.quiet hservice
    refine ⟨fun _ => hquiet, ?_, ?_, hs.destroyed⟩
    · dsimp only
      rw [hquiet]
      rintro latest ⟨⟩
    · dsimp only
      rw [hservice]
      rintro f ⟨⟩
  · rw [if_neg hservice]
    refine ⟨fun hnone => absurd hnone hservice, ?_, ?_, hs.destroyed⟩
    · intro latest hlatest
      rw [List.getLast?_concat] at hlatest
      cases hlatest
      rfl
    · intro f _ _
      exact endsAs_of_news f s.broadcasts action

theorem invariant_onStartCommand (hs : s.Invariant) (hok : s.screenOn = true ∨ s.broadcasts ≠ [])
    (h : s.step .onStartCommand = some t) : t.Invariant := by
  obtain ⟨f, hf, rfl⟩ := Option.map_eq_some_iff.mp h
  refine ⟨nofun, hs.news, ?_, hs.destroyed⟩
  rintro g ⟨⟩ -
  rcases List.eq_nil_or_concat s.broadcasts with hnil | ⟨earlier, action, hlast⟩
  · have hon := hok.resolve_right (not_not_intro hnil)
    dsimp only
    rw [hnil, hon]
    exact (FallSensor.endsAs_submit _).mpr (f.endsAs_concat [] .registerListener)
  · rw [List.concat_eq_append] at hlast
    have hnews := hs.news action (by rw [hlast, List.getLast?_concat]; rfl)
    dsimp only
    rw [hlast, hnews]
    exact endsAs_of_news f.enable earlier action

theorem invariant_onReceive (hs : s.Invariant) (h : s.step .onReceive = some t) :
    t.Invariant := by
  dsimp only [step] at h
  split at h
  · cases h
  · rename_i action rest hcons
    obtain ⟨f, hf, rfl⟩ := Option.map_eq_some_iff.mp h
    refine ⟨nofun, ?_, ?_, hs.destroyed⟩
    · intro latest hlatest
      refine hs.news latest ?_
      rw [hcons, List.getLast?_cons, hlatest]
      rfl
    · rintro g ⟨⟩ hstarted
      have hends := hs.running f hf hstarted
      rw [hcons] at hends
      rw [FallSensor.onReceive_eq]
      exact (FallSensor.endsAs_submit _).mpr hends

theorem invariant_onDestroy (hs : s.Invariant) (h : s.step .onDestroy = some t) :
    t.Invariant := by
  obtain ⟨f, hf, rfl⟩ := Option.map_eq_some_iff.mp h
  refine ⟨fun _ => rfl, nofun, nofun, ?_⟩
  intro g hg
  rcases List.mem_append.mp hg with hg | hg
  · exact hs.destroyed g hg
  · rw [List.mem_singleton.mp hg]
    have hends := f.endsAs_concat [] .unregisterListener
    rw [decide_eq_false (by decide), Bool.and_false] at hends
    exact (FallSensor.endsAs_submit _).mpr hends

theorem invariant_step (hs : s.Invariant) {l : FallSensorStep} (hok : s.InStep l)
    (h : s.step l = some t) : t.Invariant := by
  cases l with
  | turnScreen action => exact invariant_turnScreen hs h
  | onCreate sensorList =>
    obtain ⟨hnone, ht⟩ := Option.ite_none_right_eq_some.mp h
    obtain rfl := Option.some.inj ht
    exact ⟨fun _ => hs.quiet hnone, hs.news, nofun, hs.destroyed⟩
  | onStartCommand => exact invariant_onStartCommand hs hok h
  | onReceive => exact invariant_onReceive hs h
  | onDestroy => exact invariant_onDestroy hs h
  | runTask enabled =>
    obtain rfl : enabled = true := hok
    obtain ⟨g, hg, rfl⟩ := Option.map_eq_some_iff.mp h
    obtain ⟨f, hf, hrun⟩ := Option.bind_eq_some_iff.mp hg
    refine ⟨nofun, hs.news, ?_, hs.destroyed⟩
    rintro g' ⟨⟩ hstarted
    rw [(FallSensor.runTask_cases hrun).1]
    exact (hs.running f hf hstarted).runTask hrun
  | runDestroyed i enabled =>
    obtain rfl : enabled = true := hok
    obtain ⟨g, hg, rfl⟩ := Option.map_eq_some_iff.mp h
    obtain ⟨f, hf, hrun⟩ := Option.bind_eq_some_iff.mp hg
    refine ⟨hs.quiet, hs.news, hs.running, ?_⟩
    intro g' hg'
    rcases List.mem_or_eq_of_mem_set hg' with hg' | rfl
    · exact hs.destroyed g' hg'
    · exact (hs.destroyed f (List.mem_of_getElem? hf)).runTask hrun
  | kill =>
    obtain rfl := Option.some.inj h
    exact ⟨fun _ => rfl, nofun, nofun, nofun⟩

/-! ## Coming to rest -/

/-- The receiver and the executors move. -/
def isWork : FallSensorStep → Bool
  | .onReceive => true
  | .runTask enabled => enabled
  | .runDestroyed _ enabled => enabled
  | _ => false

/-- Nothing is on the way, and no task has yet to run. -/
def AtRest (s : FallSensorProcess) : Prop :=
  s.broadcasts = [] ∧ (∀ f, s.mFallSensor = some f → f.mExecutorService = []) ∧
    ∀ f ∈ s.destroyed, f.mExecutorService = []

/-- A broadcast is received and becomes a task, and each task is run. -/
def workLeft (s : FallSensorProcess) : Nat :=
  2 * s.broadcasts.length +
    ((s.mFallSensor.toList ++ s.destroyed).flatMap (·.mExecutorService)).length

/-- Of several executors one runs a task. -/
theorem length_flatMap_set {l : List FallSensor} {i : Nat} {f g : FallSensor}
    (hi : l[i]? = some f)
    (hlength : f.mExecutorService.length = g.mExecutorService.length + 1) :
    (l.flatMap (·.mExecutorService)).length =
      ((l.set i g).flatMap (·.mExecutorService)).length + 1 := by
  induction l generalizing i with
  | nil => cases hi
  | cons f' l ih =>
    cases i with
    | zero =>
      obtain rfl := Option.some.inj hi
      rw [List.set_cons_zero, List.flatMap_cons, List.flatMap_cons, List.length_append,
        List.length_append]
      omega
    | succ i =>
      have hrest := ih hi
      rw [List.set_cons_succ, List.flatMap_cons, List.flatMap_cons, List.length_append,
        List.length_append]
      omega

theorem workLeft_step {l : FallSensorStep} (hl : isWork l = true) (h : s.step l = some t) :
    t.workLeft < s.workLeft := by
  cases l with
  | onReceive =>
    dsimp only [step] at h
    split at h
    · cases h
    · rename_i action rest hcons
      obtain ⟨f, hf, rfl⟩ := Option.map_eq_some_iff.mp h
      have htasks : (f.onReceive action).mExecutorService.length =
          f.mExecutorService.length + 1 := by
        rw [FallSensor.onReceive_eq]
        exact List.length_append
      rw [workLeft, workLeft, hf, hcons]
      dsimp only
      rw [Option.toList_some, Option.toList_some, List.singleton_append, List.singleton_append,
        List.flatMap_cons, List.flatMap_cons, List.length_append, List.length_append,
        List.length_cons]
      omega
  | runTask enabled =>
    obtain ⟨g, hg, rfl⟩ := Option.map_eq_some_iff.mp h
    obtain ⟨f, hf, hrun⟩ := Option.bind_eq_some_iff.mp hg
    have hlength := length_flatMap_set (l := f :: s.destroyed) (i := 0) rfl
      (FallSensor.runTask_cases hrun).2
    rw [workLeft, workLeft, hf]
    exact Nat.lt_of_lt_of_eq (Nat.lt_succ_self _) (congrArg (_ + ·) hlength).symm
  | runDestroyed i enabled =>
    obtain ⟨g, hg, rfl⟩ := Option.map_eq_some_iff.mp h
    obtain ⟨f, hf, hrun⟩ := Option.bind_eq_some_iff.mp hg
    have hlength := length_flatMap_set hf (FallSensor.runTask_cases hrun).2
    rw [workLeft, workLeft, List.flatMap_append, List.flatMap_append, List.length_append,
      List.length_append]
    dsimp only
    omega
  | _ => cases hl

/-- As long as something is left, somebody can move. -/
theorem exists_work (hs : s.Invariant) (hn : ¬ s.AtRest) :
    ∃ l, isWork l = true ∧ (s.step l).isSome = true := by
  by_cases hbroadcasts : s.broadcasts = []
  · by_cases hrunning : ∀ f, s.mFallSensor = some f → f.mExecutorService = []
    · -- a service that was destroyed still has tasks to run
      obtain ⟨f, hf, hne⟩ : ∃ f ∈ s.destroyed, f.mExecutorService ≠ [] := by
        apply Classical.byContradiction
        intro hall
        exact hn ⟨hbroadcasts, hrunning, fun f hf => Classical.byContradiction fun hne =>
          hall ⟨f, hf, hne⟩⟩
      obtain ⟨i, hi⟩ := List.mem_iff_getElem?.mp hf
      obtain ⟨g, hg⟩ := FallSensor.exists_runTask hne
      refine ⟨.runDestroyed i true, rfl, ?_⟩
      rw [step, hi, Option.bind_some, hg]
      rfl
    · obtain ⟨f, hf⟩ := Classical.not_forall.mp hrunning
      obtain ⟨hf, hne⟩ := Classical.not_imp.mp hf
      obtain ⟨g, hg⟩ := FallSensor.exists_runTask hne
      refine ⟨.runTask true, rfl, ?_⟩
      rw [step, hf, Option.bind_some, hg]
      rfl
  · obtain ⟨action, rest, hcons⟩ := List.exists_cons_of_ne_nil hbroadcasts
    obtain ⟨f, hf⟩ := Option.ne_none_iff_exists'.mp (mt hs.quiet hbroadcasts)
    refine ⟨.onReceive, rfl, ?_⟩
    rw [step, hcons, hf]
    rfl

theorem inStep_of_isWork {l : FallSensorStep} (hl : isWork l = true) : s.InStep l := by
  cases l with
  | runTask enabled => exact hl
  | runDestroyed i enabled => exact hl
  | onReceive => trivial
  | _ => cases hl

theorem screenOn_step {l : FallSensorStep} (hl : isWork l = true) (h : s.step l = some t) :
    t.screenOn = s.screenOn := by
  cases l with
  | onReceive =>
    dsimp only [step] at h
    split at h
    · cases h
    · obtain ⟨f, -, rfl⟩ := Option.map_eq_some_iff.mp h
      rfl
  | runTask enabled =>
    obtain ⟨f, -, rfl⟩ := Option.map_eq_some_iff.mp h
    rfl
  | runDestroyed i enabled =>
    obtain ⟨f, -, rfl⟩ := Option.map_eq_some_iff.mp h
    rfl
  | _ => cases hl

/-- Work keeps the invariant and leaves the screen alone. -/
theorem work_step {screenOn : Bool} {l : FallSensorStep}
    (hs : s.Invariant ∧ s.screenOn = screenOn) (hl : isWork l = true) (h : s.step l = some t) :
    (t.Invariant ∧ t.screenOn = screenOn) ∧ t.workLeft < s.workLeft :=
  ⟨⟨invariant_step hs.1 (inStep_of_isWork hl) h, (screenOn_step hl h).trans hs.2⟩,
    workLeft_step hl h⟩

/-- What the process has come to at rest. -/
theorem Invariant.at_rest (hs : s.Invariant) (hrest : s.AtRest) :
    (∀ f ∈ s.destroyed, f.registered = false) ∧
    ∀ f, s.mFallSensor = some f → s.startRequested = true →
      f.registered = (f.mSensor.isSome && s.screenOn) := by
  obtain ⟨hbroadcasts, hrunning, hdestroyed⟩ := hrest
  refine ⟨fun f hf => (hs.destroyed f hf).eq (hdestroyed f hf), fun f hf hstarted => ?_⟩
  have hends := hs.running f hf hstarted
  rw [hbroadcasts] at hends
  exact hends.eq (hrunning f hf)

/-- **Only the service that runs listens, and only with the screen on.**  From every state of
every run in which services are started in step with the screen: the receiver and the executors
take at most `workLeft` steps, in whatever order; where none of them can move, no destroyed
service listens, and the one that runs listens if the screen is on and there is a sensor; and
they can come to such a state. -/
theorem listens_while_screen_on (h : machine.ReachableBy InStep s) :
    (∀ ls t, (∀ l ∈ ls, isWork l = true) → machine.exec s ls = some t →
      ls.length ≤ s.workLeft ∧
      ((∀ l r, isWork l = true → machine.step t l ≠ some r) →
        (∀ f ∈ t.destroyed, f.registered = false) ∧
        ∀ f, t.mFallSensor = some f → t.startRequested = true →
          f.registered = (f.mSensor.isSome && s.screenOn))) ∧
    ∃ ls t, (∀ l ∈ ls, isWork l = true) ∧ machine.exec s ls = some t ∧ t.AtRest := by
  have hs : s.Invariant := h.invariant (fun _ => invariant_init)
    fun _ _ _ hs hok hstep => invariant_step hs hok hstep
  have hlowers : ∀ r l r', (r.Invariant ∧ r.screenOn = s.screenOn) → isWork l = true →
      machine.step r l = some r' →
      (r'.Invariant ∧ r'.screenOn = s.screenOn) ∧ r'.workLeft < r.workLeft :=
    fun _ _ _ hr hl hstep => work_step hr hl hstep
  have henabled : ∀ r, (r.Invariant ∧ r.screenOn = s.screenOn) → ¬ r.AtRest →
      ∃ l r', isWork l = true ∧ machine.step r l = some r' := by
    intro r hr hn
    obtain ⟨l, hl, hsome⟩ := exists_work hr.1 hn
    obtain ⟨r', hstep⟩ := Option.isSome_iff_exists.mp hsome
    exact ⟨l, r', hl, hstep⟩
  refine ⟨fun ls t hwork hrun => ?_, ?_⟩
  · obtain ⟨⟨ht, hscreen⟩, hle⟩ := StepMachine.exec_length_le hlowers ⟨hs, rfl⟩
      ((StepMachine.along_iff_forall hrun).mpr hwork) hrun
    refine ⟨by omega, fun hstuck => ?_⟩
    rw [← hscreen]
    exact ht.at_rest (StepMachine.settled_of_stuck henabled ⟨ht, hscreen⟩ hstuck)
  · obtain ⟨ls, t, halong, hrun, -, hrest⟩ :=
      StepMachine.exists_exec_settled hlowers henabled ⟨hs, rfl⟩
    exact ⟨ls, t, (StepMachine.along_iff_forall hrun).mp halong, hrun, hrest⟩

/-- A service is destroyed with its tasks still to run, and another one is started: it is the
one that listens in the end. -/
theorem listens_while_screen_on_restart : ∃ s t : FallSensorProcess,
    s.workLeft = 3 ∧ machine.exec s [.runDestroyed 0 true, .runTask true, .runDestroyed 0 true] =
      some t ∧
    (∀ f ∈ t.destroyed, f.registered = false) ∧
    ∀ f, t.mFallSensor = some f → f.registered = true := by
  have hinit : machine.init ⟨true, [], none, false, []⟩ := ⟨rfl, rfl, rfl⟩
  have hrun : machine.exec ⟨true, [], none, false, []⟩
      [.onCreate [⟨7, "camera_protect"⟩], .onStartCommand, .onDestroy,
        .onCreate [⟨7, "camera_protect"⟩], .onStartCommand] =
      some ⟨true, [], some ⟨some ⟨7, "camera_protect"⟩, [.registerListener], false, nofun⟩, true,
        [⟨some ⟨7, "camera_protect"⟩, [.registerListener, .unregisterListener], false, nofun⟩]⟩ :=
    by decide
  have hlater : machine.exec
      ⟨true, [], some ⟨some ⟨7, "camera_protect"⟩, [.registerListener], false, nofun⟩, true,
        [⟨some ⟨7, "camera_protect"⟩, [.registerListener, .unregisterListener], false, nofun⟩]⟩
      [.runDestroyed 0 true, .runTask true, .runDestroyed 0 true] =
      some ⟨true, [], some ⟨some ⟨7, "camera_protect"⟩, [], true, fun _ => rfl⟩, true,
        [⟨some ⟨7, "camera_protect"⟩, [], false, nofun⟩]⟩ :=
    by decide
  have hstuck : ∀ l r, isWork l = true → machine.step
      ⟨true, [], some ⟨some ⟨7, "camera_protect"⟩, [], true, fun _ => rfl⟩, true,
        [⟨some ⟨7, "camera_protect"⟩, [], false, nofun⟩]⟩ l ≠ some r := by
    intro l r hl hstep
    cases l with
    | onReceive => cases hstep
    | runTask enabled => cases hstep
    | runDestroyed i enabled =>
      cases i with
      | zero => cases hstep
      | succ i => cases hstep
    | _ => cases hl
  obtain ⟨hwork, -⟩ := listens_while_screen_on (.exec (.init hinit) hrun (by decide))
  obtain ⟨-, hrest⟩ := hwork _ _ (by decide) hlater
  obtain ⟨hdestroyed, hrunning⟩ := hrest hstuck
  refine ⟨_, _, by decide, hlater, hdestroyed, fun f hf => ?_⟩
  rw [hrunning f hf rfl]
  cases hf
  rfl

end FallSensorProcess
end CameraHelper
