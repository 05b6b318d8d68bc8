import Mathlib.Logic.Function.Basic
import Sm8150Common.CameraMotor

/-! # The motor's files

Two processes move the camera.  The camera helper does so in `CameraMotorService`
and `FallSensor`, and `KeyHandler` does so in the system server, when the user
answers an alert about a motor that got stuck.  Each command is a write to the
direction file and a write to the enable file.  A write that fails is logged, and
the command goes on; no lock is held across the two writes, and the two processes
know nothing of each other.

`enable_after_direction` says what the direction file holds when the motor is
enabled, on every run: the direction of the last direction write that succeeded,
and so that of the command itself if its own direction write did and the other
process has not turned it since.  `not_enable_own_direction` is a run on which the
motor moves against the command that enabled it. -/
namespace CameraHelper

open DelayedMessages

/-! ## The commands -/

inductive MotorProcess
  | cameraHelper
  | systemServer
  deriving DecidableEq, Repr

/-- The places that move the motor: those of `CameraMotorService`, of `FallSensor`
and of the two alerts of `KeyHandler`. -/
inductive MotorCommand
  | cameraClosed
  | cameraOpen
  | freeFall
  | raiseTheCamera
  | cannotGoDownRetry
  | cannotGoUpRetry
  | cannotGoUpClose
  deriving DecidableEq, Repr

namespace MotorCommand

def process : MotorCommand → MotorProcess
  | .cameraClosed | .cameraOpen | .freeFall | .raiseTheCamera => .cameraHelper
  | .cannotGoDownRetry | .cannotGoUpRetry | .cannotGoUpClose => .systemServer

def direction : MotorCommand → MotorDirection
  | .cameraClosed | .freeFall | .cannotGoDownRetry | .cannotGoUpClose => .DIRECTION_DOWN
  | .cameraOpen | .raiseTheCamera | .cannotGoUpRetry => .DIRECTION_UP

/-- What a command writes. -/
def writes (command : MotorCommand) : List MotorWrite := [.direction command.direction, .enable]

end MotorCommand

/-- The command a message stands for. -/
def CameraMessage.command : CameraMessage → MotorCommand
  | .MSG_CAMERA_CLOSED => .cameraClosed
  | .MSG_CAMERA_OPEN => .cameraOpen

/-- The command a step of the camera helper issues. -/
def CameraProcess.command (s : CameraProcess) : CameraStep → Option MotorCommand
  | .dispatchMessage =>
    (next s.uptimeMillis s.mHandler).map fun (message, _) => message.what.command
  | .onSensorChanged value motorPosition =>
    if value ≤ 0 then none
    else motorPosition.bind fun position =>
      if position = POSITION_DOWN then none else some .freeFall
  | .answerAlert raiseTheCamera => if raiseTheCamera then some .raiseTheCamera else none
  | .wait _ | .suspend _ | .onCameraAvailable .. | .onCameraUnavailable .. => none

/-- The commands of the camera helper are its own. -/
theorem CameraProcess.command_process {s : CameraProcess} {l : CameraStep}
    {command : MotorCommand} (h : s.command l = some command) :
    command.process = .cameraHelper := by
  cases l with
  | dispatchMessage =>
    obtain ⟨⟨message, queue⟩, -, rfl⟩ := Option.map_eq_some_iff.mp h
    dsimp only
    cases message.what <;> rfl
  | onSensorChanged value motorPosition =>
    rw [CameraProcess.command] at h
    split at h
    · cases h
    · obtain ⟨position, -, hposition⟩ := Option.bind_eq_some_iff.mp h
      split at hposition <;> cases hposition
      rfl
  | answerAlert raiseTheCamera =>
    rw [CameraProcess.command] at h
    split at h <;> cases h
    rfl
  | wait ms => cases h
  | suspend ms => cases h
  | onCameraAvailable cameraId took tookToo => cases h
  | onCameraUnavailable cameraId took tookToo => cases h

theorem CameraProcess.cameraEvent_writes (s : CameraProcess) (what : CameraMessage)
    (cameraId : String) (took tookToo : Nat) :
    (s.cameraEvent what cameraId took tookToo).writes = s.writes := by
  unfold CameraProcess.cameraEvent
  split
  · dsimp only
    split <;> cases what <;> rfl
  · rfl

theorem CameraProcess.onSensorChanged_writes (s : CameraProcess) (value : Rat)
    (motorPosition : Option String) :
    (s.onSensorChanged value motorPosition).writes = s.writes ++
      ((s.command (.onSensorChanged value motorPosition)).map MotorCommand.writes).getD [] := by
  by_cases hvalue : value ≤ 0
  · rw [CameraProcess.command, CameraProcess.onSensorChanged.eq_def, if_pos hvalue, if_pos hvalue]
    exact (List.append_nil _).symm
  · rw [CameraProcess.command, if_neg hvalue]
    by_cases hdown : motorPosition = some POSITION_DOWN
    · rw [hdown, CameraProcess.onSensorChanged, if_neg hvalue, if_pos rfl]
      exact (List.append_nil _).symm
    · rcases motorPosition with _ | position
      · rw [CameraProcess.onSensorChanged, if_neg hvalue]
        exact (List.append_nil _).symm
      · rw [(onSensorChanged_lowers_iff (not_le.mp hvalue) hdown).mpr nofun, Option.bind_some,
          if_neg fun h => hdown (congrArg some h)]
        rfl

/-- What a step of the camera helper writes is what its command writes. -/
theorem CameraProcess.step_writes {s t : CameraProcess} {l : CameraStep} (h : s.step l = some t) :
    t.writes = s.writes ++ ((s.command l).map MotorCommand.writes).getD [] := by
  unfold CameraProcess.step at h
  split at h
  · cases h
  · cases l with
    | wait ms =>
      cases h
      exact (List.append_nil _).symm
    | suspend ms =>
      cases h
      exact (List.append_nil _).symm
    | onCameraAvailable cameraId took tookToo =>
      cases h
      exact (cameraEvent_writes ..).trans (List.append_nil _).symm
    | onCameraUnavailable cameraId took tookToo =>
      cases h
      exact (cameraEvent_writes ..).trans (List.append_nil _).symm
    | dispatchMessage =>
      obtain ⟨⟨message, queue⟩, hnext, rfl⟩ := Option.map_eq_some_iff.mp h
      rw [CameraProcess.command, hnext]
      cases hwhat : message.what <;> dsimp only [Option.map_some] <;> rw [hwhat] <;>
        exact List.append_assoc ..
    | onSensorChanged value motorPosition =>
      obtain rfl := Option.some.inj h
      exact s.onSensorChanged_writes value motorPosition
    | answerAlert raiseTheCamera =>
      dsimp only [CameraProcess.answerAlert] at h
      split at h
      · cases h
        cases raiseTheCamera
        · exact (List.append_nil _).symm
        · exact List.append_assoc ..
      · cases h

/-! ## `KeyHandler` -/

def MOTOR_EVENT_MANUAL_TO_DOWN : Int := 184
def MOTOR_EVENT_UP_ABNORMAL : Int := 186
def MOTOR_EVENT_DOWN_ABNORMAL : Int := 189

/-- Android's constant for the press of a key. -/
def ACTION_DOWN : Int := 0

/-- The alerts that a press of the motor key can bring up. -/
inductive KeyAlert
  | cameraMotorPress
  | cameraMotorCannotGoUp
  | cameraMotorCannotGoDown
  deriving DecidableEq, Repr

/-- How the user leaves an alert. -/
inductive AlertAnswer
  | positiveButton
  | negativeButton
  | back
  deriving DecidableEq, Repr

/-- What an answer does to the motor. -/
def KeyAlert.command : KeyAlert → AlertAnswer → Option MotorCommand
  | .cameraMotorCannotGoDown, .positiveButton => some .cannotGoDownRetry
  | .cameraMotorCannotGoUp, .negativeButton => some .cannotGoUpRetry
  | .cameraMotorCannotGoUp, .positiveButton => some .cannotGoUpClose
  | _, _ => none

theorem KeyAlert.command_process {alert : KeyAlert} {answer : AlertAnswer}
    {command : MotorCommand} (h : alert.command answer = some command) :
    command.process = .systemServer := by
  cases alert <;> cases answer <;> cases h <;> rfl

/-- The alerts on the screen. -/
structure KeyHandler where
  alerts : List KeyAlert
  deriving DecidableEq, Repr

namespace KeyHandler
variable (s : KeyHandler)

/-- An alert needs the context of the camera helper's package, which may not be had. -/
def showAlert (alert : KeyAlert) (packageContext : Bool) : KeyHandler :=
  if packageContext then { s with alerts := s.alerts ++ [alert] } else s

/-- A key event; whether it goes on to others comes second. -/
def handleKeyEvent (scanCode action : Int) (packageContext : Bool) : KeyHandler × Bool :=
  let warn (alert : KeyAlert) : KeyHandler :=
    if action = ACTION_DOWN then s.showAlert alert packageContext else s
  if scanCode = MOTOR_EVENT_MANUAL_TO_DOWN then (warn .cameraMotorPress, false)
  else if scanCode = MOTOR_EVENT_UP_ABNORMAL then (warn .cameraMotorCannotGoUp, false)
  else if scanCode = MOTOR_EVENT_DOWN_ABNORMAL then (warn .cameraMotorCannotGoDown, false)
  else (s, true)

def answerAlert (alert : KeyAlert) : Option KeyHandler :=
  if alert ∈ s.alerts then some { s with alerts := s.alerts.erase alert } else none

end KeyHandler

/-! ## Runs of both processes -/

/-- How far the main thread of a process is with a command. -/
inductive MotorProgress
  | idle
  | settingDirection (command : MotorCommand)
  | enabling (command : MotorCommand)
  deriving DecidableEq, Repr

/-- What is still to be written for a command. -/
def MotorProgress.pending : MotorProgress → List MotorWrite
  | .idle => []
  | .settingDirection command => command.writes
  | .enabling _ => [.enable]

/-- A write on record: by which command, whether it succeeded, and what the
direction file held when it was made. -/
structure MotorRecord where
  command : MotorCommand
  write : MotorWrite
  succeeded : Bool
  held : MotorDirection
  deriving DecidableEq, Repr

/-- Both processes, and what the direction file holds. -/
structure MotorSystem where
  camera : CameraProcess
  keyHandler : KeyHandler
  progress : MotorProcess → MotorProgress
  direction : MotorDirection
  log : List MotorRecord

/-- The camera process and the system server, each with its own writes to the motor's nodes. -/
inductive MotorStep
  | camera (l : CameraStep)
  | handleKeyEvent (scanCode action : Int) (packageContext : Bool)
  | answerKeyAlert (alert : KeyAlert) (answer : AlertAnswer)
  | write (process : MotorProcess) (succeeds : Bool)

/-- The clocks go on whatever the main thread does. -/
def CameraStep.isClock : CameraStep → Bool
  | .wait _ | .suspend _ => true
  | _ => false

/-- No command comes from a clock. -/
theorem CameraProcess.command_of_isClock {s : CameraProcess} {l : CameraStep}
    (h : l.isClock = true) : s.command l = none := by
  cases l <;> first | rfl | cases h

namespace MotorSystem
variable (s : MotorSystem)

/-- The main thread takes up a command, if there is one. -/
def begin (process : MotorProcess) : Option MotorCommand → MotorSystem
  | some command =>
    { s with progress := Function.update s.progress process (.settingDirection command) }
  | none => s

/-- The next write of the command a process is at.  A failing one changes nothing
but the log. -/
def write (process : MotorProcess) (succeeds : Bool) : Option MotorSystem :=
  match s.progress process with
  | .idle => none
  | .settingDirection command => some
    { s with
      progress := Function.update s.progress process (.enabling command)
      direction := if succeeds then command.direction else s.direction
      log := s.log ++ [⟨command, .direction command.direction, succeeds, s.direction⟩] }
  | .enabling command => some
    { s with
      progress := Function.update s.progress process .idle
      log := s.log ++ [⟨command, .enable, succeeds, s.direction⟩] }

/-- The callbacks, messages, samples and answers of a process wait for its main
thread; a key event does not. -/
def step : MotorStep → Option MotorSystem
  | .camera l =>
    if s.progress .cameraHelper = .idle ∨ l.isClock then
      (s.camera.step l).map fun camera =>
        ({ s with camera := camera } : MotorSystem).begin .cameraHelper (s.camera.command l)
    else none
  | .handleKeyEvent scanCode action packageContext =>
    some { s with keyHandler := (s.keyHandler.handleKeyEvent scanCode action packageContext).1 }
  | .answerKeyAlert alert answer =>
    if s.progress .systemServer = .idle then
      (s.keyHandler.answerAlert alert).map fun keyHandler =>
        ({ s with keyHandler := keyHandler } : MotorSystem).begin .systemServer
          (alert.command answer)
    else none
  | .write process succeeds => s.write process succeeds

/-- Both processes have started; the direction file holds what the driver put there. -/
def machine (boot : MotorDirection) : StepMachine MotorSystem MotorStep where
  init s := s.camera.mHandler = [] ∧ s.camera.mClosedEvent = 0 ∧ s.camera.mOpenEvent = 0 ∧
    s.camera.alerts = 0 ∧ s.camera.writes = [] ∧ s.camera.crashed = false ∧
    s.keyHandler.alerts = [] ∧ (∀ process, s.progress process = .idle) ∧
    s.direction = boot ∧ s.log = []
  step := step

end MotorSystem

/-! ## What the direction file holds -/

/-- What the direction file holds after a write. -/
def MotorRecord.after (r : MotorRecord) (held : MotorDirection) : MotorDirection :=
  match r.write, r.succeeded with
  | .direction direction, true => direction
  | _, _ => held

/-- The direction of the last direction write that succeeded. -/
def directionAfter (boot : MotorDirection) (log : List MotorRecord) : MotorDirection :=
  log.foldl (fun held r => r.after held) boot

/-- The write is not one that turns the direction from `direction`. -/
def MotorRecord.Keeps (r : MotorRecord) (direction : MotorDirection) : Prop :=
  r.succeeded = true → ∀ other, r.write = .direction other → other = direction

theorem MotorRecord.Keeps.after_eq {r : MotorRecord} {direction : MotorDirection}
    (h : r.Keeps direction) : r.after direction = direction := by
  unfold MotorRecord.after
  split
  · next other hwrite hsucceeded => exact h hsucceeded _ hwrite
  · rfl

theorem directionAfter_append (boot : MotorDirection) (log log' : List MotorRecord) :
    directionAfter boot (log ++ log') = directionAfter (directionAfter boot log) log' :=
  List.foldl_append

theorem directionAfter_cons (boot : MotorDirection) (r : MotorRecord) (log : List MotorRecord) :
    directionAfter boot (r :: log) = directionAfter (r.after boot) log := rfl

/-- A direction that no write turns stays. -/
theorem directionAfter_of_keeps {direction : MotorDirection} {log : List MotorRecord}
    (h : ∀ r ∈ log, r.Keeps direction) : directionAfter direction log = direction := by
  induction log with
  | nil => rfl
  | cons r log ih =>
    obtain ⟨hr, hlog⟩ := List.forall_mem_cons.mp h
    rw [directionAfter_cons, hr.after_eq, ih hlog]

/-- The last write of the process before is the direction write of the command. -/
def OwnDirection (command : MotorCommand) (log : List MotorRecord) : Prop :=
  ∃ earlier own between, log = earlier ++ own :: between ∧ own.command = command ∧
    own.write = .direction command.direction ∧
    ∀ r ∈ between, r.command.process ≠ command.process

namespace OwnDirection
variable {command : MotorCommand} {log : List MotorRecord} {r : MotorRecord}

theorem self (hcommand : r.command = command) (hwrite : r.write = .direction command.direction) :
    OwnDirection command (log ++ [r]) :=
  ⟨log, r, [], rfl, hcommand, hwrite, nofun⟩

/-- A write of the other process comes between. -/
theorem append (h : OwnDirection command log) (hother : r.command.process ≠ command.process) :
    OwnDirection command (log ++ [r]) := by
  obtain ⟨earlier, own, between, rfl, hcommand, hwrite, hbetween⟩ := h
  refine ⟨earlier, own, between ++ [r], ?_, hcommand, hwrite, ?_⟩
  · rw [List.append_assoc, List.cons_append]
  · intro r' hr'
    rcases List.mem_append.mp hr' with hr' | hr'
    · exact hbetween r' hr'
    · obtain rfl := List.mem_singleton.mp hr'
      exact hother

end OwnDirection

namespace MotorSystem
variable {boot : MotorDirection} {s t : MotorSystem}

/-- What a step can do: issue a command of an idle process, write, or neither. -/
theorem step_cases {l : MotorStep} (h : s.step l = some t) :
    (∃ command, t.progress =
        Function.update s.progress command.process (.settingDirection command) ∧
      t.direction = s.direction ∧ t.log = s.log) ∨
    (∃ process succeeds, s.write process succeeds = some t) ∨
    (t.progress = s.progress ∧ t.direction = s.direction ∧ t.log = s.log) := by
  cases l with
  | camera l =>
    rw [step] at h
    split at h
    · obtain ⟨camera, -, rfl⟩ := Option.map_eq_some_iff.mp h
      rcases hcommand : s.camera.command l with _ | command
      · exact .inr (.inr ⟨rfl, rfl, rfl⟩)
      · rw [← CameraProcess.command_process hcommand]
        exact .inl ⟨command, rfl, rfl, rfl⟩
    · cases h
  | handleKeyEvent scanCode action packageContext =>
    cases h
    exact .inr (.inr ⟨rfl, rfl, rfl⟩)
  | answerKeyAlert alert answer =>
    rw [step] at h
    split at h
    · obtain ⟨keyHandler, -, rfl⟩ := Option.map_eq_some_iff.mp h
      rcases hcommand : alert.command answer with _ | command
      · exact .inr (.inr ⟨rfl, rfl, rfl⟩)
      · rw [← KeyAlert.command_process hcommand]
        exact .inl ⟨command, rfl, rfl, rfl⟩
    · cases h
  | write process succeeds => exact .inr (.inl ⟨process, succeeds, h⟩)

/-- What a write can be: the first of a command, or its second. -/
theorem write_cases {process : MotorProcess} {succeeds : Bool}
    (h : s.write process succeeds = some t) :
    (∃ command, s.progress process = .settingDirection command ∧
      t.progress = Function.update s.progress process (.enabling command) ∧
      t.direction = (if succeeds then command.direction else s.direction) ∧
      t.log = s.log ++ [⟨command, .direction command.direction, succeeds, s.direction⟩]) ∨
    (∃ command, s.progress process = .enabling command ∧
      t.progress = Function.update s.progress process .idle ∧ t.direction = s.direction ∧
      t.log = s.log ++ [⟨command, .enable, succeeds, s.direction⟩]) := by
  unfold write at h
  split at h
  · cases h
  · next command hprogress =>
    cases h
    exact .inl ⟨command, hprogress, rfl, rfl, rfl⟩
  · next command hprogress =>
    cases h
    exact .inr ⟨command, hprogress, rfl, rfl, rfl⟩

/-- What a process is at, given what is written: the command is its own, and its
direction write is the last write of the process when it is to be enabled. -/
def ProgressOn (process : MotorProcess) (log : List MotorRecord) : MotorProgress → Prop
  | .idle => True
  | .settingDirection command => command.process = process
  | .enabling command => command.process = process ∧ OwnDirection command log

theorem ProgressOn.append {process : MotorProcess} {log : List MotorRecord} {r : MotorRecord}
    {progress : MotorProgress} (h : ProgressOn process log progress)
    (hother : r.command.process ≠ process) : ProgressOn process (log ++ [r]) progress := by
  rcases progress with _ | command | command
  · exact h
  · exact h
  · obtain ⟨rfl, hown⟩ := h
    exact ⟨rfl, hown.append hother⟩

/-- What is on record so far is in order: each write saw the last direction that was
set, and each enable write follows the direction write of its command. -/
structure InOrder (boot : MotorDirection) (s : MotorSystem) : Prop where
  direction : s.direction = directionAfter boot s.log
  progress : ∀ process, ProgressOn process s.log (s.progress process)
  held : ∀ before r, before ++ [r] <+: s.log → r.held = directionAfter boot before
  own : ∀ before r, before ++ [r] <+: s.log → r.write = .enable → OwnDirection r.command before

/-- A write goes on record: `progress` is where its process is afterwards. -/
theorem InOrder.record {process : MotorProcess} {progress : MotorProgress} {r : MotorRecord}
    (hs : InOrder boot s) (hprogress : t.progress = Function.update s.progress process progress)
    (hlog : t.log = s.log ++ [r]) (hdirection : t.direction = r.after s.direction)
    (hprocess : r.command.process = process) (hheld : r.held = s.direction)
    (hown : r.write = .enable → OwnDirection r.command s.log)
    (hon : ProgressOn process (s.log ++ [r]) progress) : InOrder boot t := by
  refine ⟨?_, fun other => ?_, fun before r' hr' => ?_, fun before r' hr' hwrite => ?_⟩
  · rw [hlog, directionAfter_append, ← hs.direction, hdirection]
    rfl
  · rw [hprogress, hlog]
    by_cases hother : other = process
    · rw [hother, Function.update_self]
      exact hon
    · rw [Function.update_of_ne hother]
      exact (hs.progress other).append (hprocess ▸ Ne.symm hother)
  · rw [hlog] at hr'
    rcases List.prefix_concat_iff.mp hr' with heq | hr'
    · obtain ⟨rfl, rfl⟩ := List.append_singleton_inj.mp heq
      exact hheld.trans hs.direction
    · exact hs.held before r' hr'
  · rw [hlog] at hr'
    rcases List.prefix_concat_iff.mp hr' with heq | hr'
    · obtain ⟨rfl, rfl⟩ := List.append_singleton_inj.mp heq
      exact hown hwrite
    · exact hs.own before r' hr' hwrite

theorem inOrder_write {process : MotorProcess} {succeeds : Bool} (hs : InOrder boot s)
    (h : s.write process succeeds = some t) : InOrder boot t := by
  have hon := hs.progress process
  rcases write_cases h with ⟨command, hat, hprogress, hdirection, hlog⟩ |
    ⟨command, hat, hprogress, hdirection, hlog⟩
  · rw [hat] at hon
    refine hs.record hprogress hlog ?_ hon rfl nofun ⟨hon, .self rfl rfl⟩
    rw [hdirection]
    cases succeeds <;> rfl
  · rw [hat] at hon
    obtain ⟨hprocess, hown⟩ := hon
    exact hs.record hprogress hlog hdirection hprocess rfl (fun _ => hown) trivial

theorem inOrder_step {l : MotorStep} (hs : InOrder boot s) (h : s.step l = some t) :
    InOrder boot t := by
  rcases step_cases h with ⟨command, hprogress, hdirection, hlog⟩ | ⟨process, succeeds, hwrite⟩ |
    ⟨hprogress, hdirection, hlog⟩
  · refine ⟨by rw [hdirection, hlog, hs.direction], fun process => ?_, hlog ▸ hs.held,
      hlog ▸ hs.own⟩
    rw [hprogress, hlog]
    by_cases hprocess : process = command.process
    · rw [hprocess, Function.update_self]
      exact rfl
    · rw [Function.update_of_ne hprocess]
      exact hs.progress process
  · exact inOrder_write hs hwrite
  · exact ⟨by rw [hdirection, hlog, hs.direction], hprogress ▸ hlog ▸ hs.progress,
      hlog ▸ hs.held, hlog ▸ hs.own⟩

theorem inOrder_reachable (h : (machine boot).Reachable s) : InOrder boot s := by
  refine StepMachine.Reachable.invariant ?_ (fun _ _ _ hs ht => inOrder_step hs ht) h
  rintro s ⟨-, -, -, -, -, -, -, hidle, hdirection, hlog⟩
  refine ⟨by rw [hdirection, hlog]; rfl, fun process => ?_, fun before r hr => ?_,
    fun before r hr => ?_⟩
  · rw [hidle process]
    exact trivial
  all_goals
    rw [hlog] at hr
    exact absurd (List.prefix_nil.mp hr) (List.append_ne_nil_of_right_ne_nil _ nofun)

/-- **What the direction file holds when the motor is enabled.**  It holds the
direction of the last direction write that succeeded, of whichever process.  The
command's own direction write is among those before; if it succeeded, and what came
in between did not turn the direction, the file holds the command's direction. -/
theorem enable_after_direction (h : (machine boot).Reachable s) {before after : List MotorRecord}
    {command : MotorCommand} {held : MotorDirection}
    (hlog : s.log = before ++ ⟨command, .enable, true, held⟩ :: after) :
    held = directionAfter boot before ∧
    ∃ earlier own between, before = earlier ++ own :: between ∧ own.command = command ∧
      own.write = .direction command.direction ∧
      (∀ r ∈ between, r.command.process ≠ command.process) ∧
      (own.succeeded = true → (∀ r ∈ between, r.Keeps command.direction) →
        held = command.direction) := by
  have hs := inOrder_reachable h
  have hprefix : before ++ [⟨command, .enable, true, held⟩] <+: s.log :=
    ⟨after, by rw [hlog, List.append_assoc, List.singleton_append]⟩
  have hheld : held = directionAfter boot before := hs.held _ _ hprefix
  refine ⟨hheld, ?_⟩
  obtain ⟨earlier, own, between, rfl, hcommand, hwrite, hbetween⟩ := hs.own _ _ hprefix rfl
  refine ⟨earlier, own, between, rfl, hcommand, hwrite, hbetween, fun hsucceeded hkeeps => ?_⟩
  have hafter : own.after (directionAfter boot earlier) = command.direction := by
    rw [MotorRecord.after, hwrite, hsucceeded]
  rw [hheld, directionAfter_append, directionAfter_cons, hafter, directionAfter_of_keeps hkeeps]

/-! ### The camera helper's own record -/

/-- The writes of a process so far. -/
def writesOf (process : MotorProcess) (log : List MotorRecord) : List MotorWrite :=
  (log.filter fun r => r.command.process = process).map MotorRecord.write

theorem writesOf_append (process : MotorProcess) (log log' : List MotorRecord) :
    writesOf process (log ++ log') = writesOf process log ++ writesOf process log' := by
  rw [writesOf, List.filter_append, List.map_append, writesOf, writesOf]

/-- A write is the first that its process had to make. -/
theorem write_pending_cons {process : MotorProcess} {succeeds : Bool} (hs : InOrder boot s)
    (h : s.write process succeeds = some t) :
    ∃ r : MotorRecord, r.command.process = process ∧ t.log = s.log ++ [r] ∧
      (s.progress process).pending = r.write :: (t.progress process).pending ∧
      ∀ other, other ≠ process → t.progress other = s.progress other := by
  have hon := hs.progress process
  rcases write_cases h with ⟨command, hat, hprogress, -, hlog⟩ | ⟨command, hat, hprogress, -, hlog⟩
  · rw [hat] at hon
    have hprocess : command.process = process := hon
    refine ⟨_, hprocess, hlog, ?_, fun other hother => ?_⟩
    · rw [hat, hprogress, Function.update_self]
      rfl
    · rw [hprogress, Function.update_of_ne hother]
  · rw [hat] at hon
    refine ⟨_, hon.1, hlog, ?_, fun other hother => ?_⟩
    · rw [hat, hprogress, Function.update_self]
      rfl
    · rw [hprogress, Function.update_of_ne hother]

/-- What a process has written, and what it still has to write. -/
theorem write_pending {process : MotorProcess} {succeeds : Bool} (hs : InOrder boot s)
    (h : s.write process succeeds = some t) (other : MotorProcess) :
    writesOf other t.log ++ (t.progress other).pending =
      writesOf other s.log ++ (s.progress other).pending := by
  obtain ⟨r, hprocess, hlog, hpending, hothers⟩ := write_pending_cons hs h
  rw [hlog, writesOf_append]
  by_cases hother : other = process
  · subst hother
    rw [hpending, List.append_assoc]
    simp [writesOf, hprocess]
  · have hnone : writesOf other [r] = [] := by
      simp [writesOf, hprocess, Ne.symm hother]
    rw [hnone, List.append_nil, hothers other hother]

theorem begin_progress_self (process : MotorProcess) (command : MotorCommand) :
    (s.begin process (some command)).progress process = .settingDirection command :=
  Function.update_self ..

theorem begin_progress_of_ne {process other : MotorProcess} (h : other ≠ process)
    (command : MotorCommand) :
    (s.begin process (some command)).progress other = s.progress other :=
  Function.update_of_ne h ..

theorem writesOf_step {l : MotorStep} (hs : InOrder boot s) (h : s.step l = some t)
    (heq : writesOf .cameraHelper s.log ++ (s.progress .cameraHelper).pending = s.camera.writes) :
    writesOf .cameraHelper t.log ++ (t.progress .cameraHelper).pending = t.camera.writes := by
  cases l with
  | camera l =>
    rw [step] at h
    split at h
    · next hidle =>
      obtain ⟨camera, hcamera, rfl⟩ := Option.map_eq_some_iff.mp h
      have hwrites := CameraProcess.step_writes hcamera
      rcases hcommand : s.camera.command l with _ | command
      · rw [hcommand] at hwrites
        exact heq.trans (hwrites.trans (List.append_nil _)).symm
      · rcases hidle with hidle | hclock
        · rw [hcommand, ← heq, hidle] at hwrites
          rw [begin_progress_self]
          exact ((List.append_nil _).symm ▸ hwrites).symm
        · rw [CameraProcess.command_of_isClock hclock] at hcommand
          cases hcommand
    · cases h
  | handleKeyEvent scanCode action packageContext =>
    cases h
    exact heq
  | answerKeyAlert alert answer =>
    rw [step] at h
    split at h
    · obtain ⟨keyHandler, -, rfl⟩ := Option.map_eq_some_iff.mp h
      rcases alert.command answer with _ | command
      · exact heq
      · have hother : MotorProcess.cameraHelper ≠ .systemServer := by decide
        rw [begin_progress_of_ne hother]
        exact heq
    · cases h
  | write process succeeds =>
    have hcamera : t.camera = s.camera := by
      change s.write process succeeds = some t at h
      unfold write at h
      split at h <;> cases h <;> rfl
    rw [write_pending hs h, heq, hcamera]

/-- **The two models agree**: what the camera helper has written, and what it is
about to write, are the writes of its own model, in order. -/
theorem writesOf_cameraHelper (h : (machine boot).Reachable s) :
    writesOf .cameraHelper s.log ++ (s.progress .cameraHelper).pending = s.camera.writes := by
  refine (StepMachine.Reachable.invariant (I := fun s => InOrder boot s ∧
    writesOf .cameraHelper s.log ++ (s.progress .cameraHelper).pending = s.camera.writes)
    ?_ (fun s l t hs ht => ⟨inOrder_step hs.1 ht, writesOf_step hs.1 ht hs.2⟩) h).2
  intro s hs
  refine ⟨inOrder_reachable (.init hs), ?_⟩
  obtain ⟨-, -, -, -, hwrites, -, -, hidle, -, hlog⟩ := hs
  rw [hlog, hidle, hwrites]
  rfl

/-- Both processes have started, with the camera down. -/
def started : MotorSystem :=
  ⟨⟨5000, 5000, [], 0, 0, 0, [], false⟩, ⟨[]⟩, fun _ => .idle, .DIRECTION_DOWN, []⟩

theorem started_init : (machine .DIRECTION_DOWN).init started :=
  ⟨rfl, rfl, rfl, rfl, rfl, rfl, rfl, fun _ => rfl, rfl, rfl⟩

/-- The camera is opened.  The answer to an alert comes in between, and its write to
the direction file fails. -/
theorem enable_after_direction_raised : ∃ s, (machine .DIRECTION_DOWN).Reachable s ∧
    ∃ before held, s.log = before ++ [⟨.cameraOpen, .enable, true, held⟩] ∧
      held = .DIRECTION_UP := by
  have hrun : ((machine .DIRECTION_DOWN).exec started
      [.handleKeyEvent MOTOR_EVENT_UP_ABNORMAL ACTION_DOWN true,
        .camera (.onCameraUnavailable "1" 0 0), .camera (.wait 100), .camera .dispatchMessage,
        .write .cameraHelper true, .answerKeyAlert .cameraMotorCannotGoUp .positiveButton,
        .write .systemServer false, .write .cameraHelper true]).map MotorSystem.log =
      some ([⟨.cameraOpen, .direction .DIRECTION_UP, true, .DIRECTION_DOWN⟩,
        ⟨.cannotGoUpClose, .direction .DIRECTION_DOWN, false, .DIRECTION_UP⟩] ++
        [⟨.cameraOpen, .enable, true, .DIRECTION_UP⟩]) := by
    decide +kernel
  obtain ⟨s, hexec, hlog⟩ := Option.map_eq_some_iff.mp hrun
  have hs := StepMachine.Reachable.exec (.init started_init) hexec
  exact ⟨s, hs, _, _, hlog, (enable_after_direction hs hlog).1⟩

/-- The camera is opened; the user closes it from an alert, and the system server
gets to its direction write between the two writes of the camera helper. -/
theorem not_enable_own_direction :
    ¬ ∀ s, (machine .DIRECTION_DOWN).Reachable s → ∀ r ∈ s.log,
      r.write = .enable → r.succeeded = true → r.held = r.command.direction := by
  intro h
  have hrun : ((machine .DIRECTION_DOWN).exec started
      [.handleKeyEvent MOTOR_EVENT_UP_ABNORMAL ACTION_DOWN true,
        .camera (.onCameraUnavailable "1" 0 0), .camera (.wait 100), .camera .dispatchMessage,
        .write .cameraHelper true, .answerKeyAlert .cameraMotorCannotGoUp .positiveButton,
        .write .systemServer true, .write .cameraHelper true]).map MotorSystem.log =
      some [⟨.cameraOpen, .direction .DIRECTION_UP, true, .DIRECTION_DOWN⟩,
        ⟨.cannotGoUpClose, .direction .DIRECTION_DOWN, true, .DIRECTION_UP⟩,
        ⟨.cameraOpen, .enable, true, .DIRECTION_DOWN⟩] := by
    decide +kernel
  obtain ⟨s, hexec, hlog⟩ := Option.map_eq_some_iff.mp hrun
  have heq := h s (StepMachine.Reachable.exec (.init started_init) hexec)
    ⟨.cameraOpen, .enable, true, .DIRECTION_DOWN⟩ (by rw [hlog]; decide) rfl rfl
  cases heq

end MotorSystem
end CameraHelper
