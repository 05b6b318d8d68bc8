import Mathlib.Algebra.Order.Ring.Rat
import Sm8150Common.Library.DelayedMessages
import Sm8150Common.Library.StepMachine

/-! # The pop-up camera and falls

Two services of one process move the front camera.  `CameraMotorService` raises
and lowers it with the use of the front camera, 100 ms after a callback, by a
message to itself that a callback of the other kind takes back; `FallSensor` lowers
it when the phone falls, after a look at the position file, and offers to raise it
again.  All of it runs on the main looper, one callback at a time.

`fall_keeps_down` says that a fall keeps the camera down on every run in which no
message to raise it is pending at a fall and the position file can be read;
`pending_open_raises` is a run in which one is pending.  Times are in
milliseconds. -/
namespace CameraHelper

open DelayedMessages

/-! ## The motor -/

inductive MotorDirection
  | DIRECTION_DOWN
  | DIRECTION_UP
  deriving DecidableEq, Repr

/-- A write to the direction or the enable file.  One that fails is logged, and
nothing else. -/
inductive MotorWrite
  | direction (direction : MotorDirection)
  | enable
  deriving DecidableEq, Repr

/-- What the position file holds when the camera is down. -/
def POSITION_DOWN : String := "1"

/-! ## The process -/

def CAMERA_EVENT_DELAY_TIME : Int := 100

def FRONT_CAMERA_ID : String := "1"

/-- The messages of `CameraMotorService` to itself. -/
inductive CameraMessage
  | MSG_CAMERA_CLOSED
  | MSG_CAMERA_OPEN
  deriving DecidableEq, Repr

def CameraMessage.opposite : CameraMessage → CameraMessage
  | .MSG_CAMERA_CLOSED => .MSG_CAMERA_OPEN
  | .MSG_CAMERA_OPEN => .MSG_CAMERA_CLOSED

/-- The process: the two clocks, of which `uptimeMillis` stops in suspend, the
state of `CameraMotorService`, the alerts the user has not answered, and on record
the writes to the motor.  An exception ends the process. -/
structure CameraProcess where
  uptimeMillis : Int
  elapsedRealtime : Int
  mHandler : List (Message CameraMessage)
  mClosedEvent : Int
  mOpenEvent : Int
  alerts : Nat
  writes : List MotorWrite
  crashed : Bool
  deriving DecidableEq, Repr

namespace CameraProcess
variable (s : CameraProcess)

/-- Time passes while the device is awake. -/
def wait (ms : Nat) : CameraProcess :=
  { s with
    uptimeMillis := s.uptimeMillis + ms
    elapsedRealtime := s.elapsedRealtime + ms }

def suspend (ms : Nat) : CameraProcess := { s with elapsedRealtime := s.elapsedRealtime + ms }

def setMotorDirection (direction : MotorDirection) : CameraProcess :=
  { s with writes := s.writes ++ [.direction direction] }

def setMotorEnabled : CameraProcess := { s with writes := s.writes ++ [.enable] }

/-- The two writes every mover of the camera makes. -/
def moveMotor (direction : MotorDirection) : CameraProcess :=
  (s.setMotorDirection direction).setMotorEnabled

/-! ### `CameraMotorService` -/

def sendEmptyMessageDelayed (what : CameraMessage) (delayMillis : Int) : CameraProcess :=
  { s with mHandler := enqueue ⟨what, s.uptimeMillis + delayMillis⟩ s.mHandler }

/-- The time of the last callback of a kind. -/
def lastEvent : CameraMessage → Int
  | .MSG_CAMERA_CLOSED => s.mClosedEvent
  | .MSG_CAMERA_OPEN => s.mOpenEvent

def recordEvent : CameraMessage → CameraProcess
  | .MSG_CAMERA_CLOSED => { s with mClosedEvent := s.elapsedRealtime }
  | .MSG_CAMERA_OPEN => { s with mOpenEvent := s.elapsedRealtime }

/-- The shape of both callbacks.  The clock is read twice, `took` apart, and
again when the message is sent, `tookToo` later. -/
def cameraEvent (what : CameraMessage) (cameraId : String) (took tookToo : Nat) : CameraProcess :=
  if cameraId = FRONT_CAMERA_ID then
    let s := (s.recordEvent what).wait took
    let s :=
      if s.elapsedRealtime - s.lastEvent what.opposite < CAMERA_EVENT_DELAY_TIME ∧
          hasMessages what.opposite s.mHandler = true then
        { s with mHandler := removeMessages what.opposite s.mHandler }
      else s
    (s.wait tookToo).sendEmptyMessageDelayed what CAMERA_EVENT_DELAY_TIME
  else s

def onCameraAvailable (cameraId : String) (took tookToo : Nat) : CameraProcess :=
  s.cameraEvent .MSG_CAMERA_CLOSED cameraId took tookToo

def onCameraUnavailable (cameraId : String) (took tookToo : Nat) : CameraProcess :=
  s.cameraEvent .MSG_CAMERA_OPEN cameraId took tookToo

def handleMessage : CameraMessage → CameraProcess
  | .MSG_CAMERA_CLOSED => s.moveMotor .DIRECTION_DOWN
  | .MSG_CAMERA_OPEN => s.moveMotor .DIRECTION_UP

/-- The looper hands over the first message that is due. -/
def dispatchMessage : Option CameraProcess :=
  (next s.uptimeMillis s.mHandler).map fun (message, queue) =>
    ({ s with mHandler := queue } : CameraProcess).handleMessage message.what

/-! ### `FallSensor` -/

/-- A sample with `event.values[0]`, and what `getMotorPosition` returns if it is
asked.  It returns null when the file cannot be read, and null has no `equals`. -/
def onSensorChanged (value : Rat) (motorPosition : Option String) : CameraProcess :=
  if value ≤ 0 then s
  else
    match motorPosition with
    | none => { s with crashed := true }
    | some position =>
      if position = POSITION_DOWN then s
      else { s.moveMotor .DIRECTION_DOWN with alerts := s.alerts + 1 }

/-- The user answers an alert: to raise the camera, or to close it and go to the
home screen. -/
def answerAlert (raiseTheCamera : Bool) : Option CameraProcess :=
  if 0 < s.alerts then
    let s := { s with alerts := s.alerts - 1 }
    some (if raiseTheCamera then s.moveMotor .DIRECTION_UP else s)
  else none

end CameraProcess

/-! ## Runs -/

/-- What the process is told, and the clocks: `wait` while the device is awake, `suspend` while it
sleeps. -/
inductive CameraStep
  | wait (ms : Nat)
  | suspend (ms : Nat)
  | onCameraAvailable (cameraId : String) (took tookToo : Nat)
  | onCameraUnavailable (cameraId : String) (took tookToo : Nat)
  | dispatchMessage
  | onSensorChanged (value : Rat) (motorPosition : Option String)
  | answerAlert (raiseTheCamera : Bool)

/-- A crashed process does nothing more. -/
def CameraProcess.step (s : CameraProcess) (l : CameraStep) : Option CameraProcess :=
  if s.crashed then none
  else
    match l with
    | .wait ms => some (s.wait ms)
    | .suspend ms => some (s.suspend ms)
    | .onCameraAvailable cameraId took tookToo => some (s.onCameraAvailable cameraId took tookToo)
    | .onCameraUnavailable cameraId took tookToo =>
      some (s.onCameraUnavailable cameraId took tookToo)
    | .dispatchMessage => s.dispatchMessage
    | .onSensorChanged value motorPosition => some (s.onSensorChanged value motorPosition)
    | .answerAlert raiseTheCamera => s.answerAlert raiseTheCamera

/-- A step that ends the wait after a fall: a callback for the front camera, or an
answer of the user. -/
def CameraStep.EndsFall : CameraStep → Prop
  | .onCameraAvailable cameraId _ _ | .onCameraUnavailable cameraId _ _ =>
    cameraId = FRONT_CAMERA_ID
  | .answerAlert _ => True
  | _ => False

instance : DecidablePred CameraStep.EndsFall
  | .onCameraAvailable cameraId _ _ | .onCameraUnavailable cameraId _ _ =>
    inferInstanceAs (Decidable (cameraId = FRONT_CAMERA_ID))
  | .answerAlert _ => isTrue trivial
  | .wait _ | .suspend _ | .dispatchMessage | .onSensorChanged .. => isFalse id

/-- A sample that reports a fall. -/
def CameraStep.IsFall : CameraStep → Prop
  | .onSensorChanged value _ => 0 < value
  | _ => False

instance : DecidablePred CameraStep.IsFall
  | .onSensorChanged value _ => inferInstanceAs (Decidable (0 < value))
  | .wait _ | .suspend _ | .dispatchMessage | .onCameraAvailable .. | .onCameraUnavailable ..
  | .answerAlert _ => isFalse id

/-- The process, and after a fall that nothing has ended yet, how many writes there
were before it. -/
structure FallWatch where
  process : CameraProcess
  fallAt : Option Nat
  deriving DecidableEq, Repr

namespace FallWatch

/-- The writes since the fall. -/
def sinceFall (s : FallWatch) : List MotorWrite :=
  s.fallAt.elim [] fun n => s.process.writes.drop n

def watch (s : FallWatch) (l : CameraStep) : Option Nat :=
  if l.EndsFall then none
  else if l.IsFall then some (s.fallAt.getD s.process.writes.length)
  else s.fallAt

def step (s : FallWatch) (l : CameraStep) : Option FallWatch :=
  (s.process.step l).map fun process => ⟨process, s.watch l⟩

/-- The services have started: nothing has happened yet, at any time. -/
def machine : StepMachine FallWatch CameraStep where
  init s := s.process.mHandler = [] ∧ s.process.mClosedEvent = 0 ∧ s.process.mOpenEvent = 0 ∧
    s.process.alerts = 0 ∧ s.process.writes = [] ∧ s.process.crashed = false ∧ s.fallAt = none
  step := step

/-- At a fall no message to raise the camera is pending, and the position file can
be read. -/
def FallsSafely (s : FallWatch) : CameraStep → Prop
  | .onSensorChanged value motorPosition => 0 < value →
      hasMessages .MSG_CAMERA_OPEN s.process.mHandler = false ∧ motorPosition ≠ none
  | _ => True

instance (s : FallWatch) : DecidablePred (FallsSafely s)
  | .onSensorChanged value _ => inferInstanceAs (Decidable (0 < value → _ ∧ _))
  | .wait _ | .suspend _ | .dispatchMessage | .onCameraAvailable .. | .onCameraUnavailable ..
  | .answerAlert _ => isTrue trivial

end FallWatch

/-! ## What a fall is worth -/

namespace CameraProcess
variable {s t : CameraProcess}

/-- A sample of a fall with the camera not down lowers it, if and only if the file
could be read. -/
theorem onSensorChanged_lowers_iff {value : Rat} (hvalue : 0 < value)
    {motorPosition : Option String} (hdown : motorPosition ≠ some POSITION_DOWN) :
    (s.onSensorChanged value motorPosition).writes =
        s.writes ++ [.direction .DIRECTION_DOWN, .enable] ↔ motorPosition ≠ none := by
  unfold onSensorChanged
  rw [if_neg (not_le_of_gt hvalue)]
  cases motorPosition with
  | none => simp
  | some position =>
    have hne : position ≠ POSITION_DOWN := fun h => hdown (congrArg some h)
    simp [hne, moveMotor, setMotorDirection, setMotorEnabled]

/-- A callback for another camera does nothing. -/
theorem cameraEvent_of_ne {cameraId : String} (h : cameraId ≠ FRONT_CAMERA_ID)
    (what : CameraMessage) (took tookToo : Nat) : s.cameraEvent what cameraId took tookToo = s :=
  if_neg h

/-- A sample leaves the messages alone, and does not raise the camera. -/
theorem onSensorChanged_quiet (value : Rat) (motorPosition : Option String) :
    (s.onSensorChanged value motorPosition).mHandler = s.mHandler ∧
      ∃ new, (s.onSensorChanged value motorPosition).writes = s.writes ++ new ∧
        .direction .DIRECTION_UP ∉ new := by
  have hnothing : s.writes = s.writes ++ [] := (List.append_nil _).symm
  unfold onSensorChanged
  split
  · exact ⟨rfl, [], hnothing, List.not_mem_nil⟩
  · split
    · exact ⟨rfl, [], hnothing, List.not_mem_nil⟩
    · split
      · exact ⟨rfl, [], hnothing, List.not_mem_nil⟩
      · exact ⟨rfl, [.direction .DIRECTION_DOWN, .enable], List.append_assoc .., by decide⟩

/-- With no message to raise the camera, the one handed over lowers it. -/
theorem dispatchMessage_quiet (hopen : hasMessages .MSG_CAMERA_OPEN s.mHandler = false)
    (h : s.dispatchMessage = some t) :
    hasMessages .MSG_CAMERA_OPEN t.mHandler = false ∧
      ∃ new, t.writes = s.writes ++ new ∧ .direction .DIRECTION_UP ∉ new := by
  obtain ⟨⟨message, queue⟩, hnext, rfl⟩ := Option.map_eq_some_iff.mp h
  have hqueue := next_eq_some hnext
  rw [hasMessages_eq_false, hqueue] at hopen
  obtain ⟨hfirst, hrest⟩ := List.forall_mem_cons.mp hopen
  cases hwhat : message.what with
  | MSG_CAMERA_OPEN => exact absurd hwhat hfirst
  | MSG_CAMERA_CLOSED =>
    dsimp only
    rw [hwhat]
    exact ⟨hasMessages_eq_false.mpr hrest, [.direction .DIRECTION_DOWN, .enable],
      List.append_assoc .., by decide⟩

/-- While nothing ends the wait and no message to raise the camera is pending, none
comes up, and the camera is not raised. -/
theorem step_quiet {l : CameraStep} (hl : ¬ l.EndsFall)
    (hopen : hasMessages .MSG_CAMERA_OPEN s.mHandler = false) (h : s.step l = some t) :
    hasMessages .MSG_CAMERA_OPEN t.mHandler = false ∧
      ∃ new, t.writes = s.writes ++ new ∧ .direction .DIRECTION_UP ∉ new := by
  have hnothing : s.writes = s.writes ++ [] := (List.append_nil _).symm
  unfold step at h
  split at h
  · cases h
  · cases l with
    | wait ms =>
      cases h
      exact ⟨hopen, [], hnothing, List.not_mem_nil⟩
    | suspend ms =>
      cases h
      exact ⟨hopen, [], hnothing, List.not_mem_nil⟩
    | onCameraAvailable cameraId took tookToo =>
      dsimp only at h
      rw [onCameraAvailable, cameraEvent_of_ne hl] at h
      cases h
      exact ⟨hopen, [], hnothing, List.not_mem_nil⟩
    | onCameraUnavailable cameraId took tookToo =>
      dsimp only at h
      rw [onCameraUnavailable, cameraEvent_of_ne hl] at h
      cases h
      exact ⟨hopen, [], hnothing, List.not_mem_nil⟩
    | dispatchMessage => exact dispatchMessage_quiet hopen h
    | onSensorChanged value motorPosition =>
      obtain rfl := Option.some.inj h
      obtain ⟨hhandler, hwrites⟩ := onSensorChanged_quiet (s := s) value motorPosition
      exact ⟨by rw [hhandler, hopen], hwrites⟩
    | answerAlert raiseTheCamera => exact absurd trivial hl

end CameraProcess

namespace FallWatch

/-- After a fall, until something ends the wait, the camera has not been raised, and
no message to raise it is pending. -/
def KeptDown (s : FallWatch) : Prop :=
  ∀ n, s.fallAt = some n → n ≤ s.process.writes.length ∧
    .direction .DIRECTION_UP ∉ s.process.writes.drop n ∧
    hasMessages .MSG_CAMERA_OPEN s.process.mHandler = false

/-- The wait goes on, or begins with this step. -/
theorem watch_eq_some {s : FallWatch} {l : CameraStep} {n : Nat} (h : s.watch l = some n) :
    ¬ l.EndsFall ∧ (s.fallAt = some n ∨ l.IsFall ∧ s.fallAt = none ∧
      n = s.process.writes.length) := by
  unfold watch at h
  split at h
  · cases h
  · rename_i hends
    refine ⟨hends, ?_⟩
    split at h
    · rename_i hfall
      cases hat : s.fallAt with
      | none =>
        rw [hat] at h
        exact Or.inr ⟨hfall, rfl, (Option.some.inj h).symm⟩
      | some m =>
        rw [hat] at h
        exact Or.inl h
    · exact Or.inl h

/-- A fall under the condition finds no message to raise the camera. -/
theorem FallsSafely.noOpen {s : FallWatch} {l : CameraStep} (h : s.FallsSafely l)
    (hfall : l.IsFall) : hasMessages .MSG_CAMERA_OPEN s.process.mHandler = false := by
  cases l with
  | onSensorChanged value motorPosition => exact (h hfall).1
  | _ => cases hfall

theorem keptDown_step {s t : FallWatch} {l : CameraStep} (hs : s.KeptDown) (hok : s.FallsSafely l)
    (h : s.step l = some t) : t.KeptDown := by
  obtain ⟨process, hprocess, rfl⟩ := Option.map_eq_some_iff.mp h
  intro n hn
  obtain ⟨hends, hwait⟩ := watch_eq_some hn
  -- what was so before the step, from the start of the wait on
  have hbefore : n ≤ s.process.writes.length ∧
      .direction .DIRECTION_UP ∉ s.process.writes.drop n ∧
      hasMessages .MSG_CAMERA_OPEN s.process.mHandler = false := by
    rcases hwait with hat | ⟨hfall, -, rfl⟩
    · exact hs n hat
    · -- the wait begins here, with nothing written yet
      refine ⟨Nat.le_refl _, ?_, hok.noOpen hfall⟩
      rw [List.drop_length]
      exact List.not_mem_nil
  obtain ⟨hle, hnot, hopen⟩ := hbefore
  obtain ⟨hopen', new, hwrites, hnew⟩ := CameraProcess.step_quiet hends hopen hprocess
  refine ⟨?_, ?_, hopen'⟩
  · dsimp only
    rw [hwrites, List.length_append]
    omega
  · dsimp only
    rw [hwrites, List.drop_append_of_le_length hle]
    intro hmem
    rcases List.mem_append.mp hmem with hmem | hmem
    · exact hnot hmem
    · exact hnew hmem

/-- **A fall keeps the camera down.**  On every run in which no message to raise the
camera is pending at a fall and the position file can be read then, the camera is
not raised from a fall until the next callback for the front camera or answer of
the user, and every sample of a fall that does not find the camera down lowers it. -/
theorem fall_keeps_down {s : FallWatch} (h : machine.ReachableBy FallsSafely s) :
    .direction .DIRECTION_UP ∉ s.sinceFall ∧
      ∀ value motorPosition t, 0 < value → motorPosition ≠ some POSITION_DOWN →
        s.FallsSafely (.onSensorChanged value motorPosition) →
        s.step (.onSensorChanged value motorPosition) = some t →
        t.process.writes = s.process.writes ++ [.direction .DIRECTION_DOWN, .enable] := by
  have hs : s.KeptDown := by
    refine h.invariant ?_ fun _ _ _ hs hok ht => keptDown_step hs hok ht
    rintro s ⟨-, -, -, -, -, -, hnone⟩ n hn
    rw [hnone] at hn
    cases hn
  constructor
  · unfold sinceFall
    cases hat : s.fallAt with
    | none => exact List.not_mem_nil
    | some n => exact (hs n hat).2.1
  · intro value motorPosition t hvalue hdown hok ht
    obtain ⟨process, hprocess, rfl⟩ := Option.map_eq_some_iff.mp ht
    unfold CameraProcess.step at hprocess
    split at hprocess
    · cases hprocess
    · obtain rfl := Option.some.inj hprocess
      exact (CameraProcess.onSensorChanged_lowers_iff hvalue hdown).mpr (hok hvalue).2

/-- The services have started. -/
def started : FallWatch := ⟨⟨5000, 5000, [], 0, 0, 0, [], false⟩, none⟩

theorem started_init : machine.init started := ⟨rfl, rfl, rfl, rfl, rfl, rfl, rfl⟩

/-- The camera is raised, and lowered at a fall. -/
theorem fall_keeps_down_once : ∃ s : FallWatch, machine.ReachableBy FallsSafely s ∧
    s.sinceFall = [.direction .DIRECTION_DOWN, .enable] ∧
    .direction .DIRECTION_UP ∉ s.sinceFall := by
  have hrun : (machine.exec started
      [.onCameraUnavailable "1" 0 0, .wait 100, .dispatchMessage, .onSensorChanged 1 (some "0"),
        .wait 100]).map sinceFall = some [.direction .DIRECTION_DOWN, .enable] := by
    decide +kernel
  obtain ⟨s, hexec, hsince⟩ := Option.map_eq_some_iff.mp hrun
  have hreach : machine.ReachableBy FallsSafely s :=
    StepMachine.ReachableBy.exec (.init started_init) hexec (by decide +kernel)
  exact ⟨s, hreach, hsince, (fall_keeps_down hreach).1⟩

/-- The phone falls before the camera has been raised: nothing takes the message
back, and it raises the camera of a falling phone. -/
theorem pending_open_raises :
    ¬ ∀ s : FallWatch, machine.Reachable s → .direction .DIRECTION_UP ∉ s.sinceFall := by
  intro h
  have hrun : (machine.exec started
      [.onCameraUnavailable "1" 0 0, .onSensorChanged 1 (some POSITION_DOWN), .wait 100,
        .dispatchMessage]).map sinceFall = some [.direction .DIRECTION_UP, .enable] := by
    decide +kernel
  obtain ⟨s, hexec, hsince⟩ := Option.map_eq_some_iff.mp hrun
  have hnot := h s (StepMachine.Reachable.exec (.init started_init) hexec)
  rw [hsince] at hnot
  exact hnot List.mem_cons_self

end FallWatch
end CameraHelper
