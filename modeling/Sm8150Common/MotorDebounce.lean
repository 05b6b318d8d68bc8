import Sm8150Common.CameraMotor

/-! # The last callback decides

A callback for the front camera sends its message with a delay, and takes back the
message of the other kind if the other callback came less than the delay ago
(`CameraMotorService.java`, lines 35–66).  Messages are due by `uptimeMillis`,
which stops in suspend; how long ago a callback came is told by `elapsedRealtime`,
which does not.

`motor_follows_callbacks` says that the motor ends where the last callback asked,
and not before its delay, whether or not messages are taken back.
`nothing_superseded` says when they are: on every run in which no message is
pending longer, by `elapsedRealtime`, than the delay when a callback of the other
kind comes; `superseded_after_suspend` is a run in which one is. -/
namespace CameraHelper

open DelayedMessages

/-- Where a message moves the camera. -/
def CameraMessage.direction : CameraMessage → MotorDirection
  | .MSG_CAMERA_CLOSED => .DIRECTION_DOWN
  | .MSG_CAMERA_OPEN => .DIRECTION_UP

theorem CameraMessage.eq_of_ne_opposite {what asked : CameraMessage}
    (h : what ≠ asked.opposite) : what = asked := by
  cases what <;> cases asked <;> first | rfl | exact absurd rfl h

/-- The message a step sends if it is a callback for the front camera, and the times
the callback takes. -/
def CameraStep.request : CameraStep → Option (CameraMessage × Nat × Nat)
  | .onCameraAvailable cameraId took tookToo =>
    if cameraId = FRONT_CAMERA_ID then some (.MSG_CAMERA_CLOSED, took, tookToo) else none
  | .onCameraUnavailable cameraId took tookToo =>
    if cameraId = FRONT_CAMERA_ID then some (.MSG_CAMERA_OPEN, took, tookToo) else none
  | _ => none

/-- Neither the fall sensor nor the user moves the camera. -/
def CameraStep.OfCameraService : CameraStep → Prop
  | .onSensorChanged .. | .answerAlert _ => False
  | _ => True

instance : DecidablePred CameraStep.OfCameraService
  | .onSensorChanged .. | .answerAlert _ => isFalse id
  | .wait _ | .suspend _ | .onCameraAvailable .. | .onCameraUnavailable .. | .dispatchMessage =>
    isTrue trivial

namespace CameraProcess
variable (s : CameraProcess)

theorem handleMessage_eq (what : CameraMessage) :
    s.handleMessage what = s.moveMotor what.direction := by
  cases what <;> rfl

/-- Less than the delay has passed since the last callback of the other kind, at the
time of the comparison. -/
def Recent (what : CameraMessage) (took : Nat) : Prop :=
  s.elapsedRealtime + took - s.lastEvent what.opposite < CAMERA_EVENT_DELAY_TIME

instance (what : CameraMessage) (took : Nat) : Decidable (s.Recent what took) :=
  inferInstanceAs (Decidable (_ < _))

/-- The messages a callback leaves in the queue. -/
def keptMessages (what : CameraMessage) (took : Nat) : List (Message CameraMessage) :=
  if s.Recent what took ∧ hasMessages what.opposite s.mHandler = true then
    removeMessages what.opposite s.mHandler
  else s.mHandler

/-- What a callback for the front camera does. -/
theorem cameraEvent_front (what : CameraMessage) (took tookToo : Nat) :
    s.cameraEvent what FRONT_CAMERA_ID took tookToo =
      { s.recordEvent what with
        uptimeMillis := s.uptimeMillis + took + tookToo
        elapsedRealtime := s.elapsedRealtime + took + tookToo
        mHandler := enqueue ⟨what, s.uptimeMillis + took + tookToo + CAMERA_EVENT_DELAY_TIME⟩
          (s.keptMessages what took) } := by
  rw [cameraEvent, if_pos rfl]
  dsimp only
  by_cases h : s.Recent what took ∧ hasMessages what.opposite s.mHandler = true
  · have hsource : ((s.recordEvent what).wait took).elapsedRealtime -
          ((s.recordEvent what).wait took).lastEvent what.opposite < CAMERA_EVENT_DELAY_TIME ∧
        hasMessages what.opposite ((s.recordEvent what).wait took).mHandler = true := by
      cases what <;> exact h
    rw [keptMessages, if_pos h, if_pos hsource]
    cases what <;> rfl
  · have hsource : ¬ (((s.recordEvent what).wait took).elapsedRealtime -
          ((s.recordEvent what).wait took).lastEvent what.opposite < CAMERA_EVENT_DELAY_TIME ∧
        hasMessages what.opposite ((s.recordEvent what).wait took).mHandler = true) := by
      cases what <;> exact h
    rw [keptMessages, if_neg h, if_neg hsource]
    cases what <;> rfl

theorem recordEvent_writes (what : CameraMessage) : (s.recordEvent what).writes = s.writes := by
  cases what <;> rfl

variable {s} {t : CameraProcess}

/-- **What a step can do** to the messages and the motor: a callback sends a message;
a message is handed over; or the messages stay, and time may pass. -/
theorem step_cases {l : CameraStep} (h : s.step l = some t) :
    (∃ what took tookToo, l.request = some (what, took, tookToo) ∧
      t = s.cameraEvent what FRONT_CAMERA_ID took tookToo) ∨
    (l = .dispatchMessage ∧ ∃ message rest,
      next s.uptimeMillis s.mHandler = some (message, rest) ∧
      t = ({ s with mHandler := rest } : CameraProcess).moveMotor message.what.direction) ∨
    (l.request = none ∧ l ≠ .dispatchMessage ∧ t.mHandler = s.mHandler ∧
      s.uptimeMillis ≤ t.uptimeMillis ∧
      s.elapsedRealtime - s.uptimeMillis ≤ t.elapsedRealtime - t.uptimeMillis ∧
      (l.OfCameraService → t.writes = s.writes)) := by
  unfold step at h
  split at h
  · cases h
  · cases l with
    | wait ms =>
      cases h
      refine Or.inr (Or.inr ⟨rfl, CameraStep.noConfusion, rfl, ?_, ?_, fun _ => rfl⟩)
      · dsimp only [wait]
        omega
      · dsimp only [wait]
        omega
    | suspend ms =>
      cases h
      refine Or.inr (Or.inr ⟨rfl, CameraStep.noConfusion, rfl, Int.le_refl _, ?_, fun _ => rfl⟩)
      dsimp only [suspend]
      omega
    | onCameraAvailable cameraId took tookToo =>
      dsimp only at h
      cases h
      by_cases hfront : cameraId = FRONT_CAMERA_ID
      · subst hfront
        exact Or.inl ⟨.MSG_CAMERA_CLOSED, took, tookToo,
          by rw [CameraStep.request, if_pos rfl], rfl⟩
      · refine Or.inr (Or.inr ⟨if_neg hfront, CameraStep.noConfusion, ?_⟩)
        rw [onCameraAvailable, cameraEvent_of_ne hfront]
        exact ⟨rfl, Int.le_refl _, Int.le_refl _, fun _ => rfl⟩
    | onCameraUnavailable cameraId took tookToo =>
      dsimp only at h
      cases h
      by_cases hfront : cameraId = FRONT_CAMERA_ID
      · subst hfront
        exact Or.inl ⟨.MSG_CAMERA_OPEN, took, tookToo, by rw [CameraStep.request, if_pos rfl], rfl⟩
      · refine Or.inr (Or.inr ⟨if_neg hfront, CameraStep.noConfusion, ?_⟩)
        rw [onCameraUnavailable, cameraEvent_of_ne hfront]
        exact ⟨rfl, Int.le_refl _, Int.le_refl _, fun _ => rfl⟩
    | dispatchMessage =>
      obtain ⟨⟨message, rest⟩, hnext, rfl⟩ := Option.map_eq_some_iff.mp h
      exact Or.inr (Or.inl ⟨rfl, message, rest, hnext, handleMessage_eq _ _⟩)
    | onSensorChanged value motorPosition =>
      obtain rfl := Option.some.inj h
      refine Or.inr (Or.inr ⟨rfl, CameraStep.noConfusion,
        (onSensorChanged_quiet value motorPosition).1, ?_⟩)
      have hclocks : (s.onSensorChanged value motorPosition).uptimeMillis = s.uptimeMillis ∧
          (s.onSensorChanged value motorPosition).elapsedRealtime = s.elapsedRealtime := by
        unfold onSensorChanged
        split
        · exact ⟨rfl, rfl⟩
        · split
          · exact ⟨rfl, rfl⟩
          · split <;> exact ⟨rfl, rfl⟩
      obtain ⟨hup, helapsed⟩ := hclocks
      exact ⟨by omega, by omega, fun h => h.elim⟩
    | answerAlert raiseTheCamera =>
      obtain ⟨-, rfl⟩ := Option.ite_none_right_eq_some.mp h |>.imp_right Option.some.inj
      refine Or.inr (Or.inr ⟨rfl, CameraStep.noConfusion, ?_⟩)
      cases raiseTheCamera <;> exact ⟨rfl, Int.le_refl _, Int.le_refl _, fun h => h.elim⟩

end CameraProcess

/-! ## Callbacks and commands -/

/-- A message, with the readings of the two clocks. -/
structure ClockedMessage where
  what : CameraMessage
  uptimeMillis : Int
  elapsedRealtime : Int
  deriving DecidableEq, Repr

/-- The process, its last callback for the front camera with the time at which it
returned, and the commands executed for messages with theirs. -/
structure CallbackWatch where
  process : CameraProcess
  lastCallback : Option ClockedMessage
  commands : List ClockedMessage
  deriving DecidableEq, Repr

namespace CallbackWatch

/-- The command of a step that hands over a message. -/
def dispatched (s : CallbackWatch) : CameraStep → List ClockedMessage
  | .dispatchMessage =>
    match next s.process.uptimeMillis s.process.mHandler with
    | some (message, _) =>
      [⟨message.what, s.process.uptimeMillis, s.process.elapsedRealtime⟩]
    | none => []
  | _ => []

def step (s : CallbackWatch) (l : CameraStep) : Option CallbackWatch :=
  (s.process.step l).map fun process =>
    { process := process
      lastCallback :=
        match l.request with
        | some (what, _) => some ⟨what, process.uptimeMillis, process.elapsedRealtime⟩
        | none => s.lastCallback
      commands := s.commands ++ s.dispatched l }

/-- The service has started: nothing has happened yet, at any time. -/
def machine : StepMachine CallbackWatch CameraStep where
  init s := s.process.mHandler = [] ∧ s.process.mClosedEvent = 0 ∧ s.process.mOpenEvent = 0 ∧
    s.process.alerts = 0 ∧ s.process.writes = [] ∧ s.process.crashed = false ∧
    s.lastCallback = none ∧ s.commands = []
  step := step

/-- The writes of the commands. -/
def commandWrites (commands : List ClockedMessage) : List MotorWrite :=
  commands.flatMap fun command => [.direction command.what.direction, .enable]

variable {s t : CallbackWatch}

/-- What a step does, as `CameraProcess.step_cases`, with the record. -/
theorem step_cases {l : CameraStep} (h : s.step l = some t) :
    (∃ what took tookToo, l.request = some (what, took, tookToo) ∧
      t.process = s.process.cameraEvent what FRONT_CAMERA_ID took tookToo ∧
      t.lastCallback = some ⟨what, t.process.uptimeMillis, t.process.elapsedRealtime⟩ ∧
      t.commands = s.commands) ∨
    (l = .dispatchMessage ∧ ∃ message rest,
      next s.process.uptimeMillis s.process.mHandler = some (message, rest) ∧
      t.process = ({ s.process with mHandler := rest } : CameraProcess).moveMotor
        message.what.direction ∧
      t.lastCallback = s.lastCallback ∧
      t.commands = s.commands ++
        [⟨message.what, s.process.uptimeMillis, s.process.elapsedRealtime⟩]) ∨
    (t.process.mHandler = s.process.mHandler ∧
      s.process.uptimeMillis ≤ t.process.uptimeMillis ∧
      s.process.elapsedRealtime - s.process.uptimeMillis ≤
        t.process.elapsedRealtime - t.process.uptimeMillis ∧
      (l.OfCameraService → t.process.writes = s.process.writes) ∧
      t.lastCallback = s.lastCallback ∧ t.commands = s.commands) := by
  obtain ⟨process, hprocess, rfl⟩ := Option.map_eq_some_iff.mp h
  rcases CameraProcess.step_cases hprocess with
    ⟨what, took, tookToo, hrequest, rfl⟩ | ⟨rfl, message, rest, hnext, rfl⟩ |
      ⟨hrequest, hdispatch, hhandler, hup, hlag, hwrites⟩
  · refine Or.inl ⟨what, took, tookToo, hrequest, rfl, ?_, ?_⟩
    · dsimp only
      rw [hrequest]
    · have hnone : s.dispatched l = [] := by
        cases l with
        | dispatchMessage => cases hrequest
        | _ => rfl
      dsimp only
      rw [hnone, List.append_nil]
  · refine Or.inr (Or.inl ⟨rfl, message, rest, hnext, rfl, rfl, ?_⟩)
    dsimp only [dispatched]
    rw [hnext]
  · refine Or.inr (Or.inr ⟨hhandler, hup, hlag, hwrites, ?_, ?_⟩)
    · dsimp only
      rw [hrequest]
    · have hnone : s.dispatched l = [] := by
        cases l with
        | dispatchMessage => exact absurd rfl hdispatch
        | _ => rfl
      dsimp only
      rw [hnone, List.append_nil]

/-! ## Where the motor ends -/

/-- The message of the last callback is the last one pending, or is the last one
executed and nothing is pending. -/
def Answered (s : CallbackWatch) (callback : ClockedMessage) : Prop :=
  (∃ earlier message, s.process.mHandler = earlier ++ [message] ∧
    message.what = callback.what ∧
    callback.uptimeMillis + CAMERA_EVENT_DELAY_TIME ≤ message.due) ∨
  s.process.mHandler = [] ∧ ∃ earlier command, s.commands = earlier ++ [command] ∧
    command.what = callback.what ∧
    callback.uptimeMillis + CAMERA_EVENT_DELAY_TIME ≤ command.uptimeMillis ∧
    callback.elapsedRealtime + CAMERA_EVENT_DELAY_TIME ≤ command.elapsedRealtime

/-- No message is due later than the next one could be, the writes to the motor are
those of the commands, and the last callback is answered or will be. -/
structure Invariant (s : CallbackWatch) : Prop where
  due_le : ∀ message ∈ s.process.mHandler,
    message.due ≤ s.process.uptimeMillis + CAMERA_EVENT_DELAY_TIME
  writes : s.process.writes = commandWrites s.commands
  lag : ∀ callback ∈ s.lastCallback, callback.elapsedRealtime - callback.uptimeMillis ≤
    s.process.elapsedRealtime - s.process.uptimeMillis
  answered : ∀ callback ∈ s.lastCallback, s.Answered callback
  idle : s.lastCallback = none → s.process.mHandler = []

theorem invariant_init (h : machine.init s) : s.Invariant := by
  obtain ⟨hhandler, -, -, -, hwrites, -, hnone, hcommands⟩ := h
  refine ⟨?_, ?_, ?_, ?_, fun _ => hhandler⟩
  · rw [hhandler]
    rintro message ⟨⟩
  · rw [hwrites, hcommands]
    rfl
  · rw [hnone]
    rintro callback ⟨⟩
  · rw [hnone]
    rintro callback ⟨⟩

/-- A callback's message is put at the end, behind those that are kept. -/
theorem invariant_callback (hs : s.Invariant) {what : CameraMessage} {took tookToo : Nat}
    (hprocess : t.process = s.process.cameraEvent what FRONT_CAMERA_ID took tookToo)
    (hlast : t.lastCallback = some ⟨what, t.process.uptimeMillis, t.process.elapsedRealtime⟩)
    (hcommands : t.commands = s.commands) : t.Invariant := by
  rw [CameraProcess.cameraEvent_front] at hprocess
  have hkept : ∀ message ∈ s.process.keptMessages what took,
      message.due ≤ s.process.uptimeMillis + CAMERA_EVENT_DELAY_TIME := by
    intro message hmessage
    unfold CameraProcess.keptMessages at hmessage
    split at hmessage
    · exact hs.due_le message ((List.mem_filter.mp hmessage).1)
    · exact hs.due_le message hmessage
  have hup : t.process.uptimeMillis = s.process.uptimeMillis + took + tookToo := by
    rw [hprocess]
  have hhandler : t.process.mHandler = s.process.keptMessages what took ++
      [⟨what, t.process.uptimeMillis + CAMERA_EVENT_DELAY_TIME⟩] := by
    rw [hup, hprocess]
    refine enqueue_eq_append fun message hmessage => ?_
    have := hkept message hmessage
    dsimp only
    omega
  refine ⟨?_, ?_, ?_, ?_, ?_⟩
  · rw [hhandler]
    intro message hmessage
    rcases List.mem_append.mp hmessage with hmessage | hmessage
    · have := hkept message hmessage
      omega
    · rw [List.mem_singleton.mp hmessage]
  · rw [hprocess, hcommands]
    exact (CameraProcess.recordEvent_writes s.process what).trans hs.writes
  · rw [hlast]
    rintro callback ⟨⟩
    exact Int.le_refl _
  · rw [hlast]
    rintro callback ⟨⟩
    exact Or.inl ⟨_, _, hhandler, rfl, Int.le_refl _⟩
  · intro hnone
    rw [hlast] at hnone
    cases hnone

/-- The first message is executed; it is that of the last callback if no other one is
pending. -/
theorem invariant_dispatch (hs : s.Invariant) {message : Message CameraMessage}
    {rest : List (Message CameraMessage)}
    (hnext : next s.process.uptimeMillis s.process.mHandler = some (message, rest))
    (hprocess : t.process = ({ s.process with mHandler := rest } : CameraProcess).moveMotor
      message.what.direction)
    (hlast : t.lastCallback = s.lastCallback)
    (hcommands : t.commands = s.commands ++
      [⟨message.what, s.process.uptimeMillis, s.process.elapsedRealtime⟩]) : t.Invariant := by
  have hqueue := next_eq_some hnext
  have hdue := due_of_next hnext
  have hhandler : t.process.mHandler = rest := by rw [hprocess]; rfl
  have hup : t.process.uptimeMillis = s.process.uptimeMillis := by rw [hprocess]; rfl
  have helapsed : t.process.elapsedRealtime = s.process.elapsedRealtime := by rw [hprocess]; rfl
  refine ⟨?_, ?_, ?_, ?_, ?_⟩
  · rw [hhandler, hup]
    intro waiting hwaiting
    exact hs.due_le waiting (hqueue ▸ List.mem_cons_of_mem _ hwaiting)
  · have hwrites : t.process.writes =
        s.process.writes ++ [.direction message.what.direction, .enable] := by
      rw [hprocess]
      exact List.append_assoc ..
    rw [hwrites, hs.writes, hcommands, commandWrites, commandWrites, List.flatMap_append]
    rfl
  · rw [hlast, hup, helapsed]
    exact hs.lag
  · rw [hlast]
    intro callback hcallback
    rcases hs.answered callback hcallback with ⟨earlier, last, hsplit, hwhat, hlate⟩ | ⟨hnil, -⟩
    · rw [hqueue] at hsplit
      cases earlier with
      | nil =>
        -- it is the callback's own message
        obtain ⟨rfl, rfl⟩ := List.cons.inj hsplit
        have hlag := hs.lag callback hcallback
        exact Or.inr ⟨hhandler, s.commands, _, hcommands, hwhat, by dsimp only; omega,
          by dsimp only; omega⟩
      | cons first earlier =>
        obtain ⟨-, hrest⟩ := List.cons.inj hsplit
        exact Or.inl ⟨earlier, last, hhandler.trans hrest, hwhat, hlate⟩
    · rw [hnil] at hqueue
      cases hqueue
  · intro hnone
    rw [hlast] at hnone
    rw [hs.idle hnone] at hqueue
    cases hqueue

theorem invariant_step {l : CameraStep} (hs : s.Invariant) (hl : l.OfCameraService)
    (h : s.step l = some t) : t.Invariant := by
  rcases step_cases h with ⟨what, took, tookToo, -, hprocess, hlast, hcommands⟩ |
    ⟨-, message, rest, hnext, hprocess, hlast, hcommands⟩ |
      ⟨hhandler, hup, hlag, hwrites, hlast, hcommands⟩
  · exact invariant_callback hs hprocess hlast hcommands
  · exact invariant_dispatch hs hnext hprocess hlast hcommands
  · refine ⟨?_, ?_, ?_, ?_, ?_⟩
    · rw [hhandler]
      intro message hmessage
      have := hs.due_le message hmessage
      omega
    · rw [hwrites hl, hcommands]
      exact hs.writes
    · rw [hlast]
      intro callback hcallback
      exact Int.le_trans (hs.lag callback hcallback) hlag
    · rw [hlast]
      unfold Answered
      rw [hhandler, hcommands]
      exact hs.answered
    · rw [hlast, hhandler]
      exact hs.idle

/-- **The motor ends where the last callback asked.**  On every run in which nobody
else moves the camera: with no message pending, the last command is that of the last
callback and came no earlier than its delay, by either clock; until then the message
of the last callback is pending, behind all others, so that no removal has cancelled
it. -/
theorem motor_follows_callbacks (h : machine.ReachableBy (fun _ l => l.OfCameraService) s)
    {callback : ClockedMessage} (hlast : s.lastCallback = some callback) :
    (s.process.mHandler = [] →
      (∃ earlier, s.process.writes =
        earlier ++ [.direction callback.what.direction, .enable]) ∧
      ∃ command, s.commands.getLast? = some command ∧ command.what = callback.what ∧
        callback.uptimeMillis + CAMERA_EVENT_DELAY_TIME ≤ command.uptimeMillis ∧
        callback.elapsedRealtime + CAMERA_EVENT_DELAY_TIME ≤ command.elapsedRealtime) ∧
    (s.process.mHandler ≠ [] → ∃ message, s.process.mHandler.getLast? = some message ∧
      message.what = callback.what ∧
      callback.uptimeMillis + CAMERA_EVENT_DELAY_TIME ≤ message.due) := by
  have hs : s.Invariant :=
    h.invariant (fun _ => invariant_init) fun _ _ _ hs hl ht => invariant_step hs hl ht
  rcases hs.answered callback hlast with
    ⟨earlier, message, hsplit, hwhat, hlate⟩ | ⟨hnil, earlier, command, hsplit, hwhat, hup, hel⟩
  · refine ⟨fun hnil => ?_, fun _ => ⟨message, ?_, hwhat, hlate⟩⟩
    · rw [hsplit] at hnil
      exact absurd hnil (List.append_ne_nil_of_right_ne_nil _ (List.cons_ne_nil _ _))
    · rw [hsplit, List.getLast?_concat]
  · refine ⟨fun _ => ⟨⟨commandWrites earlier, ?_⟩, command, ?_, hwhat, hup, hel⟩,
      fun hne => absurd hnil hne⟩
    · rw [hs.writes, hsplit, commandWrites, List.flatMap_append, ← hwhat]
      rfl
    · rw [hsplit, List.getLast?_concat]

/-- The service has started. -/
def started : CallbackWatch := ⟨⟨5000, 5000, [], 0, 0, 0, [], false⟩, none, []⟩

theorem started_init : machine.init started := ⟨rfl, rfl, rfl, rfl, rfl, rfl, rfl, rfl⟩

/-- The camera is opened and closed again within the delay. -/
theorem motor_follows_callbacks_once : ∃ s : CallbackWatch,
    machine.ReachableBy (fun _ l => l.OfCameraService) s ∧
    s.process.writes = [.direction .DIRECTION_DOWN, .enable] ∧
    ∃ command, s.commands.getLast? = some command ∧ command.what = .MSG_CAMERA_CLOSED ∧
      5050 + CAMERA_EVENT_DELAY_TIME ≤ command.uptimeMillis ∧
      5050 + CAMERA_EVENT_DELAY_TIME ≤ command.elapsedRealtime := by
  have hrun : (machine.exec started [.onCameraUnavailable "1" 0 0, .wait 50,
      .onCameraAvailable "1" 0 0, .wait 100, .dispatchMessage]).map
      (fun s => (s.lastCallback, s.process.mHandler, s.process.writes)) =
      some (some ⟨.MSG_CAMERA_CLOSED, 5050, 5050⟩, [], [.direction .DIRECTION_DOWN, .enable]) := by
    decide +kernel
  obtain ⟨s, hexec, hs⟩ := Option.map_eq_some_iff.mp hrun
  simp only [Prod.mk.injEq] at hs
  obtain ⟨hlast, hnil, hwrites⟩ := hs
  have hreach : machine.ReachableBy (fun _ l => l.OfCameraService) s :=
    StepMachine.ReachableBy.exec (.init started_init) hexec (by decide +kernel)
  exact ⟨s, hreach, hwrites, ((motor_follows_callbacks hreach hlast).1 hnil).2⟩

/-! ## What a callback supersedes -/

/-- A message that a front-camera callback should take back was sent by a callback
less than the delay ago. -/
def InTime (s : CallbackWatch) (l : CameraStep) : Prop :=
  ∀ request ∈ l.request, hasMessages request.1.opposite s.process.mHandler = true →
    s.process.Recent request.1 request.2.1

instance (s : CallbackWatch) : DecidablePred s.InTime := fun l =>
  inferInstanceAs (Decidable (∀ request ∈ l.request, _ → _))

theorem hasMessages_opposite_kept (s : CameraProcess) (what : CameraMessage) (took : Nat) :
    hasMessages what.opposite (s.keptMessages what took) = false ↔
      (hasMessages what.opposite s.mHandler = true → s.Recent what took) := by
  unfold CameraProcess.keptMessages
  by_cases hpending : hasMessages what.opposite s.mHandler = true
  · by_cases hrecent : s.Recent what took
    · rw [if_pos ⟨hrecent, hpending⟩]
      exact ⟨fun _ _ => hrecent, fun _ => hasMessages_removeMessages _ _⟩
    · rw [if_neg fun h => hrecent h.1, hpending]
      exact ⟨fun h => absurd h.symm Bool.false_ne_true, fun h => absurd (h rfl) hrecent⟩
  · rw [if_neg fun h => hpending h.2]
    exact ⟨fun _ h => absurd h hpending, fun _ => Bool.eq_false_iff.mpr hpending⟩

/-- One callback: it leaves no message of the other kind if and only if none was
pending, or the last callback of the other kind came less than the delay ago. -/
theorem hasMessages_opposite_cameraEvent (s : CameraProcess) (what : CameraMessage)
    (took tookToo : Nat) :
    hasMessages what.opposite (s.cameraEvent what FRONT_CAMERA_ID took tookToo).mHandler = false ↔
      (hasMessages what.opposite s.mHandler = true → s.Recent what took) := by
  have hne : what ≠ what.opposite := by
    cases what <;> exact nofun
  rw [CameraProcess.cameraEvent_front, hasMessages_enqueue_of_ne hne, hasMessages_opposite_kept]

/-- No message of the kind opposite to the last callback is pending. -/
def NothingSuperseded (s : CallbackWatch) : Prop :=
  ∀ callback ∈ s.lastCallback, hasMessages callback.what.opposite s.process.mHandler = false

theorem nothingSuperseded_step {l : CameraStep} (hs : s.NothingSuperseded) (hok : s.InTime l)
    (h : s.step l = some t) : t.NothingSuperseded := by
  rcases step_cases h with ⟨what, took, tookToo, hrequest, hprocess, hlast, -⟩ |
    ⟨-, message, rest, hnext, hprocess, hlast, -⟩ | ⟨hhandler, -, -, -, hlast, -⟩
  · unfold NothingSuperseded
    rw [hlast]
    rintro callback ⟨⟩
    rw [hprocess]
    exact (hasMessages_opposite_cameraEvent _ _ _ _).mpr (hok _ hrequest)
  · have hhandler : t.process.mHandler = rest := by rw [hprocess]; rfl
    unfold NothingSuperseded
    rw [hlast, hhandler]
    intro callback hcallback
    have hbefore := hs callback hcallback
    rw [next_eq_some hnext, hasMessages_eq_false] at hbefore
    exact hasMessages_eq_false.mpr (List.forall_mem_cons.mp hbefore).2
  · unfold NothingSuperseded
    rw [hlast, hhandler]
    exact hs

/-- **When debouncing leaves nothing superseded.**  A callback leaves no message of
the other kind if and only if none was pending, or the last callback of that kind
came less than the delay ago.  On every run whose callbacks all find it so, no
message opposite to the last callback is ever pending, and a message that is handed
over moves the camera where that callback asked. -/
theorem nothing_superseded (s : CallbackWatch) :
    (∀ (what : CameraMessage) (took tookToo : Nat),
      hasMessages what.opposite
          (s.process.cameraEvent what FRONT_CAMERA_ID took tookToo).mHandler = false ↔
        (hasMessages what.opposite s.process.mHandler = true → s.process.Recent what took)) ∧
    (machine.ReachableBy InTime s → ∀ callback ∈ s.lastCallback,
      hasMessages callback.what.opposite s.process.mHandler = false ∧
      ∀ t, s.step .dispatchMessage = some t → t.process.writes =
        s.process.writes ++ [.direction callback.what.direction, .enable]) := by
  refine ⟨hasMessages_opposite_cameraEvent s.process, fun h callback hcallback => ?_⟩
  have hs : s.NothingSuperseded := by
    refine h.invariant ?_ fun _ _ _ hs hok ht => nothingSuperseded_step hs hok ht
    rintro s ⟨-, -, -, -, -, -, hnone, -⟩ callback hcallback
    rw [hnone] at hcallback
    cases hcallback
  refine ⟨hs callback hcallback, fun t ht => ?_⟩
  obtain ⟨process, hprocess, rfl⟩ := Option.map_eq_some_iff.mp ht
  rcases CameraProcess.step_cases hprocess with
    ⟨_, _, _, hrequest, -⟩ | ⟨-, message, rest, hnext, rfl⟩ | ⟨-, hdispatch, -⟩
  · cases hrequest
  · have hnot := hs callback hcallback
    rw [next_eq_some hnext, hasMessages_eq_false] at hnot
    rw [← CameraMessage.eq_of_ne_opposite (List.forall_mem_cons.mp hnot).1]
    exact List.append_assoc ..
  · exact absurd rfl hdispatch

/-- The camera is closed again 50 ms after it was opened: it is not raised. -/
theorem nothing_superseded_once : ∃ s : CallbackWatch, machine.ReachableBy InTime s ∧
    hasMessages .MSG_CAMERA_OPEN s.process.mHandler = false ∧
    ∃ t, s.step .dispatchMessage = some t ∧
      t.process.writes = [.direction .DIRECTION_DOWN, .enable] := by
  have hrun : (machine.exec started [.onCameraUnavailable "1" 0 0, .wait 50,
      .onCameraAvailable "1" 0 0, .wait 100]).map
      (fun s => (s.lastCallback, s.process.writes, (s.step .dispatchMessage).isSome)) =
      some (some ⟨.MSG_CAMERA_CLOSED, 5050, 5050⟩, [], true) := by
    decide +kernel
  obtain ⟨s, hexec, hs⟩ := Option.map_eq_some_iff.mp hrun
  simp only [Prod.mk.injEq] at hs
  obtain ⟨hlast, hwrites, hdue⟩ := hs
  obtain ⟨t, ht⟩ := Option.isSome_iff_exists.mp hdue
  have hreach : machine.ReachableBy InTime s :=
    StepMachine.ReachableBy.exec (.init started_init) hexec (by decide +kernel)
  obtain ⟨hnone, hmoves⟩ := (nothing_superseded s).2 hreach _ hlast
  refine ⟨s, hreach, hnone, t, ht, ?_⟩
  rw [hmoves t ht, hwrites]
  rfl

/-- The device is suspended for the delay, so that the message is not due yet when
the callback of the other kind comes: it stays. -/
theorem superseded_after_suspend :
    ¬ ∀ s : CallbackWatch, machine.Reachable s → ∀ callback ∈ s.lastCallback,
      hasMessages callback.what.opposite s.process.mHandler = false := by
  intro h
  have hrun : (machine.exec started [.onCameraUnavailable "1" 0 0, .suspend 100,
      .onCameraAvailable "1" 0 0]).map
      (fun s => (s.lastCallback, hasMessages .MSG_CAMERA_OPEN s.process.mHandler)) =
      some (some ⟨.MSG_CAMERA_CLOSED, 5000, 5100⟩, true) := by
    decide +kernel
  obtain ⟨s, hexec, hs⟩ := Option.map_eq_some_iff.mp hrun
  simp only [Prod.mk.injEq] at hs
  obtain ⟨hlast, hpending⟩ := hs
  have hnone := h s (StepMachine.Reachable.exec (.init started_init) hexec) _ hlast
  exact absurd (hpending.symm.trans hnone) Bool.true_eq_false_eq_False

end CallbackWatch
end CameraHelper
