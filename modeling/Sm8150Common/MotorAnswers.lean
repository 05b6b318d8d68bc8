import Mathlib.Data.List.Forall2
import Sm8150Common.MotorDebounce

/-! # The motor does not move by itself

Every command that `CameraMotorService` gives the motor goes back to a callback for the front
camera (`CameraMotorService.java`, lines 35–66 and 92–105).  Callbacks may come in any number
and at any time, take each other's messages back, and lie on either side of a suspend; samples
of the fall sensor and answers of the user come in between.

`commands_answer_callbacks` says which commands there can be: in their order they answer some
of the callbacks, each its own, and each not before the delay has passed by either clock. -/
namespace CameraHelper

open DelayedMessages

/-- What is related to a whole list, a part of it is related to a part. -/
theorem forall₂_of_sublist {α β : Type} {R : α → β → Prop} {l : List α} {k k' : List β}
    (h : List.Forall₂ R l k) (hk : k'.Sublist k) :
    ∃ l', l'.Sublist l ∧ List.Forall₂ R l' k' := by
  induction h generalizing k' with
  | nil =>
    obtain rfl := List.sublist_nil.mp hk
    exact ⟨[], .slnil, .nil⟩
  | @cons a b l k hab _ ih =>
    cases hk with
    | cons _ hk =>
      obtain ⟨l', hsub, hrel⟩ := ih hk
      exact ⟨l', hsub.cons a, hrel⟩
    | cons_cons _ hk =>
      obtain ⟨l', hsub, hrel⟩ := ih hk
      exact ⟨a :: l', hsub.cons_cons a, .cons hab hrel⟩

/-- The process with its commands, and all callbacks for the front camera with the times at
which they returned. -/
structure CallbackHistory where
  watch : CallbackWatch
  callbacks : List ClockedMessage

namespace CallbackHistory

def step (s : CallbackHistory) (l : CameraStep) : Option CallbackHistory :=
  (s.watch.step l).map fun watch =>
    { watch := watch
      callbacks := s.callbacks ++ if l.request = none then [] else watch.lastCallback.toList }

/-- The services have started: nothing has happened yet, at any time. -/
def machine : StepMachine CallbackHistory CameraStep where
  init s := CallbackWatch.machine.init s.watch ∧ s.callbacks = []
  step := step

/-- The command moves the motor as the callback asked, after the delay by either clock. -/
structure Answers (callback command : ClockedMessage) : Prop where
  what : command.what = callback.what
  uptimeMillis : callback.uptimeMillis + CAMERA_EVENT_DELAY_TIME ≤ command.uptimeMillis
  elapsedRealtime : callback.elapsedRealtime + CAMERA_EVENT_DELAY_TIME ≤ command.elapsedRealtime

/-- The message is the one the callback sent. -/
structure WaitsFor (callback : ClockedMessage) (message : Message CameraMessage) : Prop where
  what : message.what = callback.what
  due : message.due = callback.uptimeMillis + CAMERA_EVENT_DELAY_TIME

/-- The commands and the messages behind them go back to callbacks, in the same order; and more
time has passed by `elapsedRealtime` than by `uptimeMillis` since each of these. -/
structure Invariant (s : CallbackHistory) : Prop where
  past : ∀ callback ∈ s.callbacks,
    callback.uptimeMillis ≤ s.watch.process.uptimeMillis ∧
    callback.elapsedRealtime - callback.uptimeMillis ≤
      s.watch.process.elapsedRealtime - s.watch.process.uptimeMillis
  matched : ∃ asked waiting, (asked ++ waiting).Sublist s.callbacks ∧
    List.Forall₂ Answers asked s.watch.commands ∧
    List.Forall₂ WaitsFor waiting s.watch.process.mHandler

variable {s t : CallbackHistory}

theorem invariant_init (h : machine.init s) : s.Invariant := by
  obtain ⟨⟨hhandler, -, -, -, -, -, -, hcommands⟩, hnone⟩ := h
  refine ⟨?_, [], [], List.nil_sublist _, ?_, ?_⟩
  · rw [hnone]
    rintro callback ⟨⟩
  · rw [hcommands]
    exact .nil
  · rw [hhandler]
    exact .nil

/-- No message is due later than the next one will be. -/
theorem Invariant.due_le (hs : s.Invariant) {kept : List (Message CameraMessage)}
    (hkept : kept.Sublist s.watch.process.mHandler) : ∀ message ∈ kept,
      message.due ≤ s.watch.process.uptimeMillis + CAMERA_EVENT_DELAY_TIME := by
  obtain ⟨asked, waiting, hsub, -, hwaits⟩ := hs.matched
  intro message hmessage
  obtain ⟨sent, hsent, hrel⟩ :=
    forall₂_of_sublist hwaits (List.singleton_sublist.mpr (hkept.subset hmessage))
  obtain ⟨callback, others, hfor, hothers, rfl⟩ := List.forall₂_cons_right_iff.mp hrel
  have hmem := hsub.subset (List.mem_append_right _ (hsent.subset List.mem_cons_self))
  have hpast := (hs.past callback hmem).1
  rw [hfor.due]
  omega

theorem keptMessages_sublist (p : CameraProcess) (what : CameraMessage) (took : Nat) :
    (p.keptMessages what took).Sublist p.mHandler := by
  unfold CameraProcess.keptMessages
  split
  · exact List.filter_sublist
  · exact .refl _

/-- A callback sends its own message, behind those of earlier ones that it keeps. -/
theorem invariant_callback (hs : s.Invariant) {what : CameraMessage} {took tookToo : Nat}
    (hprocess : t.watch.process =
      s.watch.process.cameraEvent what FRONT_CAMERA_ID took tookToo)
    (hcommands : t.watch.commands = s.watch.commands)
    (hcallbacks : t.callbacks = s.callbacks ++
      [⟨what, t.watch.process.uptimeMillis, t.watch.process.elapsedRealtime⟩]) : t.Invariant := by
  rw [CameraProcess.cameraEvent_front] at hprocess
  have hkept := keptMessages_sublist s.watch.process what took
  have hup : t.watch.process.uptimeMillis =
      s.watch.process.uptimeMillis + took + tookToo := by rw [hprocess]
  have helapsed : t.watch.process.elapsedRealtime =
      s.watch.process.elapsedRealtime + took + tookToo := by rw [hprocess]
  have hhandler : t.watch.process.mHandler = s.watch.process.keptMessages what took ++
      [⟨what, t.watch.process.uptimeMillis + CAMERA_EVENT_DELAY_TIME⟩] := by
    rw [hup, hprocess]
    -- earlier messages are due earlier, so the new one is the last
    refine enqueue_eq_append fun message hmessage => ?_
    have hdue := hs.due_le hkept message hmessage
    dsimp only
    omega
  refine ⟨?_, ?_⟩
  · rw [hcallbacks]
    intro callback hcallback
    rcases List.mem_append.mp hcallback with hcallback | hcallback
    · have hpast := hs.past callback hcallback
      omega
    · rw [List.mem_singleton.mp hcallback]
      exact ⟨Int.le_refl _, Int.le_refl _⟩
  · obtain ⟨asked, waiting, hsub, hanswers, hwaits⟩ := hs.matched
    -- callbacks whose messages are removed will never be answered
    obtain ⟨waiting', hwaiting, hrel⟩ := forall₂_of_sublist hwaits hkept
    refine ⟨asked, waiting' ++
      [⟨what, t.watch.process.uptimeMillis, t.watch.process.elapsedRealtime⟩], ?_, ?_, ?_⟩
    · rw [hcallbacks, ← List.append_assoc]
      have hpart := ((List.append_sublist_append_left asked).mpr hwaiting).trans hsub
      exact hpart.append (.refl _)
    · rw [hcommands]
      exact hanswers
    · rw [hhandler]
      exact List.rel_append hrel (.cons ⟨rfl, rfl⟩ .nil)

/-- The first message becomes the next command. -/
theorem invariant_dispatch (hs : s.Invariant) {message : Message CameraMessage}
    {rest : List (Message CameraMessage)}
    (hnext : next s.watch.process.uptimeMillis s.watch.process.mHandler = some (message, rest))
    (hprocess : t.watch.process =
      ({ s.watch.process with mHandler := rest } : CameraProcess).moveMotor message.what.direction)
    (hcommands : t.watch.commands = s.watch.commands ++
      [⟨message.what, s.watch.process.uptimeMillis, s.watch.process.elapsedRealtime⟩])
    (hcallbacks : t.callbacks = s.callbacks) : t.Invariant := by
  have hdue := due_of_next hnext
  have hhandler : t.watch.process.mHandler = rest := by rw [hprocess]; rfl
  have hup : t.watch.process.uptimeMillis = s.watch.process.uptimeMillis := by rw [hprocess]; rfl
  have helapsed : t.watch.process.elapsedRealtime = s.watch.process.elapsedRealtime := by
    rw [hprocess]; rfl
  refine ⟨?_, ?_⟩
  · rw [hcallbacks, hup, helapsed]
    exact hs.past
  · obtain ⟨asked, waiting, hsub, hanswers, hwaits⟩ := hs.matched
    rw [next_eq_some hnext] at hwaits
    obtain ⟨callback, waiting', hfor, hrel, rfl⟩ := List.forall₂_cons_right_iff.mp hwaits
    have hpast := hs.past callback
      (hsub.subset (List.mem_append_right _ List.mem_cons_self))
    have hsent := hfor.due
    refine ⟨asked ++ [callback], waiting', ?_, ?_, ?_⟩
    · rw [hcallbacks, List.append_assoc]
      exact hsub
    · rw [hcommands]
      exact List.rel_append hanswers
        (.cons ⟨hfor.what, by dsimp only; omega, by dsimp only; omega⟩ .nil)
    · rw [hhandler]
      exact hrel

theorem invariant_step {l : CameraStep} (hs : s.Invariant) (h : s.step l = some t) :
    t.Invariant := by
  obtain ⟨watch, hwatch, rfl⟩ := Option.map_eq_some_iff.mp h
  obtain ⟨process, hprocess, rfl⟩ := Option.map_eq_some_iff.mp hwatch
  rcases CameraProcess.step_cases hprocess with
    ⟨what, took, tookToo, hrequest, rfl⟩ | ⟨rfl, message, rest, hnext, rfl⟩ |
      ⟨hrequest, hdispatch, hhandler, hup, hlag, -⟩
  · have hnone : s.watch.dispatched l = [] := by
      cases l with
      | dispatchMessage => cases hrequest
      | _ => rfl
    refine invariant_callback hs rfl ?_ ?_
    · show s.watch.commands ++ s.watch.dispatched l = s.watch.commands
      rw [hnone, List.append_nil]
    · dsimp only
      rw [hrequest]
      rfl
  · refine invariant_dispatch hs hnext rfl ?_ (List.append_nil _)
    dsimp only [CallbackWatch.dispatched]
    rw [hnext]
  · have hnone : s.watch.dispatched l = [] := by
      cases l with
      | dispatchMessage => exact absurd rfl hdispatch
      | _ => rfl
    refine ⟨?_, ?_⟩
    · dsimp only
      rw [if_pos hrequest, List.append_nil]
      intro callback hcallback
      have hpast := hs.past callback hcallback
      omega
    · dsimp only
      rw [if_pos hrequest, List.append_nil, hhandler, hnone, List.append_nil]
      exact hs.matched

end CallbackHistory
end CameraHelper
