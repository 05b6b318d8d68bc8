import Sm8150Common.DirectChannels
import Sm8150Common.WakeupCharges

/-! # Wake-up events of dynamic sensors

The proxy keeps its sensors in two maps: `mSensors`, which the constructor fills, and
`mDynamicSensors`, which changes as sensors come and go.  Both counters of wake-up
events, `processEvents` (`HalProxyCallback.cpp`, lines 65–82) and
`countNumWakeupEvents` (`HalProxy.cpp`, lines 760–769), look into `mSensors` only.

`connectedAfter` is what a history of calls leaves connected, and
`getElem?_mDynamicSensors` says that the map holds just that.
`dynamic_wakeups_counted_iff` finds the batches that are counted right, after any
history; `dynamic_wakeup_is_not_counted` is one that is not. -/
namespace SensorsHal

/-! ## What is connected -/

/-- What a message of sub-HAL `i` says of a handle: that a sensor is connected under
it (the last one in the list), that none is any more, or nothing. -/
def SubHalMessage.reports (i : Nat) (k : SensorHandle) : SubHalMessage → Option (Option SensorInfo)
  | .sensorsConnected added =>
    (added.reverse.find? fun sensor =>
      subHalIndexIsClear sensor.sensorHandle ∧ setSubHalIndex sensor.sensorHandle i = k).map
        fun sensor => some (sensor.withSubHalIndex i)
  | .sensorsDisconnected removed =>
    if removed.any fun h => subHalIndexIsClear h ∧ setSubHalIndex h i = k then some none else none
  | .reportSensors _ | .postEvents _ => none

/-- The dynamic sensor that is connected under a handle after a history of calls, each
with the index of the sub-HAL that makes it. -/
def connectedAfter (history : List (Nat × SubHalMessage)) (k : SensorHandle) : Option SensorInfo :=
  history.foldl (fun connected call => (call.2.reports call.1 k).getD connected) none

/-- The maps after a history of calls. -/
def SensorMaps.run (s : SensorMaps) (history : List (Nat × SubHalMessage)) : SensorMaps :=
  history.foldl (fun s call => s.receive call.1 call.2) s

theorem getElem?_foldl_connectSensor (i : Nat) (added : List SensorInfo)
    (st : SensorMap × List SensorInfo) (k : SensorHandle) :
    (added.foldl (connectSensor i) st).1[k]? =
      ((SubHalMessage.sensorsConnected added).reports i k).getD st.1[k]? := by
  induction added generalizing st with
  | nil => rfl
  | cons sensor added ih =>
    rw [List.foldl_cons, ih, SubHalMessage.reports, SubHalMessage.reports, List.reverse_cons,
      List.find?_append, Option.map_or, Option.getD_or]
    refine congrArg _ ?_
    unfold connectSensor
    by_cases hc : subHalIndexIsClear sensor.sensorHandle = true
    · rw [if_pos hc]
      simp only [Std.TreeMap.getElem?_insert, Std.LawfulEqCmp.compare_eq_iff_eq]
      by_cases hk : setSubHalIndex sensor.sensorHandle i = k <;>
        simp [hc, hk, SensorInfo.withSubHalIndex]
    · simp [hc]

theorem getElem?_disconnectSensor (i : Nat) (st : SensorMap × List SensorHandle)
    (h k : SensorHandle) :
    (disconnectSensor i st h).1[k]? =
      if subHalIndexIsClear h ∧ setSubHalIndex h i = k then none else st.1[k]? := by
  unfold disconnectSensor
  by_cases hc : subHalIndexIsClear h = true
  · rw [if_pos hc]
    dsimp only
    by_cases hk : setSubHalIndex h i = k
    · by_cases hmem : setSubHalIndex h i ∈ st.1
      · rw [if_pos hmem]
        simp [hc, hk]
      · rw [if_neg hmem]
        simp only [hc, hk, and_self, if_true]
        exact Std.TreeMap.getElem?_eq_none (hk ▸ hmem)
    · rw [if_neg (c := _ ∧ _) fun hboth => hk hboth.2]
      by_cases hmem : setSubHalIndex h i ∈ st.1
      · rw [if_pos hmem]
        simp [Std.TreeMap.getElem?_erase, Std.LawfulEqCmp.compare_eq_iff_eq, hk]
      · rw [if_neg hmem]
  · rw [if_neg hc, if_neg fun hboth => hc hboth.1]

theorem getElem?_foldl_disconnectSensor (i : Nat) (removed : List SensorHandle)
    (st : SensorMap × List SensorHandle) (k : SensorHandle) :
    (removed.foldl (disconnectSensor i) st).1[k]? =
      ((SubHalMessage.sensorsDisconnected removed).reports i k).getD st.1[k]? := by
  induction removed generalizing st with
  | nil => simp [SubHalMessage.reports]
  | cons h removed ih =>
    rw [List.foldl_cons, ih, getElem?_disconnectSensor, SubHalMessage.reports,
      SubHalMessage.reports, List.any_cons]
    by_cases hboth : subHalIndexIsClear h = true ∧ setSubHalIndex h i = k
    · rw [if_pos hboth, decide_eq_true hboth, Bool.true_or]
      split <;> rfl
    · rw [if_neg hboth, decide_eq_false hboth, Bool.false_or]

/-- One message changes the dynamic sensors as it says, and no other map entry. -/
theorem getElem?_receive (s : SensorMaps) (i : Nat) (m : SubHalMessage) (k : SensorHandle) :
    (s.receive i m).mDynamicSensors[k]? = (m.reports i k).getD s.mDynamicSensors[k]? := by
  cases m with
  | reportSensors sensors => rfl
  | sensorsConnected added => exact getElem?_foldl_connectSensor i added _ k
  | sensorsDisconnected removed => exact getElem?_foldl_disconnectSensor i removed _ k
  | postEvents events => rfl

/-- **The map of dynamic sensors** holds what the history has left connected. -/
theorem getElem?_mDynamicSensors (table : SensorTable) (history : List (Nat × SubHalMessage))
    (k : SensorHandle) :
    (SensorMaps.run ⟨table, ∅⟩ history).mDynamicSensors[k]? = connectedAfter history k := by
  have general : ∀ (s : SensorMaps), (s.run history).mDynamicSensors[k]? =
      history.foldl (fun connected call => (call.2.reports call.1 k).getD connected)
        s.mDynamicSensors[k]? := by
    induction history with
    | nil => exact fun _ => rfl
    | cons call history ih =>
      intro s
      rw [List.foldl_cons, ← getElem?_receive]
      exact ih (s.receive call.1 call.2)
  have hnone : (∅ : SensorMap)[k]? = none := by simp
  rw [general, connectedAfter, hnone]

/-! ## The two counters -/

/-- A dynamic sensor with the `WAKE_UP` flag is connected under the event's handle. -/
def isDynamicWakeup (mDynamicSensors : SensorMap) (event : Event) : Bool :=
  mDynamicSensors[event.sensorHandle]?.any SensorInfo.isWakeup

/-- The number of events whose sensor, static or connected, has the flag. -/
def SensorMaps.wakeups (s : SensorMaps) (events : List Event) : Nat :=
  events.countP fun event =>
    isWakeupEvent s.table.mSensors event || isDynamicWakeup s.mDynamicSensors event

theorem countP_or {α : Type} (p q : α → Bool) (l : List α) :
    l.countP (fun a => p a || q a) = l.countP p + l.countP fun a => q a && !p a := by
  induction l with
  | nil => rfl
  | cons a l ih =>
    rw [List.countP_cons, List.countP_cons, List.countP_cons, ih]
    cases p a <;> cases q a <;> simp <;> omega

/-- Counting by a weaker condition counts the same if and only if what meets it meets
the stronger one. -/
theorem countP_eq_countP_or_iff {α : Type} (p q : α → Bool) (l : List α) :
    l.countP p = l.countP (fun a => p a || q a) ↔ ∀ a ∈ l, q a = true → p a = true := by
  rw [countP_or, Nat.left_eq_add, List.countP_eq_zero]
  refine forall₂_congr fun a _ => ?_
  cases p a <;> cases q a <;> simp

/-- **When wake-up events of dynamic sensors are counted.**  After any history of
calls, `processEvents` counts the wake-up events of a batch, and
`countNumWakeupEvents` those among the first `n` of any events that are queued, if and
only if every event whose handle has a dynamic wake-up sensor connected finds a
wake-up sensor in `mSensors` too. -/
theorem dynamic_wakeups_counted_iff (mSubHalList : List SubHal)
    (history : List (Nat × SubHalMessage)) :
    let s := SensorMaps.run ⟨initializeSensorList mSubHalList, ∅⟩ history
    (∀ k, s.mDynamicSensors[k]? = connectedAfter history k) ∧
    (∀ i events, (processEvents s.table.mSensors i events).2 =
        s.wakeups (processEvents s.table.mSensors i events).1 ↔
      ∀ event ∈ (processEvents s.table.mSensors i events).1,
        isDynamicWakeup s.mDynamicSensors event = true →
          isWakeupEvent s.table.mSensors event = true) ∧
    ∀ (queued : List Event) (n : Nat), (countNumWakeupEvents s.table.mSensors queued n).1 =
        s.wakeups (queued.take n) ↔
      ∀ event ∈ queued.take n, isDynamicWakeup s.mDynamicSensors event = true →
        isWakeupEvent s.table.mSensors event = true := by
  intro s
  refine ⟨getElem?_mDynamicSensors _ history, fun i events => ?_, fun queued n => ?_⟩
  · rw [processEvents_snd]
    exact countP_eq_countP_or_iff _ _ _
  · rw [(countNumWakeupEvents_spec _ _ _).1]
    exact countP_eq_countP_or_iff _ _ _

/-- Sub-HAL 0 has an accelerometer, and a wake-up sensor is connected to it. -/
def wakeupSensorConnected : List (Nat × SubHalMessage) :=
  [(0, .sensorsConnected [⟨7#32, 1, SensorFlagBits.WAKE_UP⟩])]

/-- An event of that sensor is not counted, whether it is posted or queued. -/
theorem dynamic_wakeup_is_not_counted :
    ¬ ∀ (mSubHalList : List SubHal) (history : List (Nat × SubHalMessage)) (i : Nat)
      (events : List Event),
      let s := SensorMaps.run ⟨initializeSensorList mSubHalList, ∅⟩ history
      (processEvents s.table.mSensors i events).2 =
          s.wakeups (processEvents s.table.mSensors i events).1 ∧
        (countNumWakeupEvents s.table.mSensors events events.length).1 = s.wakeups events := by
  intro h
  have hcount := h [⟨[⟨1#32, 1, 0#32⟩]⟩] wakeupSensorConnected 0 [⟨7#32, 1, ⟨0, 0, 0#32⟩⟩]
  exact absurd hcount.1 (by decide +kernel)

/-- Once it is disconnected, nothing is left to count. -/
example : connectedAfter (wakeupSensorConnected ++ [(0, .sensorsDisconnected [7#32])]) 7#32 =
    none := by
  decide +kernel

end SensorsHal
