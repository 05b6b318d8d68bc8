import Mathlib.Data.Finset.Union
import Sm8150Common.HandleSpace
import Sm8150Common.Library.DelayedDelivery
import Sm8150Common.Library.StepMachine

/-! # Dynamic sensors, in the map and at the framework

`onDynamicSensorsConnected` and `onDynamicSensorsDisconnected` change
`mDynamicSensors` under `mDynamicSensorsMutex` and tell the framework after they
have released it (`HalProxy.cpp`, lines 398–438).  Several threads may be between
the two, so the framework can be told in another order.

`framework_agrees` says that map and framework agree once all calls have
returned, on every run in which no callback overtakes one of the opposite kind
about the same sensor; `disconnect_overtakes_connect` is a run in which one does. -/
namespace SensorsHal

/-! ## One call -/

/-- The keys of a sensor map. -/
def keySet (m : SensorMap) : Finset SensorHandle := m.keys.toFinset

@[simp] theorem mem_keySet {m : SensorMap} {k : SensorHandle} : k ∈ keySet m ↔ k ∈ m := by
  rw [keySet, List.mem_toFinset, Std.TreeMap.mem_keys]

/-- What a call that has updated the map is about to tell the framework. -/
inductive Notice
  | connected (sensors : List SensorInfo)
  | disconnected (sensorHandles : List SensorHandle)
  deriving DecidableEq, Repr

namespace Notice

/-- The handles it is about. -/
def handles : Notice → List SensorHandle
  | .connected sensors => sensors.map SensorInfo.sensorHandle
  | .disconnected sensorHandles => sensorHandles

/-- The handles the framework takes to be connected, after the callback. -/
def tell (known : Finset SensorHandle) : Notice → Finset SensorHandle
  | .connected sensors => known ∪ (sensors.map SensorInfo.sensorHandle).toFinset
  | .disconnected sensorHandles => known \ sensorHandles.toFinset

/-- Of one kind, or about different sensors. -/
def Independent : Notice → Notice → Prop
  | .connected _, .connected _ | .disconnected _, .disconnected _ => True
  | a, b => ∀ h ∈ a.handles, h ∉ b.handles

instance : DecidableRel Independent
  | .connected _, .connected _ | .disconnected _, .disconnected _ => isTrue trivial
  | .connected _, .disconnected _ | .disconnected _, .connected _ =>
    -- not by the instance for all bit vectors
    List.decidableBAll _ _

/-- It makes a sensor known. -/
def Introduces : Notice → Prop
  | .connected sensors => sensors ≠ []
  | .disconnected _ => False

instance : DecidablePred Introduces
  | .connected sensors => inferInstanceAs (Decidable (sensors ≠ []))
  | .disconnected _ => isFalse id

theorem mem_tell_connected {known : Finset SensorHandle} {sensors : List SensorInfo}
    {h : SensorHandle} : h ∈ tell known (.connected sensors) ↔
      h ∈ known ∨ h ∈ (connected sensors).handles := by
  rw [tell, Finset.mem_union, List.mem_toFinset]
  rfl

theorem mem_tell_disconnected {known : Finset SensorHandle} {sensorHandles : List SensorHandle}
    {h : SensorHandle} : h ∈ tell known (.disconnected sensorHandles) ↔
      h ∈ known ∧ h ∉ (disconnected sensorHandles).handles := by
  rw [tell, Finset.mem_sdiff, List.mem_toFinset]
  rfl

/-- A connection and a disconnection of different sensors. -/
theorem tell_swap {sensors : List SensorInfo} {sensorHandles : List SensorHandle}
    (h : ∀ k ∈ (connected sensors).handles, k ∉ (disconnected sensorHandles).handles)
    (known : Finset SensorHandle) :
    tell (tell known (.connected sensors)) (.disconnected sensorHandles) =
      tell (tell known (.disconnected sensorHandles)) (.connected sensors) := by
  ext k
  rw [mem_tell_disconnected, mem_tell_connected, mem_tell_connected, mem_tell_disconnected]
  constructor
  · rintro ⟨hknown | hnew, hnot⟩
    · exact Or.inl ⟨hknown, hnot⟩
    · exact Or.inr hnew
  · rintro (⟨hknown, hnot⟩ | hnew)
    · exact ⟨Or.inl hknown, hnot⟩
    · exact ⟨Or.inr hnew, h k hnew⟩

theorem Independent.commutes {a b : Notice} (h : a.Independent b) :
    DelayedDelivery.Commutes tell a b := by
  intro known
  cases a with
  | connected sensors =>
    cases b with
    | connected others =>
      rw [tell, tell, tell, tell, Finset.union_right_comm]
    | disconnected sensorHandles => exact tell_swap h known
  | disconnected sensorHandles =>
    cases b with
    | connected sensors =>
      exact (tell_swap (fun k hk hk' => h k hk' hk) known).symm
    | disconnected others =>
      rw [tell, tell, tell, tell, sdiff_right_comm]

/-- A notice that introduces nothing leaves nothing known as it is. -/
theorem tell_empty {a : Notice} (h : ¬ a.Introduces) : tell ∅ a = ∅ := by
  cases a with
  | connected sensors =>
    have hnil : sensors = [] := Classical.not_not.mp h
    rw [hnil]
    rfl
  | disconnected sensorHandles => exact Finset.empty_sdiff _

end Notice

/-- The entries made are those of the accepted sensors, from any point of the loop
on. -/
theorem mem_foldl_connectSensor {i : Nat} {added : List SensorInfo}
    {st : SensorMap × List SensorInfo} {k : SensorHandle} :
    k ∈ (added.foldl (connectSensor i) st).1 ↔ k ∈ st.1 ∨
      ∃ sensor ∈ added, subHalIndexIsClear sensor.sensorHandle = true ∧
        setSubHalIndex sensor.sensorHandle i = k := by
  induction added generalizing st with
  | nil => simp
  | cons sensor added ih =>
    have hcmp : compareHandle (setSubHalIndex sensor.sensorHandle i) k = .eq ↔
        setSubHalIndex sensor.sensorHandle i = k := Std.LawfulEqCmp.compare_eq_iff_eq
    rw [List.foldl_cons, ih, connectSensor, List.exists_mem_cons_iff]
    by_cases hc : subHalIndexIsClear sensor.sensorHandle = true
    · rw [if_pos hc, Std.TreeMap.mem_insert, hcmp, or_comm (b := k ∈ st.1), or_assoc]
      simp only [hc, true_and]
    · rw [if_neg hc]
      simp only [hc, Bool.false_eq_true, false_and, false_or]

/-- The argument of the callback is the list of the accepted sensors. -/
theorem foldl_connectSensor_snd (i : Nat) (added : List SensorInfo)
    (st : SensorMap × List SensorInfo) :
    (added.foldl (connectSensor i) st).2 =
      st.2 ++ (added.filter fun sensor => subHalIndexIsClear sensor.sensorHandle).map fun sensor =>
        { sensor with sensorHandle := setSubHalIndex sensor.sensorHandle i } := by
  induction added generalizing st with
  | nil => simp
  | cons sensor added ih =>
    rw [List.foldl_cons, ih, connectSensor]
    by_cases hc : subHalIndexIsClear sensor.sensorHandle = true
    · simp [hc]
    · simp [hc]

/-- The sensors with a clear index byte are entered under the sub-HAL's index. -/
theorem mem_onDynamicSensorsConnected {m : SensorMap} {added : List SensorInfo} {i : Nat}
    {k : SensorHandle} : k ∈ (onDynamicSensorsConnected m added i).1 ↔ k ∈ m ∨
      ∃ sensor ∈ added, subHalIndexIsClear sensor.sensorHandle = true ∧
        setSubHalIndex sensor.sensorHandle i = k :=
  mem_foldl_connectSensor

/-- The callback of a connection has the accepted sensors, with their flags. -/
theorem mem_onDynamicSensorsConnected_snd {m : SensorMap} {added : List SensorInfo} {i : Nat}
    {info : SensorInfo} : info ∈ (onDynamicSensorsConnected m added i).2 ↔
      ∃ sensor ∈ added, subHalIndexIsClear sensor.sensorHandle = true ∧
        info = { sensor with sensorHandle := setSubHalIndex sensor.sensorHandle i } := by
  rw [onDynamicSensorsConnected, foldl_connectSensor_snd, List.nil_append]
  simp only [List.mem_map, List.mem_filter, and_assoc, eq_comm (a := info)]

/-- The framework is told what was entered. -/
theorem keySet_onDynamicSensorsConnected (m : SensorMap) (added : List SensorInfo) (i : Nat) :
    keySet (onDynamicSensorsConnected m added i).1 =
      Notice.tell (keySet m) (.connected (onDynamicSensorsConnected m added i).2) := by
  ext k
  rw [Notice.mem_tell_connected, mem_keySet, mem_keySet, mem_onDynamicSensorsConnected,
    Notice.handles, List.mem_map]
  refine or_congr_right ⟨?_, ?_⟩
  · rintro ⟨sensor, hsensor, hc, rfl⟩
    exact ⟨_, mem_onDynamicSensorsConnected_snd.mpr ⟨sensor, hsensor, hc, rfl⟩, rfl⟩
  · rintro ⟨info, hinfo, rfl⟩
    obtain ⟨sensor, hsensor, hc, rfl⟩ := mem_onDynamicSensorsConnected_snd.mp hinfo
    exact ⟨sensor, hsensor, hc, rfl⟩

/-- The framework is told what was removed. -/
theorem keySet_onDynamicSensorsDisconnected (m : SensorMap) (removed : List SensorHandle)
    (i : Nat) : keySet (onDynamicSensorsDisconnected m removed i).1 =
      Notice.tell (keySet m) (.disconnected (onDynamicSensorsDisconnected m removed i).2) := by
  -- every handle removed so far is gone from the map, and no other
  refine List.foldlRecOn (motive := fun st : SensorMap × List SensorHandle =>
    keySet st.1 = Notice.tell (keySet m) (.disconnected st.2)) removed _ ?_ ?_
  · exact Finset.sdiff_empty.symm
  · intro st hst h _
    unfold disconnectSensor
    split
    · dsimp only
      split
      · ext k
        have hk : k ∈ st.1 ↔ k ∈ keySet m ∧ k ∉ (Notice.disconnected st.2).handles := by
          rw [← mem_keySet, hst, Notice.mem_tell_disconnected]
        rw [mem_keySet, Std.TreeMap.mem_erase, hk, Notice.mem_tell_disconnected]
        simp only [Notice.handles, List.mem_append, List.mem_singleton]
        have hcmp : compareHandle (setSubHalIndex h i) k = .eq ↔ setSubHalIndex h i = k :=
          Std.LawfulEqCmp.compare_eq_iff_eq
        rw [Ne, hcmp]
        grind
      · exact hst
    · exact hst

/-! ## Calls that overlap -/

/-- The map, the callbacks that have still to be made, in the order of the map
updates, and what the framework knows.  While `initialize` stands between the
clearing of the map and the new callback, `renewing`, the framework is the old
one. -/
structure DynamicSensors where
  mDynamicSensors : SensorMap
  pending : List Notice
  framework : Finset SensorHandle
  renewing : Bool

/-- A call updates the map, and makes its callback later; `callback k` is the `k`-th of those that
have still to be made. -/
inductive DynamicStep
  | connect (dynamicSensorsAdded : List SensorInfo) (subHalIndex : Nat)
  | disconnect (dynamicSensorHandlesRemoved : List SensorHandle) (subHalIndex : Nat)
  | callback (k : Nat)
  | clearDynamicSensors
  | setDynamicCallback

namespace DynamicSensors

/-- Each call takes two steps, the update of the map and the callback, and
`initialize` the two that matter here (`HalProxy.cpp`, lines 233–235). -/
def step (s : DynamicSensors) : DynamicStep → Option DynamicSensors
  | .connect added i =>
    let (mDynamicSensors, sensors) := onDynamicSensorsConnected s.mDynamicSensors added i
    some { s with
      mDynamicSensors := mDynamicSensors
      pending := s.pending ++ [.connected sensors] }
  | .disconnect removed i =>
    let (mDynamicSensors, sensorHandles) :=
      onDynamicSensorsDisconnected s.mDynamicSensors removed i
    some { s with
      mDynamicSensors := mDynamicSensors
      pending := s.pending ++ [.disconnected sensorHandles] }
  | .callback k =>
    match s.pending[k]? with
    | some notice =>
      some { s with
        pending := s.pending.eraseIdx k
        framework := notice.tell s.framework }
    | none => none
  | .clearDynamicSensors =>
    if s.renewing then none else some { s with mDynamicSensors := ∅, renewing := true }
  | .setDynamicCallback =>
    if s.renewing then some { s with framework := ∅, renewing := false } else none

/-- After an `initialize`, with no call under way. -/
def machine : StepMachine DynamicSensors DynamicStep where
  init s := s.mDynamicSensors = ∅ ∧ s.pending = [] ∧ s.framework = ∅ ∧ s.renewing = false
  step := step

/-- A callback overtakes none of the opposite kind about the same sensor, and no
callback that introduces a sensor goes to a framework that `initialize` is
replacing, or crosses the clearing of the map. -/
def InOrder (s : DynamicSensors) : DynamicStep → Prop
  | .callback k => ∀ notice ∈ s.pending[k]?,
      (∀ earlier ∈ s.pending.take k, earlier.Independent notice) ∧
        (s.renewing = true → ¬ notice.Introduces)
  | .clearDynamicSensors => ∀ notice ∈ s.pending, ¬ notice.Introduces
  | _ => True

instance (s : DynamicSensors) : DecidablePred (InOrder s)
  | .callback k => inferInstanceAs (Decidable (∀ notice ∈ s.pending[k]?, _ ∧ (_ → ¬ _)))
  | .clearDynamicSensors => inferInstanceAs (Decidable (∀ notice ∈ s.pending, ¬ _))
  | .connect .. | .disconnect .. | .setDynamicCallback => isTrue trivial

/-- What the framework knows that will have the next callbacks. -/
def known (s : DynamicSensors) : Finset SensorHandle := if s.renewing then ∅ else s.framework

/-- The pending callbacks bring the framework up to date. -/
def Agreeing (s : DynamicSensors) : Prop :=
  DelayedDelivery.Owes Notice.tell s.known (keySet s.mDynamicSensors) s.pending

theorem agreeing_init {s : DynamicSensors} (h : machine.init s) : s.Agreeing := by
  obtain ⟨hmap, hpending, hframework, hrenewing⟩ := h
  rw [Agreeing, known, hmap, hpending, hframework, hrenewing]
  exact DelayedDelivery.owes_self ∅

theorem agreeing_callback {s t : DynamicSensors} {k : Nat} (hs : s.Agreeing)
    (hok : s.InOrder (.callback k)) (h : s.step (.callback k) = some t) : t.Agreeing := by
  dsimp only [step] at h
  split at h
  · rename_i notice hk
    cases h
    obtain ⟨hind, hintro⟩ := hok notice hk
    have hcomm : ∀ earlier ∈ s.pending.take k,
        DelayedDelivery.Commutes Notice.tell earlier notice :=
      fun earlier he => (hind earlier he).commutes
    unfold Agreeing known at hs ⊢
    dsimp only
    cases hrenewing : s.renewing with
    | false =>
      rw [hrenewing] at hs
      exact hs.deliver hk hcomm
    | true =>
      -- the old framework is told, for the new one the notice is lost
      rw [hrenewing] at hs
      exact hs.lose hk hcomm (Notice.tell_empty (hintro hrenewing))
  · cases h

theorem agreeing_step {s t : DynamicSensors} {l : DynamicStep} (hs : s.Agreeing)
    (hok : s.InOrder l) (h : s.step l = some t) : t.Agreeing := by
  cases l with
  | connect added i =>
    dsimp only [step] at h
    cases h
    unfold Agreeing known
    dsimp only
    rw [keySet_onDynamicSensorsConnected]
    exact hs.issue _
  | disconnect removed i =>
    dsimp only [step] at h
    cases h
    unfold Agreeing known
    dsimp only
    rw [keySet_onDynamicSensorsDisconnected]
    exact hs.issue _
  | callback k => exact agreeing_callback hs hok h
  | clearDynamicSensors =>
    dsimp only [step] at h
    split at h
    · cases h
    · cases h
      exact DelayedDelivery.owes_restart fun notice hn => Notice.tell_empty (hok notice hn)
  | setDynamicCallback =>
    obtain ⟨hrenewing, rfl⟩ := Option.ite_none_right_eq_some.mp h |>.imp_right Option.some.inj
    unfold Agreeing known at hs ⊢
    rw [if_pos hrenewing] at hs
    exact hs

/-- No dynamic sensor is connected. -/
def start : DynamicSensors := ⟨∅, [], ∅, false⟩

theorem start_init : machine.init start := ⟨rfl, rfl, rfl, rfl⟩

/-- **Framework and proxy agree.**  On every run whose callbacks are in order,
once all calls have returned and no `initialize` is under way, the framework
knows the sensors of the map. -/
theorem framework_agrees {s : DynamicSensors} (h : machine.ReachableBy InOrder s)
    (hreturned : s.pending = []) (hrenewed : s.renewing = false) :
    s.framework = keySet s.mDynamicSensors := by
  have hs : s.Agreeing :=
    h.invariant (fun _ => agreeing_init) fun _ _ _ hs hok ht => agreeing_step hs hok ht
  rw [Agreeing, known, hreturned, hrenewed] at hs
  exact hs.eq

/-- Two threads: one connects two sensors, the other one removes one of them. -/
theorem framework_agrees_two : ∃ s : DynamicSensors, machine.ReachableBy InOrder s ∧
    5#32 ∈ s.mDynamicSensors ∧ s.framework = keySet s.mDynamicSensors := by
  have hrun : (machine.exec start
      [.connect [⟨5#32, 1, 0#32⟩, ⟨6#32, 1, 0#32⟩] 0, .disconnect [6#32] 0, .disconnect [7#32] 1,
        .callback 2, .callback 0, .callback 0]).map
      (fun s => (s.pending, s.renewing, decide (5#32 ∈ s.mDynamicSensors))) =
      some ([], false, true) := by
    decide +kernel
  obtain ⟨s, hexec, hs⟩ := Option.map_eq_some_iff.mp hrun
  simp only [Prod.mk.injEq, decide_eq_true_eq] at hs
  obtain ⟨hreturned, hrenewed, hmem⟩ := hs
  have hreach : machine.ReachableBy InOrder s :=
    StepMachine.ReachableBy.exec (.init start_init) hexec (by decide +kernel)
  exact ⟨s, hreach, hmem, framework_agrees hreach hreturned hrenewed⟩

/-- One thread connects a sensor and another one removes it, but the framework is
told of the removal first: it goes on using a sensor that is not there. -/
theorem disconnect_overtakes_connect :
    ¬ ∀ s : DynamicSensors, machine.Reachable s → s.pending = [] → s.renewing = false →
      s.framework = keySet s.mDynamicSensors := by
  intro h
  have hrun : (machine.exec start
      [.connect [⟨5#32, 1, 0#32⟩] 0, .disconnect [5#32] 0, .callback 1, .callback 0]).map
      (fun s => (s.pending, s.renewing, decide (s.framework = keySet s.mDynamicSensors))) =
      some ([], false, false) := by
    decide +kernel
  obtain ⟨s, hexec, hs⟩ := Option.map_eq_some_iff.mp hrun
  simp only [Prod.mk.injEq, decide_eq_false_iff_not] at hs
  obtain ⟨hreturned, hrenewed, hne⟩ := hs
  exact hne (h s (StepMachine.Reachable.exec (.init start_init) hexec) hreturned hrenewed)

end DynamicSensors
end SensorsHal
