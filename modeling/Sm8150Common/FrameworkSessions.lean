import Sm8150Common.DynamicSensors
import Sm8150Common.OperationModes
import Sm8150Common.Library.StepMachine

/-! # What the framework asks for, session after session

The framework changes the operation mode, switches sensors on and off, injects events and
initializes the proxy anew; meanwhile sub-HALs connect and disconnect dynamic sensors
(`HalProxy.cpp`, lines 140–169, 215–275, 298–317, 398–438 and 563–573).  The framework's
requests come one at a time.

Two things hold whatever happens before: an event is injected only into a sub-HAL in the
data injection mode, unless it is additional information (`injects_in_mode`), even if
sub-HALs leave an `initialize` in any mode; and `initialize` finds every sensor that is
switched on in one of the two maps, and leaves none on (`active_known`). -/
namespace SensorsHal

/-- The proxy, the states of the sub-HALs, and the sensors that are switched on, each by
its sub-HAL and this sub-HAL's own handle. -/
structure FrameworkSession (σ : Type) where
  proxy : HalProxy
  subHals : List σ
  active : List (Nat × SensorHandle)

namespace FrameworkSession
variable {σ : Type}

/-- `reply` is what sub-HALs return, `subHals` how their `initialize` leaves them. -/
inductive Step (σ : Type)
  | setOperationMode (mode : OperationMode)
  | activate (sensorHandle : SensorHandle) (enabled : Bool) (reply : Nat → SubHalCall → Result)
  | onDynamicSensorsConnected (dynamicSensorsAdded : List SensorInfo) (subHalIndex : Nat)
  | onDynamicSensorsDisconnected (dynamicSensorHandlesRemoved : List SensorHandle)
      (subHalIndex : Nat)
  | initializeCommon (reply : Nat → SubHalCall → Result) (subHals : List σ)

/-- A sub-HAL that answers OK has done what it was asked. -/
def obey (reply : Nat → SubHalCall → Result) (active : List (Nat × SensorHandle))
    (call : Nat × SubHalCall) : List (Nat × SensorHandle) :=
  match call with
  | (i, .activate h enabled) =>
    if reply i (.activate h enabled) = .OK then
      if enabled then (i, h) :: active else active.filter fun a => a ≠ (i, h)
    else active
  | _ => active

section Model
variable (ask : σ → OperationMode → Result × σ) (s : FrameworkSession σ)

def modes : OperationModes σ := ⟨s.subHals, s.proxy.mCurrentOperationMode⟩

/-- Sub-HALs may be anything after their `initialize`, and the proxy takes them to be in the
normal mode (line 272).  A sensor that is disconnected is no longer on. -/
def step : Step σ → Option (FrameworkSession σ)
  | .setOperationMode mode =>
    let change := OperationModes.setOperationMode ask s.modes mode
    some { s with
      proxy := { s.proxy with mCurrentOperationMode := change.modes.mCurrentOperationMode }
      subHals := change.modes.mSubHalList }
  | .activate sensorHandle enabled reply =>
    (s.proxy.activate reply sensorHandle enabled).map fun answer =>
      { s with active := answer.calls.foldl (obey reply) s.active }
  | .onDynamicSensorsConnected added i =>
    if i < s.subHals.length then
      some { s with proxy := { s.proxy with
        mDynamicSensors :=
          (SensorsHal.onDynamicSensorsConnected s.proxy.mDynamicSensors added i).1 } }
    else none
  | .onDynamicSensorsDisconnected removed i =>
    if i < s.subHals.length then
      some { s with
        proxy := { s.proxy with
          mDynamicSensors :=
            (SensorsHal.onDynamicSensorsDisconnected s.proxy.mDynamicSensors removed i).1 }
        active := s.active.filter fun a => removed.all fun h => a ≠ (i, h) }
    else none
  | .initializeCommon reply subHals =>
    if subHals.length = s.subHals.length then
      (s.proxy.disableAllSensors reply).map fun log =>
        { proxy := { s.proxy with mDynamicSensors := ∅, mCurrentOperationMode := .NORMAL }
          subHals := subHals
          active := (log.flatMap fun entry => entry.2.calls).foldl (obey reply) s.active }
    else none

/-- The proxy has been constructed, for sub-HALs in any state. -/
def machine (mSubHalList : List SubHal) : StepMachine (FrameworkSession σ) (Step σ) where
  init s := s.proxy = HalProxy.construct mSubHalList ∧ s.subHals.length = mSubHalList.length ∧
    s.active = []
  step s l := step ask s l

/-- Sub-HALs switch on only sensors they have announced, and never refuse to switch off one
that is on. -/
def Obedient (s : FrameworkSession σ) : Step σ → Prop
  | .activate _ _ reply => ∀ i h, reply i (.activate h true) = .OK →
      setSubHalIndex h i ∈ s.proxy.mSensors ∨ setSubHalIndex h i ∈ s.proxy.mDynamicSensors
  | .initializeCommon reply _ => ∀ a ∈ s.active, reply a.1 (.activate a.2 false) = .OK
  | _ => True

end Model

/-! ## Injection -/

section Injection
variable {ask : σ → OperationMode → Result × σ} {modeOf : σ → OperationMode}

/-- What the injection relies on: a proxy that injects has sub-HALs that expect it. -/
structure ModeSafe (modeOf : σ → OperationMode) (s : FrameworkSession σ) : Prop where
  length : s.subHals.length = s.proxy.mSubHalList.length
  injecting : s.proxy.mCurrentOperationMode = .DATA_INJECTION →
    ∀ subHal ∈ s.subHals, modeOf subHal = .DATA_INJECTION

/-- A call of `setOperationMode` that succeeds has switched every sub-HAL, whatever modes
they were in. -/
theorem uniform_of_ok (hask : OperationModes.ModeContract ask modeOf) {s : OperationModes σ}
    {mode : OperationMode} (hok : (OperationModes.setOperationMode ask s mode).result = .OK) :
    OperationModes.Uniform modeOf (OperationModes.setOperationMode ask s mode).modes := by
  rcases OperationModes.requestMode_cases ask mode 0 s.mSubHalList with
    ⟨hall, asked, hrequest⟩ | ⟨before, refusing, after, -, -, hrefuse, asked, -, hrequest⟩
  · have hset : (OperationModes.setOperationMode ask s mode).modes =
        ⟨OperationModes.askAll ask mode s.mSubHalList, mode⟩ := by
      rw [OperationModes.setOperationMode, hrequest]
      rfl
    rw [hset]
    intro subHal hmem
    obtain ⟨old, hold, rfl⟩ := List.mem_map.mp hmem
    exact hask.accepts old mode (hall old hold)
  · rw [OperationModes.setOperationMode, hrequest] at hok
    dsimp only at hok
    rw [if_pos hrefuse] at hok
    exact absurd hok hrefuse

/-- The mode on record is the requested one or the old one, the old one after a failure, and
no sub-HAL gets lost. -/
theorem setOperationMode_cases (ask : σ → OperationMode → Result × σ) (s : OperationModes σ)
    (mode : OperationMode) :
    ((OperationModes.setOperationMode ask s mode).result = .OK ∨
      (OperationModes.setOperationMode ask s mode).modes.mCurrentOperationMode =
        s.mCurrentOperationMode) ∧
    (OperationModes.setOperationMode ask s mode).modes.mSubHalList.length =
      s.mSubHalList.length := by
  rcases OperationModes.requestMode_cases ask mode 0 s.mSubHalList with
    ⟨-, asked, hrequest⟩ | ⟨before, refusing, after, hsplit, -, hrefuse, asked, -, hrequest⟩
  · rw [OperationModes.setOperationMode, hrequest]
    exact ⟨Or.inl rfl, OperationModes.length_askAll ask mode s.mSubHalList⟩
  · rw [OperationModes.setOperationMode, hrequest]
    dsimp only
    rw [if_pos hrefuse, Nat.zero_add, ← OperationModes.length_askAll ask mode before,
      OperationModes.restoreMode_append, hsplit]
    exact ⟨Or.inr rfl, by simp⟩

theorem modeSafe_setOperationMode (hask : OperationModes.ModeContract ask modeOf)
    {s : FrameworkSession σ} (hs : ModeSafe modeOf s) (mode : OperationMode)
    (hinject : (OperationModes.setOperationMode ask s.modes mode).modes.mCurrentOperationMode =
      .DATA_INJECTION) :
    ∀ subHal ∈ (OperationModes.setOperationMode ask s.modes mode).modes.mSubHalList,
      modeOf subHal = .DATA_INJECTION := by
  have huniform : OperationModes.Uniform modeOf
      (OperationModes.setOperationMode ask s.modes mode).modes := by
    rcases (setOperationMode_cases ask s.modes mode).1 with hok | hsame
    · exact uniform_of_ok hask hok
    · -- the proxy was injecting before, so that the sub-HALs were in one mode
      have hbefore : OperationModes.Uniform modeOf s.modes := by
        intro subHal hmem
        exact (hs.injecting (hsame.symm.trans hinject) subHal hmem).trans
          (hsame.symm.trans hinject).symm
      exact (OperationModes.allOrNothing_of_uniform hask hbefore mode).uniform
  intro subHal hmem
  exact (huniform subHal hmem).trans hinject

theorem modeSafe_step (hask : OperationModes.ModeContract ask modeOf) {s t : FrameworkSession σ}
    {l : Step σ} (hs : ModeSafe modeOf s) (h : step ask s l = some t) : ModeSafe modeOf t := by
  cases l with
  | setOperationMode mode =>
    cases h
    exact ⟨(setOperationMode_cases ask s.modes mode).2.trans hs.length,
      modeSafe_setOperationMode hask hs mode⟩
  | activate sensorHandle enabled reply =>
    obtain ⟨answer, -, rfl⟩ := Option.map_eq_some_iff.mp h
    exact ⟨hs.length, hs.injecting⟩
  | onDynamicSensorsConnected added i =>
    obtain ⟨-, ht⟩ := Option.ite_none_right_eq_some.mp h
    cases ht
    exact ⟨hs.length, hs.injecting⟩
  | onDynamicSensorsDisconnected removed i =>
    obtain ⟨-, ht⟩ := Option.ite_none_right_eq_some.mp h
    cases ht
    exact ⟨hs.length, hs.injecting⟩
  | initializeCommon reply subHals =>
    obtain ⟨hlength, ht⟩ := Option.ite_none_right_eq_some.mp h
    obtain ⟨log, -, rfl⟩ := Option.map_eq_some_iff.mp ht
    refine ⟨hlength.trans hs.length, ?_⟩
    rintro ⟨⟩

/-- **Events are injected where injection is on.**  In every state of every run, whatever
modes the sub-HALs leave their `initialize` in, a request to inject an event calls at most the
sub-HAL of its handle, once, with this sub-HAL's own handle; and unless the event is
additional information this sub-HAL is in the data injection mode. -/
theorem injects_in_mode (hask : OperationModes.ModeContract ask modeOf)
    {mSubHalList : List SubHal} {s : FrameworkSession σ}
    (h : (machine ask mSubHalList).Reachable s) (reply : Nat → SubHalCall → Result)
    (event : Event) {answer : Answer} (hanswer : s.proxy.injectSensorData reply event = some answer) :
    answer.calls = [] ∨ ∃ subHal, s.subHals[extractSubHalIndex event.sensorHandle]? = some subHal ∧
      answer.calls = [(extractSubHalIndex event.sensorHandle,
        .injectSensorData { event with sensorHandle := clearSubHalIndex event.sensorHandle })] ∧
      (event.sensorType ≠ SensorType.ADDITIONAL_INFO → modeOf subHal = .DATA_INJECTION) := by
  have hs : ModeSafe modeOf s := by
    refine h.invariant (I := ModeSafe modeOf) ?_ fun _ _ _ hs hstep => modeSafe_step hask hs hstep
    rintro s ⟨hproxy, hlength, -⟩
    rw [HalProxy.construct] at hproxy
    refine ⟨by rw [hlength, hproxy], fun hinject => ?_⟩
    rw [hproxy] at hinject
    cases hinject
  by_cases hadmits : s.proxy.Admits event
  · rw [HalProxy.injectSensorData_of_admits reply hadmits] at hanswer
    rcases Nat.lt_or_ge (extractSubHalIndex event.sensorHandle) s.proxy.mSubHalList.length with
      hlt | hge
    · rw [HalProxy.forward_of_valid reply hlt] at hanswer
      cases hanswer
      refine Or.inr ⟨_, List.getElem?_eq_getElem (hs.length ▸ hlt), rfl, fun htype => ?_⟩
      refine hs.injecting ?_ _ (List.getElem_mem _)
      -- the normal mode admits additional information only
      cases hmode : s.proxy.mCurrentOperationMode with
      | NORMAL => exact absurd (hadmits hmode) htype
      | DATA_INJECTION => rfl
    · rw [HalProxy.forward_of_invalid reply hge] at hanswer
      cases hanswer
      exact Or.inl rfl
  · rw [HalProxy.injectSensorData, if_pos (Classical.not_imp.mp hadmits)] at hanswer
    cases hanswer
    exact Or.inl rfl

end Injection

/-! ## Sensors that are switched on -/

section Active
variable {ask : σ → OperationMode → Result × σ} {mSubHalList : List SubHal}

/-- A sensor the proxy has an entry for, whose handle it can read. -/
structure Announced (p : HalProxy) (a : Nat × SensorHandle) : Prop where
  index : a.1 < 128 ∧ a.1 < p.mSubHalList.length
  clear : subHalIndexIsClear a.2 = true
  entry : setSubHalIndex a.2 a.1 ∈ p.mSensors ∨ setSubHalIndex a.2 a.1 ∈ p.mDynamicSensors

/-- What `disableAllSensors` relies on. -/
structure ActiveKnown (s : FrameworkSession σ) : Prop where
  length : s.proxy.mSubHalList.length ≤ 256
  subHals : s.subHals.length = s.proxy.mSubHalList.length
  announced : ∀ a ∈ s.active, Announced s.proxy a

/-- A handle whose sub-HAL is among the first 256 names one of the first 128. -/
theorem extractSubHalIndex_lt {h : SensorHandle} (hlt : extractSubHalIndex h < 256) :
    extractSubHalIndex h < 128 ∧ extractSubHalIndex h = indexByte h := by
  rw [extractSubHalIndex_eq] at hlt ⊢
  split at hlt
  · rename_i hbyte
    rw [if_pos hbyte]
    exact ⟨hbyte, rfl⟩
  · omega

theorem subHalIndexIsClear_clearSubHalIndex (h : SensorHandle) :
    subHalIndexIsClear (clearSubHalIndex h) = true := by
  rw [subHalIndexIsClear_iff, indexByte_eq, toNat_clearSubHalIndex]
  omega

/-- What a request to switch a sensor on or off makes of the active ones: a new one has
answered OK. -/
theorem mem_obey {reply : Nat → SubHalCall → Result} {active : List (Nat × SensorHandle)}
    {call : Nat × SubHalCall} {a : Nat × SensorHandle} (h : a ∈ obey reply active call) :
    a ∈ active ∨ call = (a.1, .activate a.2 true) ∧ reply a.1 (.activate a.2 true) = .OK := by
  obtain ⟨i, call⟩ := call
  cases call with
  | activate k enabled =>
    dsimp only [obey] at h
    split at h
    · rename_i hok
      split at h
      · rename_i henabled
        subst henabled
        rcases List.mem_cons.mp h with rfl | h
        · exact Or.inr ⟨rfl, hok⟩
        · exact Or.inl h
      · exact Or.inl (List.mem_filter.mp h).1
    · exact Or.inl h
  | batch | flush | injectSensorData => exact Or.inl h

/-- A run of deactivations keeps only what was on and was not switched off. -/
theorem mem_foldl_obey {reply : Nat → SubHalCall → Result} {calls : List (Nat × SubHalCall)}
    (hcalls : ∀ call ∈ calls, ∃ h, call.2 = .activate h false) {active : List (Nat × SensorHandle)}
    {a : Nat × SensorHandle} (ha : a ∈ calls.foldl (obey reply) active) :
    a ∈ active ∧ ((a.1, SubHalCall.activate a.2 false) ∈ calls →
      reply a.1 (.activate a.2 false) ≠ .OK) := by
  induction calls generalizing active with
  | nil => exact ⟨ha, fun h => absurd h List.not_mem_nil⟩
  | cons call calls ih =>
    obtain ⟨hmem, hrest⟩ := ih (fun c hc => hcalls c (List.mem_cons_of_mem _ hc)) ha
    obtain ⟨h, hcall⟩ := hcalls call List.mem_cons_self
    obtain ⟨i, call⟩ := call
    dsimp only at hcall
    subst hcall
    dsimp only [obey] at hmem
    by_cases hok : reply i (.activate h false) = .OK
    · rw [if_pos hok, if_neg Bool.false_ne_true, List.mem_filter] at hmem
      refine ⟨hmem.1, fun hin => ?_⟩
      rcases List.mem_cons.mp hin with heq | hin
      · -- this very sensor has been switched off
        have hsame : a = (i, h) := by
          obtain ⟨j, k⟩ := a
          simp only [Prod.mk.injEq, SubHalCall.activate.injEq, and_true] at heq
          rw [heq.1, heq.2]
        exact absurd hsame (of_decide_eq_true hmem.2)
      · exact hrest hin
    · -- the sub-HAL has refused
      rw [if_neg hok] at hmem
      refine ⟨hmem, fun hin => ?_⟩
      rcases List.mem_cons.mp hin with heq | hin
      · rw [Prod.mk.injEq] at heq
        obtain ⟨rfl, heq⟩ := heq
        rw [heq]
        exact hok
      · exact hrest hin

/-- `disableAllSensors` only deactivates, and deactivates every sensor it has an entry for. -/
theorem disableAllSensors_calls {p : HalProxy} {reply : Nat → SubHalCall → Result}
    {log : List (SensorHandle × Answer)} (hlog : p.disableAllSensors reply = some log) :
    (∀ call ∈ log.flatMap fun entry => entry.2.calls, ∃ h, call.2 = .activate h false) ∧
      ∀ a, Announced p a →
        (a.1, SubHalCall.activate a.2 false) ∈ log.flatMap fun entry => entry.2.calls := by
  obtain ⟨log', hlog', hmem⟩ := HalProxy.disableAllSensors_eq (p := p) reply
  rw [hlog] at hlog'
  cases hlog'
  constructor
  · intro call hcall
    obtain ⟨⟨h, answer⟩, hentry, hcall⟩ := List.mem_flatMap.mp hcall
    have hanswer := ((hmem h answer).mp hentry).2
    rcases Nat.lt_or_ge (extractSubHalIndex h) p.mSubHalList.length with hlt | hge
    · rw [HalProxy.activate, HalProxy.forward_of_valid reply hlt] at hanswer
      cases hanswer
      exact ⟨_, congrArg Prod.snd (List.mem_singleton.mp hcall)⟩
    · rw [HalProxy.activate, HalProxy.forward_of_invalid reply hge] at hanswer
      cases hanswer
      exact absurd hcall List.not_mem_nil
  · rintro ⟨i, h⟩ ⟨⟨hi, hlt⟩, hclear, hentry⟩
    have hx : extractSubHalIndex (setSubHalIndex h i) = i := extractSubHalIndex_setSubHalIndex hclear hi
    have hactivate : p.activate reply (setSubHalIndex h i) false =
        some ⟨reply i (.activate h false), [(i, .activate h false)]⟩ := by
      rw [HalProxy.activate, HalProxy.forward_of_valid reply (hx.symm ▸ hlt), hx,
        clearSubHalIndex_setSubHalIndex hclear]
    exact List.mem_flatMap.mpr ⟨_, (hmem _ _).mpr ⟨hentry, hactivate⟩, List.mem_singleton_self _⟩

/-- A disconnection removes no other entries than those of the sensors it names. -/
theorem mem_onDynamicSensorsDisconnected {m : SensorMap} {removed : List SensorHandle} {i : Nat}
    {k : SensorHandle} (hk : k ∈ m)
    (hother : ∀ h ∈ removed, subHalIndexIsClear h = true → setSubHalIndex h i ≠ k) :
    k ∈ (SensorsHal.onDynamicSensorsDisconnected m removed i).1 := by
  refine List.foldlRecOn (motive := fun st : SensorMap × List SensorHandle => k ∈ st.1) removed _
    hk ?_
  intro st hst h hmem
  unfold disconnectSensor
  split
  · rename_i hclear
    dsimp only
    split
    · refine Std.TreeMap.mem_erase.mpr ⟨fun heq => ?_, hst⟩
      exact hother h hmem hclear (Std.LawfulEqCmp.eq_of_compare heq)
    · exact hst
  · exact hst

theorem Announced.of_subset {p p' : HalProxy} {a : Nat × SensorHandle} (h : Announced p a)
    (hsubHals : p'.mSubHalList = p.mSubHalList) (hstatic : p'.mSensors = p.mSensors)
    (hdynamic : setSubHalIndex a.2 a.1 ∈ p.mDynamicSensors →
      setSubHalIndex a.2 a.1 ∈ p'.mDynamicSensors) : Announced p' a :=
  ⟨hsubHals ▸ h.index, h.clear, h.entry.imp (fun hin => hstatic ▸ hin) hdynamic⟩

theorem activeKnown_activate {s : FrameworkSession σ} (hs : ActiveKnown s)
    {sensorHandle : SensorHandle} {enabled : Bool} {reply : Nat → SubHalCall → Result}
    (hok : Obedient s (.activate sensorHandle enabled reply)) {answer : Answer}
    (hanswer : s.proxy.activate reply sensorHandle enabled = some answer) :
    ActiveKnown { s with active := answer.calls.foldl (obey reply) s.active } := by
  refine ⟨hs.length, hs.subHals, ?_⟩
  rcases Nat.lt_or_ge (extractSubHalIndex sensorHandle) s.proxy.mSubHalList.length with hlt | hge
  · rw [HalProxy.activate, HalProxy.forward_of_valid reply hlt] at hanswer
    cases hanswer
    intro a (ha : a ∈ obey reply s.active (extractSubHalIndex sensorHandle,
      .activate (clearSubHalIndex sensorHandle) enabled))
    rcases mem_obey ha with ha | ⟨hcall, hreply⟩
    · exact hs.announced a ha
    · -- the sensor has just been switched on
      obtain ⟨hindex, -⟩ := extractSubHalIndex_lt (Nat.lt_of_lt_of_le hlt hs.length)
      rw [Prod.mk.injEq, SubHalCall.activate.injEq] at hcall
      obtain ⟨hi, hh, -⟩ := hcall
      refine ⟨hi ▸ ⟨hindex, hlt⟩, ?_, hok a.1 a.2 hreply⟩
      rw [← hh]
      exact subHalIndexIsClear_clearSubHalIndex sensorHandle
  · rw [HalProxy.activate, HalProxy.forward_of_invalid reply hge] at hanswer
    cases hanswer
    exact hs.announced

theorem activeKnown_disconnected {s : FrameworkSession σ} (hs : ActiveKnown s)
    (removed : List SensorHandle) {i : Nat} (hi : i < s.subHals.length) :
    ActiveKnown { s with
      proxy := { s.proxy with
        mDynamicSensors :=
          (SensorsHal.onDynamicSensorsDisconnected s.proxy.mDynamicSensors removed i).1 }
      active := s.active.filter fun a => removed.all fun h => a ≠ (i, h) } := by
  refine ⟨hs.length, hs.subHals, ?_⟩
  intro a ha
  obtain ⟨ha, hleft⟩ := List.mem_filter.mp ha
  have hknown := hs.announced a ha
  refine hknown.of_subset rfl rfl fun hin => mem_onDynamicSensorsDisconnected hin ?_
  -- an entry of another sensor has another handle
  intro h hmem hclear heq
  have hlength := hs.length
  have hsubHals := hs.subHals
  obtain ⟨rfl, rfl⟩ := setSubHalIndex_inj hclear hknown.clear (by omega)
    (Nat.lt_trans hknown.index.1 (by decide)) heq
  exact of_decide_eq_true (List.all_eq_true.mp hleft a.2 hmem) rfl

/-- After the deactivations nothing is on. -/
theorem active_after_disable {s : FrameworkSession σ} (hs : ActiveKnown s)
    {reply : Nat → SubHalCall → Result}
    (hok : ∀ a ∈ s.active, reply a.1 (.activate a.2 false) = .OK)
    {log : List (SensorHandle × Answer)} (hlog : s.proxy.disableAllSensors reply = some log) :
    (log.flatMap fun entry => entry.2.calls).foldl (obey reply) s.active = [] := by
  obtain ⟨honly, hall⟩ := disableAllSensors_calls hlog
  refine List.eq_nil_iff_forall_not_mem.mpr fun a ha => ?_
  obtain ⟨hactive, hrefused⟩ := mem_foldl_obey honly ha
  exact hrefused (hall a (hs.announced a hactive)) (hok a hactive)

theorem activeKnown_step {s t : FrameworkSession σ} {l : Step σ} (hs : ActiveKnown s)
    (hok : Obedient s l) (h : step ask s l = some t) : ActiveKnown t := by
  cases l with
  | setOperationMode mode =>
    cases h
    refine ⟨hs.length, (setOperationMode_cases ask s.modes mode).2.trans hs.subHals, ?_⟩
    exact fun a ha => (hs.announced a ha).of_subset rfl rfl id
  | activate sensorHandle enabled reply =>
    obtain ⟨answer, hanswer, rfl⟩ := Option.map_eq_some_iff.mp h
    exact activeKnown_activate hs hok hanswer
  | onDynamicSensorsConnected added i =>
    obtain ⟨-, ht⟩ := Option.ite_none_right_eq_some.mp h
    cases ht
    refine ⟨hs.length, hs.subHals, fun a ha => ?_⟩
    exact (hs.announced a ha).of_subset rfl rfl fun hin =>
      mem_onDynamicSensorsConnected.mpr (Or.inl hin)
  | onDynamicSensorsDisconnected removed i =>
    obtain ⟨hi, ht⟩ := Option.ite_none_right_eq_some.mp h
    cases ht
    exact activeKnown_disconnected hs removed hi
  | initializeCommon reply subHals =>
    obtain ⟨hlength, ht⟩ := Option.ite_none_right_eq_some.mp h
    obtain ⟨log, hlog, rfl⟩ := Option.map_eq_some_iff.mp ht
    refine ⟨hs.length, hlength.trans hs.subHals, ?_⟩
    dsimp only
    rw [active_after_disable hs hok hlog]
    rintro a ⟨⟩

theorem step_initializeCommon (ask : σ → OperationMode → Result × σ) (s : FrameworkSession σ)
    {reply : Nat → SubHalCall → Result} {log : List (SensorHandle × Answer)}
    (hlog : s.proxy.disableAllSensors reply = some log) {subHals : List σ}
    (hlength : subHals.length = s.subHals.length) :
    step ask s (.initializeCommon reply subHals) = some
      { proxy := { s.proxy with mDynamicSensors := ∅, mCurrentOperationMode := .NORMAL }
        subHals := subHals
        active := (log.flatMap fun entry => entry.2.calls).foldl (obey reply) s.active } := by
  rw [step, if_pos hlength, hlog]
  rfl

/-- **No sensor outlives its session.**  For up to 256 sub-HALs, in every run in which sub-HALs
switch on only what they have announced: every sensor that is on has an entry in the static
table or among the connected dynamic sensors, under a handle that leads back to it, and after
an `initialize`, which forgets the dynamic sensors, no sensor of any sub-HAL is on. -/
theorem active_known (hlen : mSubHalList.length ≤ 256) {s : FrameworkSession σ}
    (h : (machine ask mSubHalList).ReachableBy Obedient s) :
    (∀ a ∈ s.active, Announced s.proxy a) ∧
      ∀ reply subHals t, Obedient s (.initializeCommon reply subHals) →
        (machine ask mSubHalList).step s (.initializeCommon reply subHals) = some t →
          t.active = [] ∧ t.proxy.mDynamicSensors = ∅ := by
  have hs : ActiveKnown s := by
    refine h.invariant (I := ActiveKnown) ?_ fun _ _ _ hs hok hstep => activeKnown_step hs hok hstep
    rintro s ⟨hproxy, hlength, hactive⟩
    rw [HalProxy.construct] at hproxy
    refine ⟨by rw [hproxy]; exact hlen, by rw [hproxy]; exact hlength, ?_⟩
    rw [hactive]
    rintro a ⟨⟩
  refine ⟨hs.announced, fun reply subHals t hok ht => ?_⟩
  obtain ⟨-, ht⟩ := Option.ite_none_right_eq_some.mp ht
  obtain ⟨log, hlog, rfl⟩ := Option.map_eq_some_iff.mp ht
  exact ⟨active_after_disable hs hok hlog, rfl⟩

end Active

/-! ## A run -/

/-- Two sub-HALs, the second with a light sensor; all sub-HALs know both modes. -/
def twoSubHals : List SubHal := [⟨[]⟩, ⟨[⟨7#32, 5, 0#32⟩]⟩]

def freshSession : FrameworkSession (Option OperationMode) :=
  ⟨HalProxy.construct twoSubHals, [some .NORMAL, some .NORMAL], []⟩

theorem freshSession_init :
    (machine OperationModes.askInjection twoSubHals).init freshSession :=
  ⟨rfl, rfl, rfl⟩

/-- The mode has been changed. -/
def injectingSession : FrameworkSession (Option OperationMode) :=
  ⟨{ HalProxy.construct twoSubHals with mCurrentOperationMode := .DATA_INJECTION },
    [some .DATA_INJECTION, some .DATA_INJECTION], []⟩

/-- An event for the second sub-HAL. -/
theorem injects_in_mode_example : ∃ answer,
    injectingSession.proxy.injectSensorData (fun _ _ => .OK) ⟨0x01000007#32, 5, ⟨40, 0, 0#32⟩⟩ =
      some answer ∧
    answer.calls = [(1, .injectSensorData ⟨7#32, 5, ⟨40, 0, 0#32⟩⟩)] ∧
    injectingSession.subHals[1]?.map (fun subHal => subHal.getD .NORMAL) = some .DATA_INJECTION := by
  have hstep : (machine OperationModes.askInjection twoSubHals).step freshSession
      (.setOperationMode .DATA_INJECTION) = some injectingSession := rfl
  have hanswer : injectingSession.proxy.injectSensorData (fun _ _ => .OK)
      ⟨0x01000007#32, 5, ⟨40, 0, 0#32⟩⟩ =
        some ⟨.OK, [(1, .injectSensorData ⟨7#32, 5, ⟨40, 0, 0#32⟩⟩)]⟩ := by
    decide +kernel
  refine ⟨_, hanswer, rfl, ?_⟩
  rcases injects_in_mode OperationModes.askInjection_contract
      (StepMachine.Reachable.next (.init freshSession_init) hstep) (fun _ _ => .OK) _ hanswer with
    hnone | ⟨subHal, hsubHal, -, hmode⟩
  · cases hnone
  · have hinjecting := hmode (by decide)
    exact (congrArg (Option.map _) hsubHal).trans (congrArg some hinjecting)

/-- The light sensor has been switched on. -/
def lightOn : FrameworkSession (Option OperationMode) := { freshSession with active := [(1, 7#32)] }

/-- The next `initialize` switches it off. -/
theorem active_known_example : ∃ t : FrameworkSession (Option OperationMode),
    (machine OperationModes.askInjection twoSubHals).step lightOn
      (.initializeCommon (fun _ _ => .OK) lightOn.subHals) = some t ∧ t.active = [] := by
  have hstep : (machine OperationModes.askInjection twoSubHals).step freshSession
      (.activate 0x01000007#32 true fun i call =>
        if i = 1 ∧ call = .activate 7#32 true then .OK else .BAD_VALUE) = some lightOn := rfl
  have hobedient : Obedient freshSession (.activate 0x01000007#32 true fun i call =>
      if i = 1 ∧ call = .activate 7#32 true then .OK else .BAD_VALUE) := by
    intro i h hreply
    have hown : i = 1 ∧ h = 7#32 := by
      simpa using hreply
    obtain ⟨rfl, rfl⟩ := hown
    exact Or.inl (mem_mSensors.mpr ⟨1, 7#32, ⟨by decide, _, rfl, _, List.mem_singleton_self _, rfl⟩,
      rfl⟩)
  obtain ⟨log, hlog, -⟩ := @HalProxy.disableAllSensors_eq lightOn.proxy fun _ _ => .OK
  have hnext : ∃ t, (machine OperationModes.askInjection twoSubHals).step lightOn
      (.initializeCommon (fun _ _ => .OK) lightOn.subHals) = some t :=
    ⟨_, step_initializeCommon OperationModes.askInjection lightOn hlog rfl⟩
  obtain ⟨t, ht⟩ := hnext
  exact ⟨t, ht, ((active_known (by decide)
    (.step (.init freshSession_init) hobedient hstep)).2 _ _ _ (fun _ _ => rfl) ht).1⟩

end FrameworkSession
end SensorsHal
