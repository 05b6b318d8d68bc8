import Sm8150Common.SensorTypes

/-! # One operation mode for all sub-HALs

`setOperationMode` (`HalProxy.cpp`, lines 140–161) asks the sub-HALs one after the
other to change their mode.  When one refuses, the loop stops there and a second
loop asks those before it to go back.

What a sub-HAL does when asked is up to it: `ask` and `modeOf` are about sub-HALs
of any type of state, and `ModeContract` is what the proxy counts on.
`all_or_nothing` says that under this contract a call changes all modes or none,
on every sequence of calls. -/
namespace SensorsHal

/-- The sub-HALs, in their states, and the mode the proxy has on record. -/
structure OperationModes (σ : Type) where
  mSubHalList : List σ
  mCurrentOperationMode : OperationMode

/-- What a call of `setOperationMode` returns and leaves, and the sub-HALs it has
asked, by their index, with the mode it has asked for. -/
structure ModeChange (σ : Type) where
  result : Result
  modes : OperationModes σ
  asked : List (Nat × OperationMode)

/-- The first loop: its result, `subHalIndex` at the end, the sub-HALs and whom it
has asked. -/
structure ModeRequest (σ : Type) where
  result : Result
  subHalIndex : Nat
  mSubHalList : List σ
  asked : List (Nat × OperationMode)

namespace OperationModes
variable {σ : Type} (ask : σ → OperationMode → Result × σ) (modeOf : σ → OperationMode)

/-- Lines 143–150, from `subHalIndex` on. -/
def requestMode (mode : OperationMode) : Nat → List σ → ModeRequest σ
  | subHalIndex, [] => ⟨.OK, subHalIndex, [], []⟩
  | subHalIndex, subHal :: subHals =>
    let (result, subHal) := ask subHal mode
    if result ≠ .OK then ⟨result, subHalIndex, subHal :: subHals, [(subHalIndex, mode)]⟩
    else
      let rest := requestMode mode (subHalIndex + 1) subHals
      { rest with
        mSubHalList := subHal :: rest.mSubHalList
        asked := (subHalIndex, mode) :: rest.asked }

/-- The sub-HALs after each has been asked. -/
def askAll (mode : OperationMode) (subHals : List σ) : List σ :=
  subHals.map fun subHal => (ask subHal mode).2

/-- Lines 154–156: the first `n` sub-HALs are asked to go back. -/
def restoreMode (mode : OperationMode) (n : Nat) (subHals : List σ) : List σ :=
  askAll ask mode (subHals.take n) ++ subHals.drop n

def setOperationMode (s : OperationModes σ) (mode : OperationMode) : ModeChange σ :=
  let request := requestMode ask mode 0 s.mSubHalList
  if request.result ≠ .OK then
    { result := request.result
      modes := { s with
        mSubHalList :=
          restoreMode ask s.mCurrentOperationMode request.subHalIndex request.mSubHalList }
      asked := request.asked ++
        (List.range request.subHalIndex).map fun i => (i, s.mCurrentOperationMode) }
  else
    { result := request.result
      modes := ⟨request.mSubHalList, mode⟩
      asked := request.asked }

/-- All sub-HALs are in the mode on record. -/
def Uniform (s : OperationModes σ) : Prop :=
  ∀ subHal ∈ s.mSubHalList, modeOf subHal = s.mCurrentOperationMode

/-- A sub-HAL that accepts a mode is in that mode, one that refuses keeps its own,
and one that has accepted accepts to go back to the mode it has just left. -/
structure ModeContract : Prop where
  accepts : ∀ subHal mode, (ask subHal mode).1 = .OK → modeOf (ask subHal mode).2 = mode
  refuses : ∀ subHal mode, (ask subHal mode).1 ≠ .OK →
    modeOf (ask subHal mode).2 = modeOf subHal
  returns : ∀ subHal mode, (ask subHal mode).1 = .OK →
    (ask (ask subHal mode).2 (modeOf subHal)).1 = .OK

/-- What a call that fails leaves: `refusing` is the first sub-HAL to refuse and
the result is its, every mode is what it was, and the sub-HALs behind it are as
they were and have not been asked. -/
structure ChangedNothing (s : OperationModes σ) (mode : OperationMode) (before : List σ)
    (refusing : σ) (after : List σ) (change : ModeChange σ) : Prop where
  subHals : s.mSubHalList = before ++ refusing :: after
  first : ∀ subHal ∈ before, (ask subHal mode).1 = .OK
  result : change.result = (ask refusing mode).1
  current : change.modes.mCurrentOperationMode = s.mCurrentOperationMode
  modes : change.modes.mSubHalList.map modeOf = s.mSubHalList.map modeOf
  untouched : change.modes.mSubHalList.drop (before.length + 1) = after
  asked : ∀ call ∈ change.asked, call.1 ≤ before.length

/-- **All or nothing**, for one call. -/
structure AllOrNothing (s : OperationModes σ) (mode : OperationMode) : Prop where
  uniform : Uniform modeOf (setOperationMode ask s mode).modes
  success : (setOperationMode ask s mode).result = .OK →
    (setOperationMode ask s mode).modes.mCurrentOperationMode = mode
  failure : (setOperationMode ask s mode).result ≠ .OK → ∃ before refusing after,
    ChangedNothing ask modeOf s mode before refusing after (setOperationMode ask s mode)

/-- Every call of a sequence is all or nothing. -/
def AlwaysAllOrNothing : OperationModes σ → List OperationMode → Prop
  | _, [] => True
  | s, mode :: modes =>
    AllOrNothing ask modeOf s mode ∧ AlwaysAllOrNothing (setOperationMode ask s mode).modes modes

/-! ## The two loops -/

variable {modeOf}

/-- The first loop ends behind the last sub-HAL, or at the first one that refuses. -/
theorem requestMode_cases (mode : OperationMode) (i : Nat) (subHals : List σ) :
    ((∀ subHal ∈ subHals, (ask subHal mode).1 = .OK) ∧
      ∃ asked, requestMode ask mode i subHals =
        ⟨.OK, i + subHals.length, askAll ask mode subHals, asked⟩) ∨
    ∃ before refusing after, subHals = before ++ refusing :: after ∧
      (∀ subHal ∈ before, (ask subHal mode).1 = .OK) ∧ (ask refusing mode).1 ≠ .OK ∧
      ∃ asked, (∀ call ∈ asked, call.1 ≤ i + before.length) ∧
        requestMode ask mode i subHals =
          ⟨(ask refusing mode).1, i + before.length,
            askAll ask mode before ++ (ask refusing mode).2 :: after, asked⟩ := by
  induction subHals generalizing i with
  | nil => exact Or.inl ⟨fun _ h => absurd h List.not_mem_nil, [], rfl⟩
  | cons subHal subHals ih =>
    by_cases hok : (ask subHal mode).1 = .OK
    · have hstep : requestMode ask mode i (subHal :: subHals) =
          { requestMode ask mode (i + 1) subHals with
            mSubHalList :=
              (ask subHal mode).2 :: (requestMode ask mode (i + 1) subHals).mSubHalList
            asked := (i, mode) :: (requestMode ask mode (i + 1) subHals).asked } :=
        if_neg (Classical.not_not.mpr hok)
      -- it has switched, and the rest of the loop decides
      rcases ih (i + 1) with ⟨hall, asked, hrest⟩ |
        ⟨before, refusing, after, rfl, hall, hrefuse, asked, hasked, hrest⟩
      · refine Or.inl ⟨List.forall_mem_cons.mpr ⟨hok, hall⟩, (i, mode) :: asked, ?_⟩
        rw [hstep, hrest, List.length_cons, Nat.add_right_comm]
        rfl
      · refine Or.inr ⟨subHal :: before, refusing, after, rfl,
          List.forall_mem_cons.mpr ⟨hok, hall⟩, hrefuse, (i, mode) :: asked,
          List.forall_mem_cons.mpr ⟨Nat.le_add_right _ _, fun call hcall => ?_⟩, ?_⟩
        · rw [List.length_cons, ← Nat.add_assoc, Nat.add_right_comm]
          exact hasked call hcall
        · rw [hstep, hrest, List.length_cons, Nat.add_right_comm]
          rfl
    · -- it refuses, and the loop breaks
      refine Or.inr ⟨[], subHal, subHals, rfl, fun _ h => absurd h List.not_mem_nil, hok,
        [(i, mode)], fun call hcall => ?_, if_pos hok⟩
      rw [List.mem_singleton.mp hcall]
      exact Nat.le_refl i

/-- The second loop reaches the sub-HALs before the one that refused. -/
theorem restoreMode_append (mode : OperationMode) (before after : List σ) :
    restoreMode ask mode before.length (before ++ after) = askAll ask mode before ++ after := by
  rw [restoreMode, List.take_left, List.drop_left]

@[simp] theorem length_askAll (mode : OperationMode) (subHals : List σ) :
    (askAll ask mode subHals).length = subHals.length :=
  List.length_map _

section Contract
variable {ask} (hask : ModeContract ask modeOf)
include hask

/-- Those that switched and went back are in their old mode. -/
theorem ModeContract.map_modeOf_restored {before : List σ} {mode current : OperationMode}
    (haccept : ∀ subHal ∈ before, (ask subHal mode).1 = .OK)
    (hcurrent : ∀ subHal ∈ before, modeOf subHal = current) :
    (askAll ask current (askAll ask mode before)).map modeOf = before.map modeOf := by
  rw [askAll, askAll, List.map_map, List.map_map]
  refine List.map_congr_left fun subHal hmem => ?_
  have hback := hask.returns subHal mode (haccept subHal hmem)
  rw [hcurrent subHal hmem] at hback
  exact (hask.accepts _ current hback).trans (hcurrent subHal hmem).symm

theorem allOrNothing_of_uniform {s : OperationModes σ} (hs : Uniform modeOf s)
    (mode : OperationMode) : AllOrNothing ask modeOf s mode := by
  rcases requestMode_cases ask mode 0 s.mSubHalList with
    ⟨hall, asked, hrequest⟩ |
    ⟨before, refusing, after, hsplit, hall, hrefuse, asked, hasked, hrequest⟩
  · have hset : setOperationMode ask s mode =
        ⟨.OK, ⟨askAll ask mode s.mSubHalList, mode⟩, asked⟩ := by
      rw [setOperationMode, hrequest]
      rfl
    refine ⟨?_, fun _ => by rw [hset], fun hne => absurd (by rw [hset]) hne⟩
    rw [hset]
    -- every sub-HAL has switched
    intro subHal hmem
    obtain ⟨old, hold, rfl⟩ := List.mem_map.mp hmem
    exact hask.accepts old mode (hall old hold)
  · have hset : setOperationMode ask s mode =
        ⟨(ask refusing mode).1,
          ⟨askAll ask s.mCurrentOperationMode (askAll ask mode before) ++
            (ask refusing mode).2 :: after, s.mCurrentOperationMode⟩,
          asked ++ (List.range before.length).map fun i => (i, s.mCurrentOperationMode)⟩ := by
      rw [setOperationMode, hrequest]
      dsimp only
      rw [if_pos hrefuse, Nat.zero_add, ← length_askAll ask mode before, restoreMode_append]
    have hbefore : ∀ subHal ∈ before, modeOf subHal = s.mCurrentOperationMode := by
      intro subHal hmem
      exact hs subHal (hsplit ▸ List.mem_append_left _ hmem)
    -- the prefix is back, the refusing one kept its mode, the others were not asked
    have hmodes : (setOperationMode ask s mode).modes.mSubHalList.map modeOf =
        s.mSubHalList.map modeOf := by
      rw [hset, hsplit, List.map_append, List.map_append, List.map_cons, List.map_cons,
        hask.map_modeOf_restored hall hbefore, hask.refuses refusing mode hrefuse]
    refine ⟨?_, ?_, fun _ => ⟨before, refusing, after, hsplit, hall, ?_, ?_, hmodes, ?_, ?_⟩⟩
    · intro subHal hmem
      have hin := List.mem_map_of_mem (f := modeOf) hmem
      rw [hmodes] at hin
      obtain ⟨old, hold, heq⟩ := List.mem_map.mp hin
      rw [← heq, hs old hold, hset]
    · intro hok
      rw [hset] at hok
      exact absurd hok hrefuse
    · rw [hset]
    · rw [hset]
    · rw [hset]
      simp [List.drop_append]
    · intro call hcall
      rw [hset] at hcall
      rcases List.mem_append.mp hcall with hcall | hcall
      · rw [← Nat.zero_add before.length]
        exact hasked call hcall
      · obtain ⟨i, hi, rfl⟩ := List.mem_map.mp hcall
        exact Nat.le_of_lt (List.mem_range.mp hi)

end Contract

/-- **Changing the operation mode is all or nothing.**  With sub-HALs that keep the
contract and start in the mode on record, every call of every sequence of calls
leaves all of them in the mode on record: the requested one if it succeeds, and
the one before the call if a sub-HAL refuses. -/
theorem all_or_nothing {ask : σ → OperationMode → Result × σ} (hask : ModeContract ask modeOf)
    (s : OperationModes σ) (hs : Uniform modeOf s) (modes : List OperationMode) :
    AlwaysAllOrNothing ask modeOf s modes := by
  induction modes generalizing s with
  | nil => trivial
  | cons mode modes ih =>
    have hcall := allOrNothing_of_uniform hask hs mode
    exact ⟨hcall, ih _ hcall.uniform⟩

/-- A sub-HAL with its mode, or one (`none`) that knows only the normal mode. -/
def askInjection : Option OperationMode → OperationMode → Result × Option OperationMode
  | some _, mode => (.OK, some mode)
  | none, .NORMAL => (.OK, none)
  | none, .DATA_INJECTION => (.INVALID_OPERATION, none)

theorem askInjection_contract : ModeContract askInjection fun subHal => subHal.getD .NORMAL := by
  refine ⟨?_, ?_, ?_⟩
  · rintro (_ | old) mode hok
    · cases mode with
      | NORMAL => rfl
      | DATA_INJECTION => cases hok
    · rfl
  · rintro (_ | old) mode hne
    · cases mode <;> rfl
    · exact absurd rfl hne
  · rintro (_ | old) mode -
    · cases mode <;> rfl
    · rfl

/-- The second of two sub-HALs does not know data injection. -/
theorem all_or_nothing_two :
    AlwaysAllOrNothing askInjection (fun subHal => subHal.getD .NORMAL)
      ⟨[some .NORMAL, none], .NORMAL⟩ [.DATA_INJECTION, .NORMAL] :=
  all_or_nothing askInjection_contract ⟨[some .NORMAL, none], .NORMAL⟩
    (by unfold Uniform; decide) [.DATA_INJECTION, .NORMAL]

end OperationModes
end SensorsHal
