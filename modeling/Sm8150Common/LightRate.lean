import Sm8150Common.AlsCorrection
import Sm8150Common.Library.RateLimit

/-! # How often the display is looked at

Sensors may send light events at any rate.  `AlsCorrection::process` admits one of them every
100 ms (`AlsCorrection.cpp`, lines 183–199), takes a screenshot for some of those and passes on
those whose screenshot did not fail.

`light_rate` says that this is a rate limiter and nothing else: whatever brightness, forced
updates, failing screenshots and values it meets on the way, the events that are admitted are
those that `RateLimit.thin` keeps of the times alone.  So no window of time sees more
screenshots, or passes on more events, than its length allows.  An event is passed on if it
keeps its handle, and needs a screenshot if it would lose it without one. -/
namespace SensorsHal
namespace AlsState
variable (globals : AlsGlobals) (pow22 : Rat → Rat)

/-- The times of the events, of those that are handed to `process` one after the other, that
`keep` picks out. -/
def timesOf (keep : AlsState → Surroundings × Event → Bool) :
    AlsState → List (Surroundings × Event) → List Int
  | _, [] => []
  | state, reading :: readings =>
    let rest := timesOf keep (state.process globals pow22 reading.1 reading.2).2 readings
    if keep state reading then reading.1.now :: rest else rest

/-- The event does not come too fast. -/
def admits (state : AlsState) (reading : Surroundings × Event) : Bool :=
  !(state.arrive reading.1).2

/-- A screenshot is asked for. -/
def asksScreenshot (state : AlsState) (reading : Surroundings × Event) : Bool :=
  admits state reading && decide ((state.arrive reading.1).1.NeedsScreenshot globals
    (subtractBias globals.conf reading.2).u.scalar)

/-- The event is not dropped. -/
def passes (state : AlsState) (reading : Surroundings × Event) : Bool :=
  decide (¬ state.Drops globals reading.1 reading.2)

/-- As if there were no service. -/
def withoutScreenshot (reading : Surroundings × Event) : Surroundings × Event :=
  ({ reading.1 with screenshot := none }, reading.2)

/-- The times of some readings. -/
def times (readings : List (Surroundings × Event)) : List Int :=
  readings.map fun reading => reading.1.now

variable {globals pow22}

/-- What is picked out of more is more. -/
theorem timesOf_sublist {keep more : AlsState → Surroundings × Event → Bool}
    (h : ∀ state reading, keep state reading = true → more state reading = true)
    (state : AlsState) (readings : List (Surroundings × Event)) :
    (timesOf globals pow22 keep state readings).Sublist
      (timesOf globals pow22 more state readings) := by
  induction readings generalizing state with
  | nil => exact .slnil
  | cons reading readings ih =>
    have hrest := ih (state.process globals pow22 reading.1 reading.2).2
    dsimp only [timesOf]
    by_cases hkeep : keep state reading = true
    · rw [if_pos hkeep, if_pos (h state reading hkeep)]
      exact hrest.cons_cons _
    · rw [if_neg hkeep]
      split
      · exact hrest.cons _
      · exact hrest

/-- What is passed on keeps its handle. -/
theorem process_handle_passes (state : AlsState) (reading : Surroundings × Event) :
    (state.process globals pow22 reading.1 reading.2).1.sensorHandle =
      if passes globals state reading then reading.2.sensorHandle else 0#32 := by
  rw [process_sensorHandle]
  by_cases hdrop : state.Drops globals reading.1 reading.2
  · rw [if_pos hdrop, if_neg (by simp [passes, hdrop])]
  · rw [if_neg hdrop, if_pos (by simp [passes, hdrop])]

theorem drops_withoutScreenshot (state : AlsState) (reading : Surroundings × Event) :
    state.Drops globals (withoutScreenshot reading).1 (withoutScreenshot reading).2 ↔
      (state.arrive reading.1).2 = true ∨ (state.arrive reading.1).1.NeedsScreenshot globals
        (subtractBias globals.conf reading.2).u.scalar :=
  or_congr_right (and_iff_left rfl)

/-- A screenshot is asked for if the event would be dropped without it. -/
theorem asksScreenshot_eq (state : AlsState) (reading : Surroundings × Event) :
    asksScreenshot globals state reading =
      (admits state reading && !passes globals state (withoutScreenshot reading)) := by
  rw [Bool.eq_iff_iff]
  simp only [asksScreenshot, admits, passes, drops_withoutScreenshot, Bool.and_eq_true,
    Bool.not_eq_true', decide_eq_true_eq, decide_eq_false_iff_not, not_not]
  refine and_congr_right fun hslow => ?_
  rw [hslow]
  simp

/-- Whatever else `process` does, it leaves the clock as the arrival of the event did. -/
theorem process_lastUpdate (state : AlsState) (reading : Surroundings × Event) :
    (state.process globals pow22 reading.1 reading.2).2.lastUpdate =
      (state.arrive reading.1).1.lastUpdate := by
  rcases state.process_cases globals pow22 reading.1 reading.2 with
    ⟨-, -, h⟩ | ⟨-, -, lux, next, h, -, -, -, hnext, -⟩ | ⟨-, -, -, h⟩
  · rw [h]
  · rw [h]
    exact hnext
  · rw [h]

/-- Only the clock decides whether an event comes too fast. -/
theorem arrive_admitted (state : AlsState) (around : Surroundings) :
    (state.arrive around).2 = decide (state.lastUpdate ≠ 0 ∧
      around.now - state.lastUpdate < 100000000) ∧
    (state.arrive around).1.lastUpdate =
      if (state.arrive around).2 then state.lastUpdate else around.now := by
  unfold arrive
  by_cases hfirst : state.lastUpdate = 0
  · simp [hfirst]
  · by_cases hforce : 0 < around.brightness ∧ 3000000000 < around.now - state.lastForcedUpdate
    · by_cases hfast : around.now - state.lastUpdate < 100000000
      · simp [hfirst, hforce, hfast]
      · simp [hfirst, hforce, hfast]
    · by_cases hfast : around.now - state.lastUpdate < 100000000
      · simp [hfirst, hforce, hfast]
      · simp [hfirst, hforce, hfast]

/-- After an event at `lastUpdate`, the limiter keeps what `thinAfter` keeps. -/
theorem timesOf_admits (state : AlsState) (hstate : state.lastUpdate ≠ 0)
    {readings : List (Surroundings × Event)} (hnonzero : ∀ t ∈ times readings, t ≠ 0) :
    timesOf globals pow22 admits state readings =
      RateLimit.thinAfter 100000000 state.lastUpdate (times readings) := by
  induction readings generalizing state with
  | nil => rfl
  | cons reading readings ih =>
    have hnow : reading.1.now ≠ 0 := hnonzero _ List.mem_cons_self
    have hrest : ∀ t ∈ times readings, t ≠ 0 := fun t ht => hnonzero t (List.mem_cons_of_mem _ ht)
    obtain ⟨hfast, hlast⟩ := arrive_admitted state reading.1
    have hnext := @process_lastUpdate globals pow22 state reading
    show (if admits state reading then
        reading.1.now :: timesOf globals pow22 admits _ readings
      else timesOf globals pow22 admits _ readings) =
        if reading.1.now - state.lastUpdate < 100000000 then _ else _
    by_cases hgap : reading.1.now - state.lastUpdate < 100000000
    · -- too fast: the time of the last update stays
      have htoo : (state.arrive reading.1).2 = true := by
        rw [hfast]
        exact decide_eq_true ⟨hstate, hgap⟩
      rw [htoo, if_pos rfl] at hlast
      rw [if_pos hgap, if_neg (by simp [admits, htoo]), ih _ (by rw [hnext, hlast]; exact hstate) hrest,
        hnext, hlast]
      rfl
    · have hslow : (state.arrive reading.1).2 = false := by
        rw [hfast]
        exact decide_eq_false fun h => hgap h.2
      rw [hslow, if_neg Bool.false_ne_true] at hlast
      rw [if_neg hgap, if_pos (by simp [admits, hslow]), ih _ (by rw [hnext, hlast]; exact hnow) hrest,
        hnext, hlast]
      rfl

/-- The first event of all is admitted. -/
theorem timesOf_admits_start {readings : List (Surroundings × Event)}
    (hnonzero : ∀ t ∈ times readings, t ≠ 0) :
    timesOf globals pow22 admits AlsState.start readings =
      RateLimit.thin 100000000 (times readings) := by
  cases readings with
  | nil => rfl
  | cons reading readings =>
    have hnow : reading.1.now ≠ 0 := hnonzero _ List.mem_cons_self
    have hlast : (AlsState.start.process globals pow22 reading.1 reading.2).2.lastUpdate =
        reading.1.now := process_lastUpdate AlsState.start reading
    show reading.1.now :: timesOf globals pow22 admits _ readings = _
    rw [timesOf_admits _ (by rw [hlast]; exact hnow)
      fun t ht => hnonzero t (List.mem_cons_of_mem _ ht), hlast]
    rfl

/-- **The light correction is a rate limiter.**  For light events at any non-decreasing times
other than zero: which of them are admitted depends on the times alone, and every event comes
less than 100 ms after one that was admitted, if it is not admitted itself; and in no window
are more screenshots asked for, or more events passed on, than one for every 100 ms of its
length, and one more.  Here `process` leaves an event that is passed on its handle, and gives
any other the handle 0; and a screenshot is asked for by those that are admitted and would not
be passed on without one. -/
theorem light_rate {readings : List (Surroundings × Event)} (hnonzero : ∀ t ∈ times readings, t ≠ 0)
    (hsorted : (times readings).Pairwise (· ≤ ·)) {w : Int} (hw : 0 ≤ w) (a : Int) :
    timesOf globals pow22 admits AlsState.start readings =
      RateLimit.thin 100000000 (times readings) ∧
    (∀ t ∈ times readings, ∃ k ∈ timesOf globals pow22 admits AlsState.start readings,
      k ≤ t ∧ t < k + 100000000) ∧
    (((timesOf globals pow22 (asksScreenshot globals) AlsState.start readings).countP
      fun t => a ≤ t ∧ t ≤ a + w : Nat) : Int) ≤ w / 100000000 + 1 ∧
    (((timesOf globals pow22 (passes globals) AlsState.start readings).countP
      fun t => a ≤ t ∧ t ≤ a + w : Nat) : Int) ≤ w / 100000000 + 1 ∧
    ∀ (state : AlsState) (reading : Surroundings × Event),
      (state.process globals pow22 reading.1 reading.2).1.sensorHandle =
          (if passes globals state reading then reading.2.sensorHandle else 0#32) ∧
        asksScreenshot globals state reading =
          (admits state reading && !passes globals state (withoutScreenshot reading)) := by
  have hadmits := @timesOf_admits_start globals pow22 readings hnonzero
  have hspaced := RateLimit.spaced_thin (d := (100000000 : Int)) (by decide) (times readings)
  rw [← hadmits] at hspaced
  have hcount : ∀ keep : AlsState → Surroundings × Event → Bool,
      (∀ state reading, keep state reading = true → admits state reading = true) →
      (((timesOf globals pow22 keep AlsState.start readings).countP
        fun t => a ≤ t ∧ t ≤ a + w : Nat) : Int) ≤ w / 100000000 + 1 := fun keep hkeep =>
    (hspaced.sublist (timesOf_sublist hkeep _ _)).countP_window_le (by decide) hw a
  refine ⟨hadmits, ?_, hcount _ fun state reading h => ?_, hcount _ fun state reading h => ?_,
    fun state reading => ⟨process_handle_passes state reading, asksScreenshot_eq state reading⟩⟩
  · rw [hadmits]
    exact RateLimit.covered_thin (by decide) hsorted
  · exact (Bool.and_eq_true_iff.mp h).1
  · -- an event that comes too fast is dropped
    have hkept := of_decide_eq_true h
    rw [Drops, not_or] at hkept
    simp [admits, hkept.1]

/-- The second of three events, 50 ms after the first, is not admitted. -/
theorem light_rate_three :
    timesOf (AlsGlobals.init halfGainFiles AlsGlobals.start) id admits AlsState.start
      [(⟨1, 5, none⟩, ⟨7#32, 5, ⟨100, 0, 0#32⟩⟩), (⟨50000001, 5, none⟩, ⟨7#32, 5, ⟨100, 0, 0#32⟩⟩),
        (⟨100000001, 5, none⟩, ⟨7#32, 5, ⟨100, 0, 0#32⟩⟩)] = [1, 100000001] :=
  (light_rate (by decide) (by decide) (Int.le_refl 0) 0).1.trans (by decide)

end AlsState
end SensorsHal
