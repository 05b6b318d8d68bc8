import Sm8150Common.AlsConfig
import Sm8150Common.Library.StepMachine

/-! # The light correction

`AlsCorrection::process` (`AlsCorrection.cpp`, lines 171–285) takes the light of
the display off the reading of the sensor below it.  That takes a screenshot of
the area above the sensor, so the full correction is made only when it is forced
or the reading leaves a hysteresis range; otherwise the last corrected value is
passed on again.  Events that come too fast, or whose screenshot fails, are to be
dropped.

Arithmetic is exact, and `pow22` stands for the power 2.2.  The last screenshot is
a static of the source that is overwritten before each use.  `process_cases` says
what `process` does with an event; `passed_on_fresh` bounds the age of the values
it passes on. -/
namespace SensorsHal

/-- The mean color of the area above the sensor. -/
structure AreaRgbCaptureResult where
  r : Rat
  g : Rat
  b : Rat
  deriving DecidableEq, Repr

/-- What `process` finds around an event: the clock since boot, the brightness
file, and a screenshot unless there is no service or its call fails. -/
structure Surroundings where
  now : Int
  brightness : Rat
  screenshot : Option AreaRgbCaptureResult
  deriving DecidableEq, Repr

/-- The global `state` (lines 71–82). -/
structure AlsState where
  lastUpdate : Int
  lastForcedUpdate : Int
  forceUpdate : Bool
  hystMin : Rat
  hystMax : WithTop Rat
  lastCorrectedValue : Rat
  lastAgcGain : Rat

def AlsState.start : AlsState :=
  { lastUpdate := 0, lastForcedUpdate := 0, forceUpdate := true, hystMin := -1,
    hystMax := (-1 : Rat), lastCorrectedValue := 0, lastAgcGain := 0 }

/-- Lines 176–178. -/
def subtractBias (conf : AlsConfig) (event : Event) : Event :=
  if conf.bias < event.u.scalar then
    { event with u := { event.u with scalar := event.u.scalar - conf.bias } }
  else event

@[simp] theorem subtractBias_sensorHandle (conf : AlsConfig) (event : Event) :
    (subtractBias conf event).sensorHandle = event.sensorHandle := by
  unfold subtractBias
  split <;> rfl

namespace AlsState
variable (globals : AlsGlobals) (pow22 : Rat → Rat) (state : AlsState)

/-- Lines 183–199: the state after the look at the clock, and whether the event
came too fast. -/
def arrive (around : Surroundings) : AlsState × Bool :=
  if state.lastUpdate = 0 then
    ({ state with lastUpdate := around.now, lastForcedUpdate := around.now }, false)
  else
    let state :=
      if 0 < around.brightness ∧ 3000000000 < around.now - state.lastForcedUpdate then
        { state with lastForcedUpdate := around.now, forceUpdate := true }
      else state
    if around.now - state.lastUpdate < 100000000 then (state, true)
    else ({ state with lastUpdate := around.now }, false)

/-- Lines 201–204. -/
def NeedsScreenshot (scalar : Rat) : Prop :=
  let sensorRawCalibrated := scalar * globals.conf.calibGain * state.lastAgcGain
  state.forceUpdate = true ∨
    ((scalar < state.hystMin ∨ state.hystMax < (scalar : WithTop Rat)) ∧
      (sensorRawCalibrated < 10 ∨ 5 / (7 / 100) < sensorRawCalibrated))

instance (scalar : Rat) : Decidable (state.NeedsScreenshot globals scalar) :=
  inferInstanceAs (Decidable (_ ∨ (_ ∨ _) ∧ (_ ∨ _)))

end AlsState

section Correction
variable (conf : AlsConfig) (pow22 : Rat → Rat)

/-- The color and its gray value (lines 214–219). -/
def rgbwOf (screenshot : AreaRgbCaptureResult) : Fin 4 → Rat
  | 0 => screenshot.r
  | 1 => screenshot.g
  | 2 => screenshot.b
  | 3 => screenshot.r * conf.grayscaleWeights 0 + screenshot.g * conf.grayscaleWeights 1 +
      screenshot.b * conf.grayscaleWeights 2

/-- Lines 222–227: a polynomial of one channel. -/
def channelCorrection (rgbw : Fin 4 → Rat) (i : Fin 4) : Rat :=
  (List.finRange 4).foldl (fun corr j => corr * rgbw i + conf.rgbwPoly i j) 0 *
    conf.rgbwLuxPostmul i

/-- Line 235. -/
def brightnessFullwhite (brightness : Rat) : Rat :=
  conf.rgbwMaxLux white * brightness / conf.maxBrightness

/-- The light of the display (lines 220–238). -/
def cumulativeCorrection (brightness : Rat) (screenshot : AreaRgbCaptureResult) : Rat :=
  let rgbw := rgbwOf conf screenshot
  let colors := max (channelCorrection conf rgbw red) 0 +
    max (channelCorrection conf rgbw green) 0 + max (channelCorrection conf rgbw blue) 0 -
    channelCorrection conf rgbw white
  let estimate := colors * (brightness / conf.maxBrightness)
  let brightnessGrayscaleGamma := pow22 (rgbw white / 255) * brightnessFullwhite conf brightness
  max (min estimate (brightnessFullwhite conf brightness)) brightnessGrayscaleGamma

/-- `a / b > c` of floats: a quotient by zero is infinite, or no number. -/
def quotientAbove (a b c : Rat) : Bool :=
  if b = 0 then decide (0 < a) else decide (c < a / b)

/-- Lines 243–256. -/
def agcGainOf (sensorRawCorrected data2 : Rat) : Rat :=
  if conf.agcThreshold < sensorRawCorrected then
    let gainEstimateAbove :=
      if conf.hbr then quotientAbove (data2 * 1000) sensorRawCorrected
      else quotientAbove sensorRawCorrected data2
    (List.finRange 4).foldl
      (fun agcGain i =>
        if gainEstimateAbove (conf.sensorGaincalPoints i) then conf.sensorInverseGain i
        else agcGain)
      conf.baseGain
  else conf.baseGain

end Correction

/-- The intermediate results of a correction (lines 214–257). -/
structure Estimate where
  cumulative : Rat
  rawCorrected : Rat
  agcGain : Rat

namespace AlsState
variable (globals : AlsGlobals) (pow22 : Rat → Rat) (state : AlsState)

def estimate (brightness : Rat) (screenshot : AreaRgbCaptureResult) (event : Event) : Estimate :=
  let cumulative := cumulativeCorrection globals.conf pow22 brightness screenshot
  let rawCorrected := max (event.u.scalar - cumulative) 0
  ⟨cumulative, rawCorrected, agcGainOf globals.conf rawCorrected event.u.data2⟩

/-- Lines 259–261. -/
def TrustsEstimate (scalar : Rat) (e : Estimate) : Prop :=
  e.cumulative ≤ scalar * (135 / 100) ∨ scalar * globals.conf.calibGain * e.agcGain < 10000 ∨
    state.forceUpdate = true

instance (scalar : Rat) (e : Estimate) : Decidable (state.TrustsEstimate globals scalar e) :=
  inferInstanceAs (Decidable (_ ∨ _ ∨ _))

/-- Lines 264–270: the range the corrected value falls into. -/
def storeRange (sensorCorrected fullwhite : Rat) : AlsState :=
  match globals.hysteresisRanges.find? fun range =>
      decide ((sensorCorrected : WithTop Rat) ≤ range.middle) with
  | some range => { state with hystMin := range.min, hystMax := range.max.map (· + fullwhite) }
  | none => state

/-- The event with the last corrected value. -/
def reuse (event : Event) : Event :=
  { event with u := { event.u with scalar := state.lastCorrectedValue } }

/-- Lines 214–280, with a screenshot. -/
def correct (brightness : Rat) (screenshot : AreaRgbCaptureResult) (event : Event) :
    Event × AlsState :=
  let e := estimate globals pow22 brightness screenshot event
  if state.TrustsEstimate globals event.u.scalar e then
    let sensorCorrected := e.rawCorrected * globals.conf.calibGain * e.agcGain
    let lux := max (sensorCorrected - 14) 0
    let ranged :=
      state.storeRange globals sensorCorrected (brightnessFullwhite globals.conf brightness)
    ({ event with u := { event.u with scalar := lux } },
      { ranged with lastAgcGain := e.agcGain, lastCorrectedValue := lux, forceUpdate := false })
  else (state.reuse event, { state with forceUpdate := false })

/-- `AlsCorrection::process`. -/
def process (around : Surroundings) (event : Event) : Event × AlsState :=
  let event := subtractBias globals.conf event
  let (state, tooFast) := state.arrive around
  if tooFast then ({ event with sensorHandle := 0#32 }, state)
  else if state.NeedsScreenshot globals event.u.scalar then
    match around.screenshot with
    | none => ({ event with sensorHandle := 0#32 }, state)
    | some screenshot => state.correct globals pow22 around.brightness screenshot event
  else (state.reuse event, state)

/-! ## What becomes of an event -/

/-- `process` decides to drop the event: it came too fast, or needs a screenshot
that fails. -/
def Drops (around : Surroundings) (event : Event) : Prop :=
  (state.arrive around).2 = true ∨
    (state.arrive around).1.NeedsScreenshot globals (subtractBias globals.conf event).u.scalar ∧
      around.screenshot = none

instance (around : Surroundings) (event : Event) : Decidable (state.Drops globals around event) :=
  inferInstanceAs (Decidable (_ ∨ _ ∧ _))

/-- `process` corrects the event in full. -/
def FullyCorrects (around : Surroundings) (event : Event) : Prop :=
  (state.arrive around).2 = false ∧
    (state.arrive around).1.NeedsScreenshot globals (subtractBias globals.conf event).u.scalar ∧
    ∃ screenshot ∈ around.screenshot,
      (state.arrive around).1.TrustsEstimate globals (subtractBias globals.conf event).u.scalar
        (estimate globals pow22 around.brightness screenshot (subtractBias globals.conf event))

instance (around : Surroundings) (event : Event) :
    Decidable (state.FullyCorrects globals pow22 around event) :=
  inferInstanceAs (Decidable (_ ∧ _ ∧ _))

@[simp] theorem storeRange_lastUpdate (sensorCorrected fullwhite : Rat) :
    (state.storeRange globals sensorCorrected fullwhite).lastUpdate = state.lastUpdate := by
  unfold storeRange
  split <;> rfl

@[simp] theorem storeRange_lastForcedUpdate (sensorCorrected fullwhite : Rat) :
    (state.storeRange globals sensorCorrected fullwhite).lastForcedUpdate =
      state.lastForcedUpdate := by
  unfold storeRange
  split <;> rfl

/-- The look at the clock: the first event starts both clocks; later the update
is forced, or nothing but the time of the last event changes. -/
theorem arrive_cases (around : Surroundings) :
    (state.lastUpdate = 0 ∧ state.arrive around =
      ({ state with lastUpdate := around.now, lastForcedUpdate := around.now }, false)) ∨
    state.lastUpdate ≠ 0 ∧
      ((state.arrive around).1.lastUpdate = state.lastUpdate ∨
        (state.arrive around).1.lastUpdate = around.now) ∧
      (state.arrive around).1.lastCorrectedValue = state.lastCorrectedValue ∧
      (((state.arrive around).1.forceUpdate = true ∧
          (state.arrive around).1.lastForcedUpdate = around.now) ∨
        (state.arrive around).1.forceUpdate = state.forceUpdate ∧
          (state.arrive around).1.lastForcedUpdate = state.lastForcedUpdate ∧
          ¬ (0 < around.brightness ∧ 3000000000 < around.now - state.lastForcedUpdate)) := by
  unfold arrive
  split
  · rename_i h
    exact Or.inl ⟨h, rfl⟩
  · rename_i h
    refine Or.inr ⟨h, ?_⟩
    dsimp only
    by_cases hforce : 0 < around.brightness ∧ 3000000000 < around.now - state.lastForcedUpdate
    · rw [if_pos hforce]
      split
      · exact ⟨Or.inl rfl, rfl, Or.inl ⟨rfl, rfl⟩⟩
      · exact ⟨Or.inr rfl, rfl, Or.inl ⟨rfl, rfl⟩⟩
    · rw [if_neg hforce]
      split
      · exact ⟨Or.inl rfl, rfl, Or.inr ⟨rfl, rfl, hforce⟩⟩
      · exact ⟨Or.inr rfl, rfl, Or.inr ⟨rfl, rfl, hforce⟩⟩

/-- With a screenshot: the estimate is trusted, and the corrected value, which is
not negative, is remembered; or the remembered value is passed on, no update being
forced. -/
theorem correct_cases (brightness : Rat) (screenshot : AreaRgbCaptureResult) (event : Event) :
    (state.TrustsEstimate globals event.u.scalar
        (estimate globals pow22 brightness screenshot event) ∧
      ∃ lux next, state.correct globals pow22 brightness screenshot event =
          ({ event with u := { event.u with scalar := lux } }, next) ∧
        0 ≤ lux ∧ next.lastCorrectedValue = lux ∧ next.forceUpdate = false ∧
        next.lastUpdate = state.lastUpdate ∧ next.lastForcedUpdate = state.lastForcedUpdate) ∨
    (¬ state.TrustsEstimate globals event.u.scalar
        (estimate globals pow22 brightness screenshot event) ∧
      state.forceUpdate = false ∧
      state.correct globals pow22 brightness screenshot event = (state.reuse event, state)) := by
  unfold correct
  dsimp only
  by_cases htrust : state.TrustsEstimate globals event.u.scalar
      (estimate globals pow22 brightness screenshot event)
  · rw [if_pos htrust]
    exact Or.inl ⟨htrust, _, _, rfl, le_max_right _ _, rfl, rfl, storeRange_lastUpdate ..,
      storeRange_lastForcedUpdate ..⟩
  · rw [if_neg htrust]
    have hforce : state.forceUpdate = false := by
      by_contra h
      exact htrust (Or.inr (Or.inr (Bool.eq_true_of_not_eq_false h)))
    refine Or.inr ⟨htrust, hforce, ?_⟩
    rw [← hforce]

/-- **What `process` does**: it drops the event by giving it the handle 0; or it
corrects it in full, to a value that is not negative, and remembers the value; or
it passes on the value it remembers, no update being forced. -/
theorem process_cases (around : Surroundings) (event : Event) :
    (state.Drops globals around event ∧ ¬ state.FullyCorrects globals pow22 around event ∧
      state.process globals pow22 around event =
        ({ subtractBias globals.conf event with sensorHandle := 0#32 }, (state.arrive around).1)) ∨
    (¬ state.Drops globals around event ∧ state.FullyCorrects globals pow22 around event ∧
      ∃ lux next, state.process globals pow22 around event =
          ({ subtractBias globals.conf event with
              u := { (subtractBias globals.conf event).u with scalar := lux } }, next) ∧
        0 ≤ lux ∧ next.lastCorrectedValue = lux ∧ next.forceUpdate = false ∧
        next.lastUpdate = (state.arrive around).1.lastUpdate ∧
        next.lastForcedUpdate = (state.arrive around).1.lastForcedUpdate) ∨
    (¬ state.Drops globals around event ∧ ¬ state.FullyCorrects globals pow22 around event ∧
      (state.arrive around).1.forceUpdate = false ∧
      state.process globals pow22 around event =
        ((state.arrive around).1.reuse (subtractBias globals.conf event),
          (state.arrive around).1)) := by
  unfold Drops FullyCorrects process
  dsimp only
  generalize subtractBias globals.conf event = event
  generalize state.arrive around = arrival
  obtain ⟨arrived, tooFast⟩ := arrival
  cases tooFast with
  | true =>
    -- dropped before anything else is looked at
    exact Or.inl ⟨Or.inl rfl, fun h => absurd h.1 Bool.true_eq_false_eq_False, rfl⟩
  | false =>
    rw [if_neg Bool.false_ne_true]
    by_cases hneeds : arrived.NeedsScreenshot globals event.u.scalar
    · rw [if_pos hneeds]
      cases hshot : around.screenshot with
      | none =>
        refine Or.inl ⟨Or.inr ⟨hneeds, rfl⟩, ?_, rfl⟩
        rintro ⟨-, -, _, hmem, -⟩
        cases hmem
      | some screenshot =>
        have hkeep : ¬ (false = true ∨ arrived.NeedsScreenshot globals event.u.scalar ∧
            some screenshot = none) := by
          rintro (h | ⟨-, h⟩) <;> cases h
        rcases arrived.correct_cases globals pow22 around.brightness screenshot event with
          ⟨htrust, hcorrect⟩ | ⟨htrust, hforce, hcorrect⟩
        · exact Or.inr (Or.inl ⟨hkeep, ⟨rfl, hneeds, screenshot, rfl, htrust⟩, hcorrect⟩)
        · refine Or.inr (Or.inr ⟨hkeep, ?_, hforce, hcorrect⟩)
          rintro ⟨-, -, _, hmem, h⟩
          cases hmem
          exact htrust h
    · rw [if_neg hneeds]
      have hforce : arrived.forceUpdate = false := by
        by_contra h
        exact hneeds (Or.inl (Bool.eq_true_of_not_eq_false h))
      refine Or.inr (Or.inr ⟨?_, fun h => hneeds h.2.1, hforce, rfl⟩)
      rintro (h | ⟨h, -⟩)
      · cases h
      · exact hneeds h

/-- **Who is dropped**: the handle says it, and nothing else changes it. -/
theorem process_sensorHandle (around : Surroundings) (event : Event) :
    (state.process globals pow22 around event).1.sensorHandle =
      if state.Drops globals around event then 0#32 else event.sensorHandle := by
  rcases state.process_cases globals pow22 around event with
    ⟨hdrop, -, hproc⟩ | ⟨hkeep, -, lux, next, hproc, -⟩ | ⟨hkeep, -, -, hproc⟩
  · rw [if_pos hdrop, hproc]
  · rw [if_neg hkeep, hproc]
    exact subtractBias_sensorHandle _ _
  · rw [if_neg hkeep, hproc]
    exact subtractBias_sensorHandle _ _

variable {globals pow22 state} in
/-- What a full correction does. -/
theorem process_of_fullyCorrects {around : Surroundings} {event : Event}
    {screenshot : AreaRgbCaptureResult} (hshot : around.screenshot = some screenshot)
    (hfull : state.FullyCorrects globals pow22 around event) :
    let reading := subtractBias globals.conf event
    let e := estimate globals pow22 around.brightness screenshot reading
    let sensorCorrected := e.rawCorrected * globals.conf.calibGain * e.agcGain
    state.process globals pow22 around event =
      ({ reading with u := { reading.u with scalar := max (sensorCorrected - 14) 0 } },
        { (state.arrive around).1.storeRange globals sensorCorrected
            (brightnessFullwhite globals.conf around.brightness) with
          lastAgcGain := e.agcGain
          lastCorrectedValue := max (sensorCorrected - 14) 0
          forceUpdate := false }) := by
  obtain ⟨hslow, hneeds, other, hmem, htrust⟩ := hfull
  obtain rfl : screenshot = other := Option.some.inj (hshot.symm.trans hmem)
  intro reading e sensorCorrected
  unfold process
  dsimp only
  rw [hslow, if_neg Bool.false_ne_true, if_pos hneeds, hshot]
  exact if_pos htrust

/-- The value of a full correction (lines 220–276). -/
def correctedLux (brightness : Rat) (screenshot : AreaRgbCaptureResult) (event : Event) : Rat :=
  let e := estimate globals pow22 brightness screenshot event
  max (e.rawCorrected * globals.conf.calibGain * e.agcGain - 14) 0

end AlsState

/-! ## How old a value may be -/

/-- A run of the correction, with the most recent full correction of the run as
ghost state: when it was made, and its value. -/
structure AlsRun where
  state : AlsState
  /-- The time of the last event. -/
  clock : Int
  correction : Option (Int × Rat)

namespace AlsRun
variable (globals : AlsGlobals) (pow22 : Rat → Rat)

/-- After one more event. -/
def next (s : AlsRun) (reading : Surroundings × Event) : AlsRun :=
  { state := (s.state.process globals pow22 reading.1 reading.2).2
    clock := reading.1.now
    correction :=
      match reading.1.screenshot with
      | some screenshot =>
        if s.state.FullyCorrects globals pow22 reading.1 reading.2 then
          some (reading.1.now, AlsState.correctedLux globals pow22 reading.1.brightness screenshot
            (subtractBias globals.conf reading.2))
        else s.correction
      | none => s.correction }

def step (s : AlsRun) (reading : Surroundings × Event) : Option AlsRun :=
  if s.clock ≤ reading.1.now ∧ reading.1.now ≠ 0 then some (s.next globals pow22 reading) else none

/-- Light events at non-decreasing times other than zero, from the initial state. -/
def machine : StepMachine AlsRun (Surroundings × Event) where
  init s := s.state = AlsState.start ∧ s.correction = none
  step := step globals pow22

variable {globals pow22} in
theorem step_of_later {s : AlsRun} (reading : Surroundings × Event)
    (hclock : s.clock ≤ reading.1.now) (hzero : reading.1.now ≠ 0) :
    (machine globals pow22).step s reading = some (s.next globals pow22 reading) :=
  if_pos ⟨hclock, hzero⟩

/-- Unless an update is forced, the remembered value is that of the most recent
correction, which is not older than the last time an update was forced. -/
structure Invariant (s : AlsRun) : Prop where
  first : s.state.lastUpdate = 0 → s.state.forceUpdate = true
  forced_le : s.state.lastUpdate ≠ 0 → s.state.lastForcedUpdate ≤ s.clock
  corrected : s.state.forceUpdate = false → ∃ time value, s.correction = some (time, value) ∧
    s.state.lastForcedUpdate ≤ time ∧ s.state.lastCorrectedValue = value ∧ 0 ≤ value

/-- The update last forced is not later than an event that has arrived. -/
theorem Invariant.arrive_forced_le {s : AlsRun} (hs : s.Invariant) {around : Surroundings}
    (hclock : s.clock ≤ around.now) : (s.state.arrive around).1.lastForcedUpdate ≤ around.now := by
  rcases s.state.arrive_cases around with ⟨-, harr⟩ | ⟨hne, -, -, ⟨-, hlast⟩ | ⟨-, hlast, -⟩⟩
  · rw [harr]
  · rw [hlast]
  · rw [hlast]
    exact le_trans (hs.forced_le hne) hclock

/-- After an event that has arrived, the next one is not the first. -/
theorem arrive_lastUpdate_ne_zero (state : AlsState) {around : Surroundings}
    (hzero : around.now ≠ 0) : (state.arrive around).1.lastUpdate ≠ 0 := by
  rcases state.arrive_cases around with ⟨-, harr⟩ | ⟨hne, hlast | hlast, -, -⟩
  · rw [harr]
    exact hzero
  · rw [hlast]
    exact hne
  · rw [hlast]
    exact hzero

/-- While no update is forced, the remembered value is still that of the most recent
correction, and with the display on the correction is recent. -/
theorem Invariant.arrive_corrected {s : AlsRun} (hs : s.Invariant) {around : Surroundings}
    (hno : (s.state.arrive around).1.forceUpdate = false) : ∃ time value,
      s.correction = some (time, value) ∧
      (s.state.arrive around).1.lastForcedUpdate ≤ time ∧
      (s.state.arrive around).1.lastCorrectedValue = value ∧ 0 ≤ value ∧
      (0 < around.brightness → around.now - time ≤ 3000000000) := by
  rcases s.state.arrive_cases around with
    ⟨hfirst, harr⟩ | ⟨hne, -, hvalue, ⟨hforce, -⟩ | ⟨hforce, hlast, hrecent⟩⟩
  · -- before the first event an update is forced
    rw [harr] at hno
    rw [hs.first hfirst] at hno
    cases hno
  · rw [hforce] at hno
    cases hno
  · rw [hforce] at hno
    obtain ⟨time, value, hcorr, htime, hval, hpos⟩ := hs.corrected hno
    refine ⟨time, value, hcorr, ?_, hvalue.trans hval, hpos, fun hbright => ?_⟩
    · rw [hlast]
      exact htime
    · -- or this event would have forced an update
      have := not_and.mp hrecent hbright
      omega

section Next
variable {globals pow22} {s : AlsRun} {around : Surroundings} {event : Event}

theorem next_of_not (hnot : ¬ s.state.FullyCorrects globals pow22 around event) :
    s.next globals pow22 (around, event) =
      ⟨(s.state.process globals pow22 around event).2, around.now, s.correction⟩ := by
  rw [next]
  dsimp only
  cases around.screenshot with
  | none => rfl
  | some screenshot => exact congrArg _ (if_neg hnot)

theorem next_of_fullyCorrects {screenshot : AreaRgbCaptureResult}
    (hshot : around.screenshot = some screenshot)
    (hfull : s.state.FullyCorrects globals pow22 around event) :
    s.next globals pow22 (around, event) =
      ⟨(s.state.process globals pow22 around event).2, around.now,
        some (around.now, AlsState.correctedLux globals pow22 around.brightness screenshot
          (subtractBias globals.conf event))⟩ := by
  rw [next]
  dsimp only
  rw [hshot]
  exact congrArg _ (if_pos hfull)

end Next

/-- What an event leaves with: the handle 0 if it is dropped; else its own handle and the value
of the most recent correction. -/
def PassesFresh (s t : AlsRun) (around : Surroundings) (event : Event) : Prop :=
  let passed := (s.state.process globals pow22 around event).1
  passed.sensorHandle = (if s.state.Drops globals around event then 0#32 else event.sensorHandle) ∧
    (¬ s.state.Drops globals around event →
      ∃ time value, t.correction = some (time, value) ∧ passed.u.scalar = value ∧ 0 ≤ value ∧
        (0 < around.brightness → around.now - time ≤ 3000000000))

/-- What a step passes on, and the invariant after it. -/
theorem step_spec {globals : AlsGlobals} {pow22 : Rat → Rat} {s t : AlsRun} (hs : Invariant s)
    {around : Surroundings} {event : Event} (h : s.step globals pow22 (around, event) = some t) :
    Invariant t ∧ PassesFresh globals pow22 s t around event := by
  obtain ⟨⟨hclock, hzero⟩, rfl⟩ :=
    Option.ite_none_right_eq_some.mp h |>.imp_right Option.some.inj
  have hforced := hs.arrive_forced_le hclock
  have hupdate := arrive_lastUpdate_ne_zero s.state hzero
  rw [PassesFresh, and_iff_right (s.state.process_sensorHandle globals pow22 around event)]
  rcases s.state.process_cases globals pow22 around event with
    ⟨hdrop, hnot, hproc⟩ | ⟨-, hfull, lux, next, hproc, hlux, hvalue, hforce, hnext, hnextf⟩ |
      ⟨-, hnot, hforce, hproc⟩
  · rw [next_of_not hnot, hproc]
    refine ⟨⟨fun h => absurd h hupdate, fun _ => hforced, fun hno => ?_⟩, fun h => absurd hdrop h⟩
    obtain ⟨time, value, hcorr, htime, hval, hpos, -⟩ := hs.arrive_corrected hno
    exact ⟨time, value, hcorr, htime, hval, hpos⟩
  · obtain ⟨screenshot, hshot, -⟩ := hfull.2.2
    -- the value that is remembered and passed on is the one computed from the screenshot
    have hexact : AlsState.correctedLux globals pow22 around.brightness screenshot
        (subtractBias globals.conf event) = lux := by
      have hcomputed := AlsState.process_of_fullyCorrects hshot hfull
      exact (congrArg (fun passed : Event × AlsState => passed.1.u.scalar) hcomputed).symm.trans
        (congrArg (fun passed : Event × AlsState => passed.1.u.scalar) hproc)
    rw [next_of_fullyCorrects hshot hfull, hproc, hexact]
    refine ⟨⟨fun h => absurd (hnext ▸ h) hupdate, fun _ => hnextf ▸ hforced, fun _ => ?_⟩,
      fun _ => ?_⟩
    · exact ⟨around.now, lux, rfl, hnextf ▸ hforced, hvalue, hlux⟩
    · exact ⟨around.now, lux, rfl, rfl, hlux, fun _ => by omega⟩
  · rw [next_of_not hnot, hproc]
    obtain ⟨time, value, hcorr, htime, hval, hpos, hage⟩ := hs.arrive_corrected hforce
    exact ⟨⟨fun h => absurd h hupdate, fun _ => hforced,
      fun _ => ⟨time, value, hcorr, htime, hval, hpos⟩⟩,
      fun _ => ⟨time, value, hcorr, hval, hpos, hage⟩⟩

/-- **The values passed on are fresh.**  Every event that is not dropped carries
the value, which is not negative, of the most recent full correction of the run,
which may be its own; and if the display was on, that correction is at most three
seconds old. -/
theorem passed_on_fresh {globals : AlsGlobals} {pow22 : Rat → Rat} {s t : AlsRun}
    (h : (machine globals pow22).Reachable s) {around : Surroundings} {event : Event}
    (hstep : (machine globals pow22).step s (around, event) = some t) :
    PassesFresh globals pow22 s t around event := by
  have hs : Invariant s := by
    refine h.invariant ?_ fun _ _ _ hs ht => (step_spec hs ht).1
    rintro s ⟨hstate, -⟩
    refine ⟨fun _ => ?_, fun hne => ?_, fun hno => ?_⟩
    · rw [hstate]
      rfl
    · rw [hstate] at hne
      exact absurd rfl hne
    · rw [hstate] at hno
      cases hno
  exact (step_spec hs hstep).2

/-- A light event of 100, at the given time, with the display at 5 and black. -/
def steadyLight (now : Int) : Surroundings × Event :=
  (⟨now, 5, some ⟨0, 0, 0⟩⟩, ⟨7#32, SENSOR_TYPE_QTI_WISE_LIGHT, ⟨100, 0, 0#32⟩⟩)

/-- The first event is corrected in full; the second one, 200 ms later, carries
the same value. -/
theorem passed_on_fresh_second :
    let globals := AlsGlobals.init halfGainFiles AlsGlobals.start
    ∃ s t : AlsRun, (machine globals id).Reachable s ∧ s.correction = some (1, 186) ∧
      t.correction = some (1, 186) ∧
      ¬ s.state.Drops globals (steadyLight 200000001).1 (steadyLight 200000001).2 ∧
      PassesFresh globals id s t (steadyLight 200000001).1 (steadyLight 200000001).2 := by
  intro globals
  have hinit : (machine globals id).init ⟨AlsState.start, 0, none⟩ := ⟨rfl, rfl⟩
  have hfirst := StepMachine.Reachable.next (.init hinit)
    (step_of_later (steadyLight 1) (by decide) (by decide))
  exact ⟨_, _, hfirst, by decide +kernel, by decide +kernel, by decide +kernel,
    passed_on_fresh hfirst (step_of_later (steadyLight 200000001) (by decide) (by decide))⟩

end AlsRun
end SensorsHal
