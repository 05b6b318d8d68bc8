import Sm8150Common.HysteresisBands

/-! # More light, more lux

Two readings that `process` corrects in the same state, with the same screenshot and
the same gain.  All that is done to them after the bias keeps their order
(`AlsConfig.lux_mono`): the light of the display is taken off, and what is below it is
zero.

The bias is taken off in another way (`AlsCorrection.cpp`, lines 176–178): a reading
that is not above it is left whole, so that one just above it falls below.
`lux_order_iff` finds the pairs of readings that come out in the wrong order.

The light of the display is a quotient by the maximal brightness (lines 234–235), with multipliers
that are quotients by the entries of `rgbw_max_lux_div` (lines 133 and 136).  These divisors are
other than zero: exact arithmetic has no infinite lux. -/
namespace SensorsHal

/-! ## The bias -/

section Bias
variable {conf : AlsConfig} {event event' : Event}

theorem subtractBias_of_lt (h : conf.bias < event.u.scalar) :
    (subtractBias conf event).u.scalar = event.u.scalar - conf.bias := by
  rw [subtractBias, if_pos h]

theorem subtractBias_of_le (h : event.u.scalar ≤ conf.bias) : subtractBias conf event = event :=
  if_neg (not_lt.mpr h)

/-- The smaller of two readings is left as it is, and the bias is taken off the larger
one, which is less then. -/
def BiasSwaps (conf : AlsConfig) (event event' : Event) : Prop :=
  event.u.scalar ≤ conf.bias ∧ conf.bias < event'.u.scalar ∧
    event'.u.scalar - conf.bias < event.u.scalar

instance : Decidable (BiasSwaps conf event event') :=
  inferInstanceAs (Decidable (_ ∧ _ ∧ _))

/-- The order of two readings after the bias is taken off. -/
theorem subtractBias_le_iff (h : event.u.scalar ≤ event'.u.scalar) :
    (subtractBias conf event).u.scalar ≤ (subtractBias conf event').u.scalar ↔
      ¬ BiasSwaps conf event event' := by
  unfold BiasSwaps
  by_cases habove : conf.bias < event.u.scalar
  · have habove' : conf.bias < event'.u.scalar := lt_of_lt_of_le habove h
    rw [subtractBias_of_lt habove, subtractBias_of_lt habove']
    exact ⟨fun _ hswaps => absurd hswaps.1 (not_le.mpr habove), fun _ => sub_le_sub_right h _⟩
  · rw [subtractBias_of_le (not_lt.mp habove)]
    by_cases habove' : conf.bias < event'.u.scalar
    · rw [subtractBias_of_lt habove']
      constructor
      · rintro hle ⟨-, -, hlt⟩
        exact not_le.mpr hlt hle
      · intro hswaps
        by_contra hlt
        exact hswaps ⟨not_lt.mp habove, habove', not_le.mp hlt⟩
    · rw [subtractBias_of_le (not_lt.mp habove')]
      exact ⟨fun _ hswaps => habove' hswaps.2.1, fun _ => h⟩

end Bias

/-! ## After the bias -/

namespace AlsConfig
variable {conf : AlsConfig} {agcGain correction x y : Rat}

/-- What becomes of a reading without its bias (lines 241 and 262–272). -/
def lux (conf : AlsConfig) (agcGain correction scalar : Rat) : Rat :=
  max (max (scalar - correction) 0 * conf.calibGain * agcGain - 14) 0

/-- Every step after the bias keeps the order. -/
theorem lux_mono (hcalib : 0 ≤ conf.calibGain) (hagc : 0 ≤ agcGain) :
    Monotone (conf.lux agcGain correction) := by
  intro x y h
  have hraw : max (x - correction) 0 ≤ max (y - correction) 0 :=
    max_le_max_right 0 (sub_le_sub_right h correction)
  have hcalibrated := mul_le_mul_of_nonneg_right hraw hcalib
  have hgained := mul_le_mul_of_nonneg_right hcalibrated hagc
  exact max_le_max_right 0 (sub_le_sub_right hgained 14)

/-- No more than 14 lux of own light are taken for none. -/
theorem lux_eq_zero (hdim : (x - correction) * conf.calibGain * agcGain ≤ 14) :
    conf.lux agcGain correction x = 0 := by
  refine max_eq_right (sub_nonpos.mpr ?_)
  rcases le_total (x - correction) 0 with hnone | hsome
  · rw [max_eq_right hnone, zero_mul, zero_mul]
    decide
  · rw [max_eq_left hsome]
    exact hdim

/-- Above 14 lux, less light is less lux. -/
theorem lux_lt (hcalib : 0 < conf.calibGain) (hagc : 0 < agcGain)
    (hbright : 14 < (x - correction) * conf.calibGain * agcGain) (h : y < x) :
    conf.lux agcGain correction y < conf.lux agcGain correction x := by
  have hown : 0 < x - correction := by
    by_contra hnone
    have := mul_nonpos_of_nonpos_of_nonneg
      (mul_nonpos_of_nonpos_of_nonneg (not_lt.mp hnone) hcalib.le) hagc.le
    linarith
  have hraw : max (y - correction) 0 < x - correction := max_lt (by linarith) hown
  have hcalibrated := mul_lt_mul_of_pos_right hraw hcalib
  have hgained := mul_lt_mul_of_pos_right hcalibrated hagc
  unfold lux
  rw [max_eq_left hown.le]
  exact max_lt (lt_max_of_lt_left (by linarith)) (lt_max_of_lt_left (by linarith))

/-- Less light is not less lux when all of it is taken for none. -/
theorem lux_le_iff (hcalib : 0 < conf.calibGain) (hagc : 0 < agcGain) :
    conf.lux agcGain correction x ≤ conf.lux agcGain correction y ↔
      x ≤ y ∨ (x - correction) * conf.calibGain * agcGain ≤ 14 := by
  constructor
  · intro hle
    by_contra hno
    obtain ⟨hlt, hbright⟩ := not_or.mp hno
    exact absurd hle (not_le.mpr (lux_lt hcalib hagc (not_le.mp hbright) (not_le.mp hlt)))
  · rintro (hle | hdim)
    · exact lux_mono hcalib.le hagc.le hle
    · rw [lux_eq_zero hdim]
      exact le_max_right _ _

/-- The gain is one of the configured ones. -/
theorem agcGainOf_pos (hinverse : ∀ i, 0 < conf.sensorInverseGain i)
    (sensorRawCorrected data2 : Rat) : 0 < agcGainOf conf sensorRawCorrected data2 := by
  unfold agcGainOf
  split
  · exact List.foldlRecOn _ _ (hinverse _) fun _ hpos i _ =>
      iteInduction (fun _ => hinverse i) fun _ => hpos
  · exact hinverse _

end AlsConfig

/-! ## Two readings in one state -/

/-- While an update is forced, an event that does not come too fast is corrected in
full if there is a screenshot. -/
theorem AlsState.process_of_forced (globals : AlsGlobals) (pow22 : Rat → Rat)
    {state : AlsState} {around : Surroundings} {screenshot : AreaRgbCaptureResult}
    (hslow : (state.arrive around).2 = false)
    (hforced : (state.arrive around).1.forceUpdate = true)
    (hshot : around.screenshot = some screenshot) (event : Event) :
    let reading := subtractBias globals.conf event
    (state.process globals pow22 around event).1.u.scalar =
      globals.conf.lux (estimate globals pow22 around.brightness screenshot reading).agcGain
        (cumulativeCorrection globals.conf pow22 around.brightness screenshot)
        reading.u.scalar := by
  intro reading
  have hfull : state.FullyCorrects globals pow22 around event :=
    ⟨hslow, .inl hforced, screenshot, hshot, .inr (.inr hforced)⟩
  exact congrArg (fun passed : Event × AlsState => passed.1.u.scalar)
    (process_of_fullyCorrects hshot hfull)

/-- **When more light is not less lux.**  For every configuration with positive gains,
every state in which an update is forced, and everything `process` may find around two
readings of which the second is not the smaller one, and for which it selects the same
gain: the second value is not the smaller one, unless the bias swaps the readings and
the first has more than 14 lux of its own light left.  The maximal brightness and the
entries of `rgbw_max_lux_div` are other than zero. -/
theorem lux_order_iff {globals : AlsGlobals} {pow22 : Rat → Rat} {state : AlsState}
    {around : Surroundings} {screenshot : AreaRgbCaptureResult} {event event' : Event}
    {agcGain : Rat} (hcalib : 0 < globals.conf.calibGain)
    (hinverse : ∀ i, 0 < globals.conf.sensorInverseGain i)
    (hslow : (state.arrive around).2 = false)
    (hforced : (state.arrive around).1.forceUpdate = true)
    (hshot : around.screenshot = some screenshot)
    (hagc : (AlsState.estimate globals pow22 around.brightness screenshot
      (subtractBias globals.conf event)).agcGain = agcGain)
    (hagc' : (AlsState.estimate globals pow22 around.brightness screenshot
      (subtractBias globals.conf event')).agcGain = agcGain)
    (hle : event.u.scalar ≤ event'.u.scalar) :
    let correction := cumulativeCorrection globals.conf pow22 around.brightness screenshot
    (state.process globals pow22 around event).1.u.scalar ≤
        (state.process globals pow22 around event').1.u.scalar ↔
      ¬ BiasSwaps globals.conf event event' ∨
        (event.u.scalar - correction) * globals.conf.calibGain * agcGain ≤ 14 := by
  intro correction
  have hpos : 0 < agcGain := hagc ▸ AlsConfig.agcGainOf_pos hinverse _ _
  have hscalar := AlsState.process_of_forced globals pow22 hslow hforced hshot event
  have hscalar' := AlsState.process_of_forced globals pow22 hslow hforced hshot event'
  dsimp only at hscalar hscalar'
  rw [hscalar, hscalar', hagc, hagc', AlsConfig.lux_le_iff hcalib hpos, subtractBias_le_iff hle]
  by_cases hswaps : BiasSwaps globals.conf event event'
  · -- the first reading is not above the bias then
    rw [subtractBias_of_le hswaps.1]
  · exact ⟨fun _ => .inl hswaps, fun _ => .inl hswaps⟩

/-- The files of a device with a bias of 10. -/
def biasedFiles : AlsFiles := { halfGainFiles with bias := 10 }

/-- The readings 10 and 100: the bias does not swap them. -/
theorem lux_order_ten_hundred :
    let globals := AlsGlobals.init biasedFiles AlsGlobals.start
    (AlsState.start.process globals id (blackScreen 1) (lightReading 10)).1.u.scalar ≤
      (AlsState.start.process globals id (blackScreen 1) (lightReading 100)).1.u.scalar :=
  (lux_order_iff (by decide +kernel) (by decide +kernel) rfl rfl rfl rfl (by decide +kernel)
    (by decide +kernel)).mpr (.inl (by decide +kernel))

/-- The reading 10 is worth 6 lux, and the reading 11 none. -/
theorem lux_of_ten_above_lux_of_eleven :
    ¬ ∀ (globals : AlsGlobals) (pow22 : Rat → Rat) (state : AlsState) (around : Surroundings)
      (screenshot : AreaRgbCaptureResult) (event event' : Event),
      0 ≤ globals.conf.bias → 0 < globals.conf.calibGain →
      (∀ i, 0 < globals.conf.sensorInverseGain i) → (state.arrive around).2 = false →
      (state.arrive around).1.forceUpdate = true → around.screenshot = some screenshot →
      (AlsState.estimate globals pow22 around.brightness screenshot
          (subtractBias globals.conf event)).agcGain =
        (AlsState.estimate globals pow22 around.brightness screenshot
          (subtractBias globals.conf event')).agcGain →
      event.u.scalar ≤ event'.u.scalar →
      (state.process globals pow22 around event).1.u.scalar ≤
        (state.process globals pow22 around event').1.u.scalar := by
  intro h
  have hle := h (AlsGlobals.init biasedFiles AlsGlobals.start) id AlsState.start (blackScreen 1)
    ⟨0, 0, 0⟩ (lightReading 10) (lightReading 11) (by decide +kernel) (by decide +kernel)
    (by decide +kernel) rfl rfl rfl (by decide +kernel) (by decide +kernel)
  exact absurd hle (by decide +kernel)

end SensorsHal
