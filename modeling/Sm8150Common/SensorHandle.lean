import Sm8150Common.SensorTypes

/-! # Sub-HAL indices in sensor handles

The proxy numbers its sub-HALs and writes the number into the first byte of the
handles they report (`HalProxy.cpp`, lines 49–72 and 771–777, and the copy of
`setSubHalIndex` in `HalProxyCallback.cpp`).  The byte is written with a bitwise
or, which encodes the number only where the byte was clear, and read back with
an arithmetic shift and a cast to `size_t`, which returns the byte only where
its top bit is clear.  `indexByte` is the byte itself; the lemmas relate the
helpers to it. -/
namespace SensorsHal

def kBitsAfterSubHalIndex : Nat := 24

/-- `HalProxy.h`. -/
def kSensorHandleSubHalIndexMask : SensorHandle := 0xFF000000#32

def setSubHalIndex (sensorHandle : SensorHandle) (subHalIndex : Nat) : SensorHandle :=
  sensorHandle ||| (BitVec.ofNat 32 subHalIndex <<< kBitsAfterSubHalIndex)

/-- `>>` on `int32_t` copies the sign bit, and so does the cast to the 64-bit
`size_t`. -/
def extractSubHalIndex (sensorHandle : SensorHandle) : Nat :=
  ((sensorHandle.sshiftRight kBitsAfterSubHalIndex).signExtend 64).toNat

def clearSubHalIndex (sensorHandle : SensorHandle) : SensorHandle :=
  sensorHandle &&& ~~~kSensorHandleSubHalIndexMask

def subHalIndexIsClear (sensorHandle : SensorHandle) : Bool :=
  sensorHandle &&& kSensorHandleSubHalIndexMask == 0#32

/-- The first byte of a handle, bits 24 to 31. -/
def indexByte (h : SensorHandle) : Nat := (h >>> 24).toNat

theorem indexByte_eq (h : SensorHandle) : indexByte h = h.toNat / 0x1000000 := by
  simp [indexByte, Nat.shiftRight_eq_div_pow]

theorem indexByte_lt (h : SensorHandle) : indexByte h < 256 := by
  have := h.isLt
  rw [indexByte_eq]
  omega

/-- **What `extractSubHalIndex` returns.**  The first byte if its top bit is
clear; with the top bit set the handle is negative and the result is within 128
of the end of `size_t`. -/
theorem extractSubHalIndex_eq (h : SensorHandle) :
    extractSubHalIndex h =
      if indexByte h < 128 then indexByte h else 0xFFFFFFFFFFFFFF00 + indexByte h := by
  have hlt := h.isLt
  have hm := BitVec.msb_eq_decide h
  rw [extractSubHalIndex, BitVec.toNat_signExtend, BitVec.msb_sshiftRight, indexByte_eq,
    kBitsAfterSubHalIndex, BitVec.toNat_setWidth]
  cases hmsb : h.msb with
  | false =>
    rw [hmsb] at hm
    simp only [Nat.add_one_sub_one, Bool.false_eq, decide_eq_false_iff_not] at hm
    rw [BitVec.toNat_sshiftRight_of_msb_false hmsb, Nat.shiftRight_eq_div_pow, if_neg (by simp),
      if_pos (by omega)]
    omega
  | true =>
    rw [hmsb] at hm
    simp only [Nat.add_one_sub_one, Bool.true_eq, decide_eq_true_eq] at hm
    rw [BitVec.toNat_sshiftRight_of_msb_true hmsb, Nat.shiftRight_eq_div_pow, if_pos rfl,
      if_neg (by omega)]
    omega

theorem extractSubHalIndex_eq_iff (h : SensorHandle) {i : Nat} (hi : i < 128) :
    extractSubHalIndex h = i ↔ indexByte h = i := by
  have := indexByte_lt h
  rw [extractSubHalIndex_eq]
  split <;> omega

/-- The first byte after `setSubHalIndex`: an or, not a replacement. -/
theorem indexByte_setSubHalIndex (h : SensorHandle) {i : Nat} (hi : i < 256) :
    indexByte (setSubHalIndex h i) = indexByte h ||| i := by
  have hbyte : ((BitVec.ofNat 32 i <<< 24) >>> 24).toNat = i := by
    rw [BitVec.toNat_ushiftRight, BitVec.toNat_shiftLeft, Nat.shiftRight_eq_div_pow,
      Nat.shiftLeft_eq, BitVec.toNat_ofNat]
    omega
  rw [indexByte, setSubHalIndex, BitVec.ushiftRight_or_distrib, BitVec.toNat_or,
    kBitsAfterSubHalIndex, hbyte]
  rfl

theorem kSensorHandleSubHalIndexMask_eq :
    kSensorHandleSubHalIndexMask = BitVec.allOnes 32 <<< 24 := by
  decide

theorem subHalIndexIsClear_iff (h : SensorHandle) :
    subHalIndexIsClear h = true ↔ indexByte h = 0 := by
  have hmask : h &&& kSensorHandleSubHalIndexMask = (h >>> 24) <<< 24 := by
    rw [kSensorHandleSubHalIndexMask_eq]
    ext i hi
    simp only [BitVec.getElem_and, BitVec.getElem_shiftLeft, BitVec.getElem_allOnes]
    by_cases hlow : i < 24
    · simp [hlow]
    · have hi' : 24 + (i - 24) = i := by omega
      simp [hlow, hi', BitVec.getLsbD_eq_getElem, hi]
  have hlt := indexByte_lt h
  rw [indexByte] at hlt
  rw [subHalIndexIsClear, beq_iff_eq, hmask, indexByte, ← BitVec.toNat_inj,
    BitVec.toNat_shiftLeft, Nat.shiftLeft_eq]
  simp only [BitVec.toNat_ofNat]
  omega

theorem toNat_clearSubHalIndex (h : SensorHandle) :
    (clearSubHalIndex h).toNat = h.toNat % 0x1000000 := by
  have hmask : (~~~kSensorHandleSubHalIndexMask).toNat = 2 ^ 24 - 1 := by decide
  rw [clearSubHalIndex, BitVec.toNat_and, hmask]
  exact Nat.and_two_pow_sub_one_eq_mod _ 24

/-- Clearing the index gives back a handle that was reported with a clear one. -/
theorem clearSubHalIndex_setSubHalIndex {h : SensorHandle} (hc : subHalIndexIsClear h = true)
    (i : Nat) : clearSubHalIndex (setSubHalIndex h i) = h := by
  have hlow : h.toNat < 0x1000000 := by
    have := (subHalIndexIsClear_iff h).mp hc
    rw [indexByte_eq] at this
    omega
  have hindex : (BitVec.ofNat 32 i <<< kBitsAfterSubHalIndex).toNat % 0x1000000 = 0 := by
    rw [BitVec.toNat_shiftLeft, Nat.shiftLeft_eq, kBitsAfterSubHalIndex]
    omega
  apply BitVec.eq_of_toNat_eq
  have hor : ∀ m n : Nat, (m ||| n) % 0x1000000 = m % 0x1000000 ||| n % 0x1000000 :=
    fun m n => Nat.or_mod_two_pow (n := 24)
  rw [toNat_clearSubHalIndex, setSubHalIndex, BitVec.toNat_or, hor, Nat.mod_eq_of_lt hlow, hindex,
    Nat.or_zero]

theorem indexByte_setSubHalIndex_of_clear {h : SensorHandle} (hc : subHalIndexIsClear h = true)
    {i : Nat} (hi : i < 256) : indexByte (setSubHalIndex h i) = i := by
  rw [indexByte_setSubHalIndex h hi, (subHalIndexIsClear_iff h).mp hc, Nat.zero_or]

/-- `extractSubHalIndex` reads back the indices below 128. -/
theorem extractSubHalIndex_setSubHalIndex {h : SensorHandle} (hc : subHalIndexIsClear h = true)
    {i : Nat} (hi : i < 128) : extractSubHalIndex (setSubHalIndex h i) = i :=
  (extractSubHalIndex_eq_iff _ hi).mpr (indexByte_setSubHalIndex_of_clear hc (by omega))

/-- Different sub-HALs, or different handles of one, get different handles. -/
theorem setSubHalIndex_inj {h k : SensorHandle} (hh : subHalIndexIsClear h = true)
    (hk : subHalIndexIsClear k = true) {i j : Nat} (hi : i < 256) (hj : j < 256)
    (he : setSubHalIndex h i = setSubHalIndex k j) : i = j ∧ h = k := by
  constructor
  · have := congrArg indexByte he
    rwa [indexByte_setSubHalIndex_of_clear hh hi, indexByte_setSubHalIndex_of_clear hk hj] at this
  · have := congrArg clearSubHalIndex he
    rwa [clearSubHalIndex_setSubHalIndex hh, clearSubHalIndex_setSubHalIndex hk] at this

end SensorsHal
