import Mathlib.Algebra.Order.BigOperators.Ring.Finset
import Mathlib.Tactic.Ring
import Sm8150Common.GrabRect
import Sm8150Common.HysteresisBands
import Sm8150Common.Library.CountedLoop

/-! # The mean color of the screen

`AreaCapture::getAreaBrightness` (`AreaCapture.cpp`, lines 55–102) takes a screenshot of
the grab rectangle and averages its pixels.  A pixel has four bytes, and a row of the
buffer has room for `stride` pixels, of which the first `width` are the picture.  The
sums and all indices are unsigned integers of 32 bits that may wrap, and a read outside
the buffer, as an `int` beyond its limit, fails.

`getAreaBrightness_exact` is about every buffer that is small enough; quotients are
exact. -/
namespace SensorsHal

open CountedLoop
open InputStream (INT_MAX)

/-! ## The capture -/

inductive PixelFormat
  | PIXEL_FORMAT_RGBA_8888
  deriving DecidableEq, Repr

/-- What a capture is asked for, lines 56–62. -/
structure DisplayCaptureArgs where
  pixelFormat : PixelFormat
  sourceCrop : Rect
  width : Int
  height : Int
  captureSecureLayers : Bool
  deriving DecidableEq, Repr

def Rect.getWidth (rect : Rect) : Int := rect.right - rect.left
def Rect.getHeight (rect : Rect) : Int := rect.bottom - rect.top

def displayCaptureArgs (m_screenshot_rect : Rect) : DisplayCaptureArgs :=
  { pixelFormat := .PIXEL_FORMAT_RGBA_8888
    sourceCrop := m_screenshot_rect
    width := m_screenshot_rect.getWidth
    height := m_screenshot_rect.getHeight
    captureSecureLayers := true }

/-- The buffer of a capture, as its lock makes it readable. -/
structure GraphicBuffer where
  width : UInt32
  height : UInt32
  stride : UInt32
  bytes : Array UInt8

/-- What becomes of a capture. -/
inductive CaptureResults
  | failed
  | fenceError
  | captured (buffer : GraphicBuffer)

/-! ## The average -/

/-- The sums of the three channels. -/
structure Sums where
  rsum : UInt32
  gsum : UInt32
  bsum : UInt32
  deriving DecidableEq, Repr

namespace GraphicBuffer
variable (buffer : GraphicBuffer)

/-- `out[y * (stride * 4) + x * 4 + c]`: `y` becomes unsigned in the first product, and
the second one is of `int`. -/
def out (y x c : Nat) : Option UInt8 :=
  if x * 4 ≤ INT_MAX.toNat then
    buffer.bytes[(UInt32.ofNat y * (buffer.stride * 4) + UInt32.ofNat (x * 4) +
      UInt32.ofNat c).toNat]?
  else none

/-- Lines 88–90. -/
def addPixel (y x : Nat) (sums : Sums) : Option Sums := do
  let r ← buffer.out y x 0
  let g ← buffer.out y x 1
  let b ← buffer.out y x 2
  return ⟨sums.rsum + r.toUInt32, sums.gsum + g.toUInt32, sums.bsum + b.toUInt32⟩

/-- The inner loop. -/
def addRow (y : Nat) (sums : Sums) : Option Sums :=
  forCount INT_MAX.toNat (buffer.addPixel y) buffer.width.toNat sums

/-- Both loops, lines 85–92. -/
def sums : Option Sums := forCount INT_MAX.toNat buffer.addRow buffer.height.toNat ⟨0, 0, 0⟩

/-- Where the loops stand at the pixel `x` of row `y`. -/
def sumsBefore (y x : Nat) : Option Sums := do
  let sums ← forCount INT_MAX.toNat buffer.addRow y ⟨0, 0, 0⟩
  forCount INT_MAX.toNat (buffer.addPixel y) x sums

/-- Lines 94–97. -/
def average : Option AreaRgbCaptureResult := do
  let sums ← buffer.sums
  let max := (buffer.width * buffer.height).toNat
  return ⟨sums.rsum.toNat / max, sums.gsum.toNat / max, sums.bsum.toNat / max⟩

end GraphicBuffer

/-- `AreaCapture::getAreaBrightness`, with what the capture answers. -/
def getAreaBrightness (captureDisplay : DisplayCaptureArgs → CaptureResults)
    (m_screenshot_rect : Rect) : Option (Except Int AreaRgbCaptureResult) :=
  match captureDisplay (displayCaptureArgs m_screenshot_rect) with
  | .failed => some (.error (-1))
  | .fenceError => some (.error (-1))
  | .captured buffer => buffer.average.map .ok

/-! ## Where the loops come by -/

namespace GraphicBuffer
variable (buffer : GraphicBuffer)

theorem sumsBefore_succ (y : Nat) {x : Nat} (hx : x < INT_MAX.toNat) :
    buffer.sumsBefore y (x + 1) = (buffer.sumsBefore y x).bind (buffer.addPixel y x) := by
  unfold sumsBefore
  cases forCount INT_MAX.toNat buffer.addRow y ⟨0, 0, 0⟩ with
  | none => rfl
  | some sums => exact forCount_succ sums hx

/-- The end of a row is the beginning of the next one. -/
theorem sumsBefore_width {y : Nat} (hy : y < INT_MAX.toNat) :
    buffer.sumsBefore y buffer.width.toNat = buffer.sumsBefore (y + 1) 0 := by
  unfold sumsBefore
  rw [forCount_succ _ hy]
  cases forCount INT_MAX.toNat buffer.addRow y ⟨0, 0, 0⟩ with
  | none => rfl
  | some sums => exact (Option.bind_fun_some (buffer.addRow y sums)).symm

theorem sumsBefore_height : buffer.sumsBefore buffer.height.toNat 0 = buffer.sums := by
  unfold sumsBefore sums
  exact Option.bind_fun_some _

end GraphicBuffer

/-! ## The visible pixels -/

namespace GraphicBuffer
variable (buffer : GraphicBuffer)

/-- The byte `c` of the pixel `x` in row `y`. -/
def channel (c y x : Nat) : Nat :=
  (buffer.bytes.getD (buffer.stride.toNat * 4 * y + 4 * x + c) 0).toNat

/-- The sum of one channel over all pixels of the picture. -/
def visibleSum (c : Nat) : Nat :=
  ∑ y ∈ Finset.range buffer.height.toNat, ∑ x ∈ Finset.range buffer.width.toNat,
    buffer.channel c y x

/-- The mean of one channel. -/
def mean (c : Nat) : Rat := buffer.visibleSum c / (buffer.width.toNat * buffer.height.toNat : Nat)

/-- As `visibleSum`, over the pixels before the pixel `x` of row `y`. -/
def sumBefore (y x c : Nat) : Nat :=
  ∑ j ∈ Finset.range y, ∑ i ∈ Finset.range buffer.width.toNat, buffer.channel c j i +
    ∑ i ∈ Finset.range x, buffer.channel c y i

/-- A picture that is not empty, not too large, and is in the buffer. -/
structure Fits : Prop where
  width_pos : 0 < buffer.width.toNat
  height_pos : 0 < buffer.height.toNat
  pixels : 255 * buffer.width.toNat * buffer.height.toNat < 2 ^ 32
  width_le_stride : buffer.width.toNat ≤ buffer.stride.toNat
  bytes_lt : 4 * buffer.stride.toNat * buffer.height.toNat < 2 ^ 32
  bytes : buffer.bytes.size = 4 * buffer.stride.toNat * buffer.height.toNat

/-- The two buffers differ at most in alpha bytes, and in what pads their rows. -/
structure SameVisible (other : GraphicBuffer) : Prop where
  width : other.width = buffer.width
  height : other.height = buffer.height
  channel : ∀ y < buffer.height.toNat, ∀ x < buffer.width.toNat, ∀ c < 3,
    other.channel c y x = buffer.channel c y x

theorem channel_le (c y x : Nat) : buffer.channel c y x ≤ 255 :=
  Nat.le_of_lt_succ (UInt8.toNat_lt _)

variable {buffer}

section Fits
variable (h : buffer.Fits) {y x : Nat}
include h

theorem Fits.width_lt : buffer.width.toNat * 4 < 2 ^ 31 := by
  have := Nat.mul_le_mul_left (255 * buffer.width.toNat) h.height_pos
  have := h.pixels
  omega

theorem Fits.height_lt : buffer.height.toNat < 2 ^ 31 := by
  have := Nat.mul_le_mul_right (255 * buffer.height.toNat) h.width_pos
  have := h.pixels
  rw [Nat.mul_right_comm, Nat.mul_comm] at this
  omega

/-- The pixel is in the buffer. -/
theorem Fits.index_lt (hy : y < buffer.height.toNat) (hx : x < buffer.width.toNat) {c : Nat}
    (hc : c < 4) : buffer.stride.toNat * 4 * y + 4 * x + c < buffer.bytes.size := by
  have hrow := Nat.mul_le_mul_left (4 * buffer.stride.toNat) (Nat.succ_le_of_lt hy)
  have hstride := h.width_le_stride
  rw [Nat.mul_succ] at hrow
  rw [h.bytes, Nat.mul_comm buffer.stride.toNat 4]
  omega

/-- The index does not wrap, so that it is that of the pixel. -/
theorem Fits.out_eq (hy : y < buffer.height.toNat) (hx : x < buffer.width.toNat) {c : Nat}
    (hc : c < 4) :
    ∃ byte, buffer.out y x c = some byte ∧ byte.toNat = buffer.channel c y x := by
  have hindex := h.index_lt hy hx hc
  have hsize : buffer.bytes.size < 2 ^ 32 := h.bytes ▸ h.bytes_lt
  have hwidth := h.width_lt
  have hunsigned : (UInt32.ofNat y * (buffer.stride * 4) + UInt32.ofNat (x * 4) +
      UInt32.ofNat c).toNat = buffer.stride.toNat * 4 * y + 4 * x + c := by
    have heq : UInt32.ofNat y * (buffer.stride * 4) + UInt32.ofNat (x * 4) + UInt32.ofNat c =
        UInt32.ofNat (y * (buffer.stride.toNat * 4) + x * 4 + c) := by
      simp
    rw [heq, UInt32.toNat_ofNat_of_lt', Nat.mul_comm y, Nat.mul_comm x]
    rw [Nat.mul_comm y, Nat.mul_comm x]
    exact lt_trans hindex hsize
  refine ⟨buffer.bytes[buffer.stride.toNat * 4 * y + 4 * x + c], ?_, ?_⟩
  · have hint : x * 4 ≤ INT_MAX.toNat := by
      show x * 4 ≤ 2147483647
      omega
    rw [out, if_pos hint, hunsigned, Array.getElem?_eq_getElem hindex]
  · rw [channel, Array.getD_eq_getD_getElem?, Array.getElem?_eq_getElem hindex]
    rfl

end Fits

/-! ## The sums -/

theorem sumBefore_succ (y x c : Nat) :
    buffer.sumBefore y (x + 1) c = buffer.sumBefore y x c + buffer.channel c y x := by
  unfold sumBefore
  rw [Finset.sum_range_succ _ x, Nat.add_assoc]

/-- After the last pixel of a row comes the next row. -/
theorem sumBefore_width (y c : Nat) :
    buffer.sumBefore y buffer.width.toNat c = buffer.sumBefore (y + 1) 0 c := by
  unfold sumBefore
  rw [Finset.sum_range_succ, Finset.sum_range_zero, Nat.add_zero]

theorem sumBefore_height (c : Nat) :
    buffer.sumBefore buffer.height.toNat 0 c = buffer.visibleSum c := by
  unfold sumBefore visibleSum
  rw [Finset.sum_range_zero, Nat.add_zero]

/-- Each pixel adds at most 255. -/
theorem sumBefore_le (y x c : Nat) :
    buffer.sumBefore y x c ≤ 255 * (buffer.width.toNat * y + x) := by
  have hpixels : ∀ j n, ∑ i ∈ Finset.range n, buffer.channel c j i ≤ n * 255 := by
    intro j n
    have := Finset.sum_le_card_nsmul (Finset.range n) (buffer.channel c j) 255
      fun i _ => buffer.channel_le c j i
    rwa [Finset.card_range, nsmul_eq_mul, Nat.cast_id] at this
  have hrows : ∑ j ∈ Finset.range y, ∑ i ∈ Finset.range buffer.width.toNat, buffer.channel c j i ≤
      y * (buffer.width.toNat * 255) := by
    have := Finset.sum_le_card_nsmul (Finset.range y)
      (fun j => ∑ i ∈ Finset.range buffer.width.toNat, buffer.channel c j i) _
      fun j _ => hpixels j buffer.width.toNat
    rwa [Finset.card_range, nsmul_eq_mul, Nat.cast_id] at this
  calc buffer.sumBefore y x c
      ≤ y * (buffer.width.toNat * 255) + x * 255 := Nat.add_le_add hrows (hpixels y x)
    _ = 255 * (buffer.width.toNat * y + x) := by ring

/-- The sums before a pixel of the picture, or the end of its row, have room. -/
theorem Fits.sumBefore_lt (h : buffer.Fits) {y x : Nat} (hy : y < buffer.height.toNat)
    (hx : x ≤ buffer.width.toNat) (c : Nat) : buffer.sumBefore y x c < 2 ^ 32 := by
  have hrow := Nat.mul_le_mul_left buffer.width.toNat (Nat.succ_le_of_lt hy)
  rw [Nat.mul_succ] at hrow
  calc buffer.sumBefore y x c
      ≤ 255 * (buffer.width.toNat * y + x) := sumBefore_le y x c
    _ ≤ 255 * (buffer.width.toNat * buffer.height.toNat) := by omega
    _ < 2 ^ 32 := Nat.mul_assoc .. ▸ h.pixels

end GraphicBuffer

/-- The accumulators hold the sums `f`, none of which has wrapped. -/
structure Sums.Exact (sums : Sums) (f : Nat → Nat) : Prop where
  rsum : sums.rsum.toNat = f 0
  gsum : sums.gsum.toNat = f 1
  bsum : sums.bsum.toNat = f 2

theorem toNat_add_byte {acc : UInt32} {byte : UInt8} {n m : Nat} (hacc : acc.toNat = n)
    (hbyte : byte.toNat = m) (hlt : n + m < 2 ^ 32) : (acc + byte.toUInt32).toNat = n + m := by
  rw [UInt32.toNat_add, UInt8.toNat_toUInt32, hacc, hbyte, Nat.mod_eq_of_lt hlt]

namespace GraphicBuffer.Fits
variable {buffer : GraphicBuffer} (h : buffer.Fits) {y x : Nat} {sums : Sums}
include h

/-- **One pixel**: three reads inside the buffer, and no sum wraps. -/
theorem addPixel_exact (hy : y < buffer.height.toNat) (hx : x < buffer.width.toNat)
    (hsums : sums.Exact (buffer.sumBefore y x)) : ∃ next, buffer.addPixel y x sums = some next ∧
      next.Exact (buffer.sumBefore y (x + 1)) := by
  obtain ⟨r, hr, hr'⟩ := h.out_eq hy hx (show 0 < 4 by decide)
  obtain ⟨g, hg, hg'⟩ := h.out_eq hy hx (show 1 < 4 by decide)
  obtain ⟨b, hb, hb'⟩ := h.out_eq hy hx (show 2 < 4 by decide)
  have hlt : ∀ c, buffer.sumBefore y x c + buffer.channel c y x < 2 ^ 32 := by
    intro c
    rw [← sumBefore_succ]
    exact h.sumBefore_lt hy hx c
  refine ⟨⟨sums.rsum + r.toUInt32, sums.gsum + g.toUInt32, sums.bsum + b.toUInt32⟩, ?_, ?_⟩
  · rw [addPixel, hr, hg, hb]
    rfl
  · constructor
    all_goals rw [sumBefore_succ]
    · exact toNat_add_byte hsums.rsum hr' (hlt 0)
    · exact toNat_add_byte hsums.gsum hg' (hlt 1)
    · exact toNat_add_byte hsums.bsum hb' (hlt 2)

/-- **The inner loop**, up to any pixel of the row. -/
theorem pixels_exact (hy : y < buffer.height.toNat) (hx : x ≤ buffer.width.toNat)
    (hsums : sums.Exact (buffer.sumBefore y 0)) :
    ∃ next, forCount INT_MAX.toNat (buffer.addPixel y) x sums = some next ∧
      next.Exact (buffer.sumBefore y x) := by
  have hlimit : x ≤ INT_MAX.toNat := by
    have := h.width_lt
    show x ≤ 2147483647
    omega
  exact forCount_inv (fun i (s : Sums) => s.Exact (buffer.sumBefore y i)) hlimit hsums
    fun i hi s hs => h.addPixel_exact hy (hi.trans_le hx) hs

theorem addRow_exact (hy : y < buffer.height.toNat)
    (hsums : sums.Exact (buffer.sumBefore y 0)) : ∃ next, buffer.addRow y sums = some next ∧
      next.Exact (buffer.sumBefore (y + 1) 0) := by
  obtain ⟨next, hnext, hexact⟩ := h.pixels_exact hy (Nat.le_refl _) hsums
  exact ⟨next, hnext, funext (sumBefore_width y) ▸ hexact⟩

/-- **The outer loop**, up to any row. -/
theorem rows_exact (hy : y ≤ buffer.height.toNat) :
    ∃ next, forCount INT_MAX.toNat buffer.addRow y ⟨0, 0, 0⟩ = some next ∧
      next.Exact (buffer.sumBefore y 0) := by
  have hlimit : y ≤ INT_MAX.toNat := by
    have := h.height_lt
    show y ≤ 2147483647
    omega
  have hinit : Sums.Exact ⟨0, 0, 0⟩ (buffer.sumBefore 0 0) := ⟨rfl, rfl, rfl⟩
  exact forCount_inv (fun i (s : Sums) => s.Exact (buffer.sumBefore i 0)) hlimit hinit
    fun i hi s hs => h.addRow_exact (hi.trans_le hy) hs

theorem sumsBefore_exact (hy : y < buffer.height.toNat) (hx : x ≤ buffer.width.toNat) :
    ∃ sums, buffer.sumsBefore y x = some sums ∧ sums.Exact (buffer.sumBefore y x) := by
  obtain ⟨sums, hrows, hexact⟩ := h.rows_exact hy.le
  obtain ⟨next, hpixels, hnext⟩ := h.pixels_exact hy hx hexact
  refine ⟨next, ?_, hnext⟩
  rw [sumsBefore, hrows]
  exact hpixels

theorem sums_exact : ∃ sums, buffer.sums = some sums ∧ sums.Exact buffer.visibleSum := by
  obtain ⟨sums, hrows, hexact⟩ := h.rows_exact (Nat.le_refl _)
  exact ⟨sums, hrows, funext sumBefore_height ▸ hexact⟩

theorem average_eq : buffer.average = some ⟨buffer.mean 0, buffer.mean 1, buffer.mean 2⟩ := by
  obtain ⟨sums, hsums, hr, hg, hb⟩ := h.sums_exact
  have hmax : (buffer.width * buffer.height).toNat = buffer.width.toNat * buffer.height.toNat := by
    have := h.pixels
    rw [Nat.mul_assoc] at this
    rw [UInt32.toNat_mul, Nat.mod_eq_of_lt (by omega)]
  rw [average, hsums, Option.bind_eq_bind, Option.bind_some, hmax, hr, hg, hb]
  rfl

/-- A mean of bytes is a byte. -/
theorem mean_mem (c : Nat) : buffer.mean c ∈ Set.Icc (0 : Rat) 255 := by
  have hpos : (0 : Rat) < (buffer.width.toNat * buffer.height.toNat : Nat) :=
    Nat.cast_pos.mpr (Nat.mul_pos h.width_pos h.height_pos)
  have hle : buffer.visibleSum c ≤ 255 * (buffer.width.toNat * buffer.height.toNat) := by
    rw [← sumBefore_height]
    exact sumBefore_le buffer.height.toNat 0 c
  constructor
  · exact div_nonneg (Nat.cast_nonneg _) hpos.le
  · rw [mean, div_le_iff₀ hpos]
    exact_mod_cast hle

end GraphicBuffer.Fits

namespace GraphicBuffer.SameVisible
variable {buffer other : GraphicBuffer}

theorem mean_eq (h : buffer.SameVisible other) {c : Nat} (hc : c < 3) :
    other.mean c = buffer.mean c := by
  unfold mean visibleSum
  rw [h.width, h.height]
  refine congrArg (fun sum : Nat => (sum : Rat) / _) ?_
  refine Finset.sum_congr rfl fun y hy => Finset.sum_congr rfl fun x hx => ?_
  exact h.channel y (Finset.mem_range.mp hy) x (Finset.mem_range.mp hx) c hc

/-- Alpha bytes and padding do not count. -/
theorem average_eq (h : buffer.SameVisible other) (hfits : buffer.Fits) (hother : other.Fits) :
    other.average = buffer.average := by
  rw [hother.average_eq, hfits.average_eq, h.mean_eq (by decide), h.mean_eq (by decide),
    h.mean_eq (by decide)]

end GraphicBuffer.SameVisible

section Capture
variable {captureDisplay : DisplayCaptureArgs → CaptureResults} {m_screenshot_rect : Rect}
  {buffer : GraphicBuffer}

theorem getAreaBrightness_captured
    (h : captureDisplay (displayCaptureArgs m_screenshot_rect) = .captured buffer) :
    getAreaBrightness captureDisplay m_screenshot_rect = buffer.average.map .ok := by
  rw [getAreaBrightness, h]

/-- **The average is the mean of the visible pixels.**  For every buffer that fits: at
every pixel all reads have been inside the buffer, and the accumulators hold the sums of
the pixels before it, at the end those of the picture; what is returned are the means of
the three channels, which are between 0 and 255; and any other buffer with the same visible
pixels has the same result. -/
theorem getAreaBrightness_exact (hfits : buffer.Fits)
    (hcapture : captureDisplay (displayCaptureArgs m_screenshot_rect) = .captured buffer) :
    (∀ y < buffer.height.toNat, ∀ x ≤ buffer.width.toNat, ∃ sums,
      buffer.sumsBefore y x = some sums ∧ sums.Exact (buffer.sumBefore y x)) ∧
    (∃ sums, buffer.sums = some sums ∧ sums.Exact buffer.visibleSum) ∧
    ∃ result, getAreaBrightness captureDisplay m_screenshot_rect = some (.ok result) ∧
      (result.r = buffer.mean 0 ∧ result.g = buffer.mean 1 ∧ result.b = buffer.mean 2) ∧
      result.InRange ∧
      ∀ (other : GraphicBuffer) (captureOther : DisplayCaptureArgs → CaptureResults) (rect : Rect),
        other.Fits → buffer.SameVisible other →
        captureOther (displayCaptureArgs rect) = .captured other →
        getAreaBrightness captureOther rect = some (.ok result) := by
  have haverage := hfits.average_eq
  have hrange : AreaRgbCaptureResult.InRange ⟨buffer.mean 0, buffer.mean 1, buffer.mean 2⟩ :=
    ⟨hfits.mean_mem 0, hfits.mean_mem 1, hfits.mean_mem 2⟩
  refine ⟨fun y hy x hx => hfits.sumsBefore_exact hy hx, hfits.sums_exact, _, ?_,
    ⟨rfl, rfl, rfl⟩, hrange, fun other captureOther rect hother hsame hcaptured => ?_⟩
  · rw [getAreaBrightness_captured hcapture, haverage]
    rfl
  · rw [getAreaBrightness_captured hcaptured, hsame.average_eq hfits hother, haverage]
    rfl

/-- Two pixels in a row that has room for three. -/
def twoPixels : GraphicBuffer :=
  ⟨2, 1, 3, #[10, 20, 30, 255, 30, 20, 10, 0, 9, 9, 9, 9]⟩

theorem fits_twoPixels : twoPixels.Fits := by
  refine ⟨?_, ?_, ?_, ?_, ?_, ?_⟩
  all_goals decide

def captureTwoPixels (_ : DisplayCaptureArgs) : CaptureResults := .captured twoPixels

/-- Neither the alpha bytes nor the padding count. -/
theorem getAreaBrightness_exact_two :
    getAreaBrightness captureTwoPixels ⟨1, 0, 3, 1⟩ = some (.ok ⟨20, 20, 20⟩) := by
  have hcapture : captureTwoPixels (displayCaptureArgs ⟨1, 0, 3, 1⟩) = .captured twoPixels := rfl
  obtain ⟨-, -, ⟨r, g, b⟩, hresult, ⟨hr, hg, hb⟩, -⟩ :=
    getAreaBrightness_exact fits_twoPixels hcapture
  have hr' : r = 20 := hr.trans (by decide +kernel)
  have hg' : g = 20 := hg.trans (by decide +kernel)
  have hb' : b = 20 := hb.trans (by decide +kernel)
  rw [hresult, hr', hg', hb']

end Capture

end SensorsHal
