import CircuitBreaker.Clock
import CircuitBreaker.Word

/-!
# Mains

The source of the zero crossings of the mains voltage, and the frequency that
the spacing of two crossings gives.
-/

set_option autoImplicit false

namespace CircuitBreaker

/-- A source of zero crossings. -/
class Mains (ζ : Type) where
  /-- The estimated frequency in millihertz, zero when it is not known. -/
  frequency : ζ → UInt32
  /-- Starts reporting crossings. -/
  enableEvents : ζ → ζ := id
  /-- Stops reporting crossings. -/
  disableEvents : ζ → ζ := id

/-- The mains frequency in millihertz when consecutive crossings are `interval`
apart. A period holds two crossings; a frequency that does not fit stays at the
largest value. -/
def Mains.frequencyOf (interval : Nat) : UInt32 :=
  if interval = 0 then 0
  else clamp32 (1000000000000 / (2 * interval))

end CircuitBreaker
