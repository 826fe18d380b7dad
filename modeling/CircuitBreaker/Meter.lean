/-!
# Meters

Calibrated electrical readings as the breaker sees them.
-/

set_option autoImplicit false

namespace CircuitBreaker

inductive TemperatureSensor where
  | powerIn
  | powerOut
deriving DecidableEq, Repr

def TemperatureSensor.name : TemperatureSensor → String
  | powerIn => "PowerIn"
  | powerOut => "PowerOut"

class Meter (μ : Type) where
  /-- RMS load current in milliamperes. -/
  current : μ → UInt32
  /-- RMS mains voltage in millivolts. -/
  voltage : μ → UInt32
  /-- Temperature in degrees Celsius. -/
  temperature : μ → TemperatureSensor → Int

end CircuitBreaker
