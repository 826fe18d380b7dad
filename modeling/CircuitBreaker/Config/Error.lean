/-!
# Settings: sections and errors

The three records of settings, and why a value or a record is turned down.
-/

set_option autoImplicit false

namespace CircuitBreaker

inductive ConfigSection where
  | tripCurve
  | recovery
  | modulation
deriving DecidableEq, Repr

def ConfigSection.all : List ConfigSection := [.tripCurve, .recovery, .modulation]

def ConfigSection.name : ConfigSection → String
  | tripCurve => "trip-curve"
  | recovery => "recovery"
  | modulation => "modulation"

inductive ConfigError where
  /-- The curve is empty, or it is not monotone. -/
  | invalidPoints
  /-- The curve has more points than fit in a record. -/
  | tooManyPoints
  /-- The modulation counts are not `0 < closed < period`. -/
  | invalidModulation
  /-- The recovery reset timeout is out of range. -/
  | invalidRecoveryTimeout
  /-- The stored closed-state mode is unknown. -/
  | invalidMode
  /-- The record is shorter than its layout. -/
  | truncated
deriving DecidableEq, Repr

def ConfigError.message : ConfigError → String
  | invalidPoints => "InvalidPoints"
  | tooManyPoints => "TooManyPoints"
  | invalidModulation => "InvalidModulation"
  | invalidRecoveryTimeout => "InvalidRecoveryTimeout"
  | invalidMode => "InvalidMode"
  | truncated => "Truncated"

instance : ToString ConfigError := ⟨ConfigError.message⟩

end CircuitBreaker
