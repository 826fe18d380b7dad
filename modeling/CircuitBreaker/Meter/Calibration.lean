import CircuitBreaker.Word

/-!
# Calibration

The linear map from converter codes to physical units, `(code - offset) / gain`,
with results in thousandths of a unit.
-/

set_option autoImplicit false

namespace CircuitBreaker

inductive CalibrationError where
  | zeroGain
deriving DecidableEq, Repr

def CalibrationError.message : CalibrationError → String
  | zeroGain => "ZeroGain"

instance : ToString CalibrationError := ⟨CalibrationError.message⟩

/-- Codes per unit, and the code of zero. -/
structure Calibration where
  gain : UInt32
  offset : UInt16
  gain_ne_zero : gain ≠ 0 := by decide
deriving DecidableEq, Repr

namespace Calibration

/-- The code in the middle of the range of a 16-bit converter. -/
def midscale : UInt16 := 32768

/-- The current channel with high amplification, codes per ampere. -/
def fineCurrent : Calibration where
  gain := 8738
  offset := midscale

/-- The current channel with low amplification, codes per ampere. -/
def coarseCurrent : Calibration where
  gain := 874
  offset := midscale

/-- The mains voltage channel, codes per volt. -/
def voltage : Calibration where
  gain := 79
  offset := midscale

/-- The calibration with this gain and offset; a gain of zero is refused. -/
def ofGain? (gain : UInt32) (offset : UInt16) : Except CalibrationError Calibration :=
  if zero : gain = 0 then .error .zeroGain
  else .ok { gain, offset, gain_ne_zero := zero }

/-- An RMS value in codes, in thousandths of a unit, at most `2 ^ 32 - 1`. -/
def rmsToMilli (calibration : Calibration) (codes : Nat) : UInt32 :=
  clamp32 (codes * 1000 / calibration.gain.toNat)

/-- One sample in thousandths of a unit, rounded toward zero, within 32 bits. -/
def sampleToMilli (calibration : Calibration) (code : UInt16) : Int :=
  let centred : Int := (code.toNat : Int) - calibration.offset.toNat
  max (-0x80000000) (min 0x7fffffff ((centred * 1000).tdiv calibration.gain.toNat))

end Calibration

end CircuitBreaker
