import CircuitBreaker.Switch

/-!
# Protection logic of a switch driver

The decisions that a driver takes from the temperatures of its power stage: why
the switch opened, and whether it may be closed now.
-/

set_option autoImplicit false

namespace CircuitBreaker

/-- Temperatures of the power stage in degrees Celsius. -/
structure Temperatures where
  input : Int := 25
  output : Int := 25
deriving DecidableEq, Repr

namespace Temperatures

/-- An output reading above this is no temperature: the under-voltage circuit
pulls the sense line to ground. -/
def undervoltageSentinel : Int := 200

/-- Above this a trip counts as one for over-temperature. -/
def tripLimit : Int := 80

/-- Above this the switch may not be closed. -/
def closingLimit : Int := 75

def isUndervoltage (temperatures : Temperatures) : Bool :=
  undervoltageSentinel < temperatures.output

def exceeds (temperatures : Temperatures) (limit : Int) : Bool :=
  limit < temperatures.input || limit < temperatures.output

/-- The cause that keeps the switch from being closed, if there is one. -/
def closingRefusal (temperatures : Temperatures) : Option SwitchCause :=
  if temperatures.isUndervoltage then some .undervoltage
  else if temperatures.exceeds closingLimit then some .overTemperature
  else none

end Temperatures

/-- The lines of a driver at the moment its switch opened. -/
structure FallingEdge where
  /-- The switch was still commanded on. -/
  commandedOn : Bool
  /-- A self-test was running. -/
  testActive : Bool
  temperatures : Temperatures
deriving DecidableEq, Repr

/-- Why the switch opened. Without the command it was told to; with it the
protection fired, and a running self-test or the temperatures tell which one. -/
def FallingEdge.cause (edge : FallingEdge) : SwitchCause :=
  if !edge.commandedOn then .external
  else if edge.testActive then .selfTest
  else if edge.temperatures.isUndervoltage then .undervoltage
  else if edge.temperatures.exceeds Temperatures.tripLimit then .overTemperature
  else .hardwareOvercurrent

/-- An opening against the command is a trip of the protection. -/
theorem FallingEdge.cause_ne_external {edge : FallingEdge} (commanded : edge.commandedOn = true) :
    edge.cause ≠ .external := by
  unfold cause
  rw [commanded, if_neg (by simp)]
  split
  · simp
  · split
    · simp
    · split <;> simp

/-- The direction of the current that a self-test injects. -/
inductive TestDirection where
  | positive
  | negative
deriving DecidableEq, Repr

def TestDirection.opposite : TestDirection → TestDirection
  | positive => negative
  | negative => positive

end CircuitBreaker
