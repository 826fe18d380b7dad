/-!
# Switch drivers

The solid-state switch as the breaker sees it: commands that may be refused or
may take effect late, a position, and the cause of the last change of position.
The breaker works over any type with a `SwitchDriver` instance.
-/

set_option autoImplicit false

namespace CircuitBreaker

/-- Why the switch last changed position, as held by its driver. -/
inductive SwitchCause where
  | none
  /-- Commanded: by the operator, the lifecycle or the modulation cycle. -/
  | external
  | hardwareOvercurrent
  | overTemperature
  /-- The over-current protection was tested. -/
  | selfTest
  | undervoltage
deriving DecidableEq, Repr

namespace SwitchCause

def name : SwitchCause → String
  | none => "None"
  | external => "External"
  | hardwareOvercurrent => "HardwareOvercurrent"
  | overTemperature => "OverTemperature"
  | selfTest => "OcpTest"
  | undervoltage => "Undervoltage"

def all : List SwitchCause :=
  [none, external, hardwareOvercurrent, overTemperature, selfTest, undervoltage]

end SwitchCause

inductive SwitchError where
  /-- The hardware cannot be set to the requested current limit. -/
  | limitOutOfRange
  /-- The self-test needs a closed switch. -/
  | notClosed
deriving DecidableEq, Repr

def SwitchError.message : SwitchError → String
  | limitOutOfRange => "LimitOutOfRange"
  | notClosed => "NotClosed"

instance : ToString SwitchError := ⟨SwitchError.message⟩

/-- A switch that can be commanded and read. Nothing relates the position to the
commands: a switch may lag behind them, ignore them or open on its own. -/
class SwitchDriver (σ : Type) where
  /-- Asks the switch to close; answers the cause of a refusal, if it refuses. -/
  turnOn : σ → Option SwitchCause × σ
  /-- Asks the switch to open. -/
  turnOff : σ → σ
  /-- Whether the switch conducts. -/
  isOn : σ → Bool
  /-- The cause held since the last change of position. -/
  cause : σ → SwitchCause
  /-- Sets the hardware current limit; a refused limit leaves the switch as it was. -/
  setLimit : σ → UInt8 → Except SwitchError σ
  /-- Starts reporting changes of position. -/
  enableEvents : σ → σ := id
  /-- Stops reporting changes of position. -/
  disableEvents : σ → σ := id

end CircuitBreaker
