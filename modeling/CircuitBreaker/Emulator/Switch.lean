import CircuitBreaker.Input
import CircuitBreaker.Switch.Protection

/-!
# Simulated switch

A switch that follows its commands at once and keeps the edges of its position
until they are taken. A fault opens it the way the protection latch does.
-/

set_option autoImplicit false

namespace CircuitBreaker.Emulator

inductive Fault where
  | overCurrent
  | overTemperature
  | undervoltage
  | selfTest
deriving DecidableEq, Repr

def Fault.name : Fault → String
  | overCurrent => "OverCurrent"
  | overTemperature => "OverTemperature"
  | undervoltage => "Undervoltage"
  | selfTest => "SelfTest"

/-- The temperatures that the latch sees when the fault strikes. -/
def Fault.temperatures (fault : Fault) (temperatures : Temperatures) : Temperatures :=
  match fault with
  | overCurrent | selfTest => temperatures
  | overTemperature => { temperatures with input := max temperatures.input 95 }
  | undervoltage => { temperatures with output := 250 }

structure SimulatedSwitch where
  on : Bool := false
  commanded : Bool := false
  cause : SwitchCause := .none
  /-- Edges are kept. -/
  reporting : Bool := false
  temperatures : Temperatures := {}
  /-- The edges not taken yet, oldest first. -/
  edges : List Input := []
deriving DecidableEq, Repr

namespace SimulatedSwitch

def maxLimit : UInt8 := 100

/-- Moves to a position, if it is another one, and keeps the edge. -/
def move (switch : SimulatedSwitch) (on : Bool) : SimulatedSwitch :=
  if switch.on = on then switch
  else
    { switch with
      on
      edges := if switch.reporting then switch.edges ++ [.switchChanged on] else switch.edges }

def turnOn (switch : SimulatedSwitch) : Option SwitchCause × SimulatedSwitch :=
  match switch.temperatures.closingRefusal with
  | some cause => (some cause, { switch with cause })
  | none => (none, { switch with commanded := true, cause := .external }.move true)

def turnOff (switch : SimulatedSwitch) : SimulatedSwitch :=
  { switch with commanded := false, cause := .external }.move false

/-- Opens the switch by a fault; an open one cannot be opened. -/
def strike? (switch : SimulatedSwitch) (fault : Fault) : Option SimulatedSwitch :=
  if switch.on then
    let edge : FallingEdge := {
      commandedOn := switch.commanded
      testActive := fault = .selfTest
      temperatures := fault.temperatures switch.temperatures }
    some ({ switch with cause := edge.cause }.move false)
  else none

def takeEdge (switch : SimulatedSwitch) : Option Input × SimulatedSwitch :=
  (switch.edges.head?, { switch with edges := switch.edges.tail })

instance : SwitchDriver SimulatedSwitch where
  turnOn := turnOn
  turnOff := turnOff
  isOn := SimulatedSwitch.on
  cause := SimulatedSwitch.cause
  setLimit switch limit := if maxLimit < limit then .error .limitOutOfRange else .ok switch
  enableEvents switch := { switch with reporting := true }
  disableEvents switch := { switch with reporting := false, edges := [] }

end SimulatedSwitch

end CircuitBreaker.Emulator
