import CircuitBreaker.Mains

/-!
# Simulated mains

A supply that is AC at 50 Hz, with a crossing every half period, or DC.
-/

set_option autoImplicit false

namespace CircuitBreaker.Emulator

structure SimulatedMains where
  ac : Bool := true
  reporting : Bool := false
  /-- When the next crossing is to be delivered. -/
  nextCrossing : Option Nat := none
deriving DecidableEq, Repr

namespace SimulatedMains

def halfPeriod : Nat := Duration.ofMillis 10

/-- Puts the next crossing half a period after `now`, if crossings come at all. -/
def schedule (mains : SimulatedMains) (now : Nat) : SimulatedMains :=
  { mains with
    nextCrossing := if mains.ac && mains.reporting then some (now + halfPeriod) else none }

def select (mains : SimulatedMains) (ac : Bool) (now : Nat) : SimulatedMains :=
  { mains with ac }.schedule now

/-- Puts the next crossing half a period after the one just delivered. -/
def pass (mains : SimulatedMains) (crossing : Nat) : SimulatedMains :=
  if mains.nextCrossing.isSome then mains.schedule crossing else mains

instance : Mains SimulatedMains where
  frequency mains := if mains.ac then Mains.frequencyOf halfPeriod else 0
  enableEvents mains := { mains with reporting := true }.schedule 0
  disableEvents mains := { mains with reporting := false, nextCrossing := none }

end SimulatedMains

end CircuitBreaker.Emulator
