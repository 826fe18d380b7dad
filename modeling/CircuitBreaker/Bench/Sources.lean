import CircuitBreaker.Mains
import CircuitBreaker.Meter

/-!
# Scripted sources

A mains source and a meter for the bench, whose values are set from outside.
-/

set_option autoImplicit false

namespace CircuitBreaker.Bench

structure ScriptedMains where
  frequency : UInt32 := 0
  /-- Crossings are reported. -/
  reporting : Bool := false
deriving DecidableEq, Repr

instance : Mains ScriptedMains where
  frequency := ScriptedMains.frequency
  enableEvents mains := { mains with reporting := true }
  disableEvents mains := { mains with reporting := false }

structure ScriptedMeter where
  current : UInt32 := 0
  voltage : UInt32 := 230000
deriving DecidableEq, Repr

instance : Meter ScriptedMeter where
  current := ScriptedMeter.current
  voltage := ScriptedMeter.voltage
  temperature _ _ := 30

end CircuitBreaker.Bench
