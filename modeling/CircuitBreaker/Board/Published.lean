import CircuitBreaker.Mains
import CircuitBreaker.Meter
import CircuitBreaker.Meter.FrontEnd

/-!
# Published readings

On a board the breaker reads what other tasks have published last: the frequency
of the mains, and the readings of the analogue front end.
-/

set_option autoImplicit false

namespace CircuitBreaker.Board

structure PublishedMains where
  /-- Millihertz; zero while no crossings come. -/
  frequency : UInt32 := 0
  /-- Crossings go to the breaker. -/
  reporting : Bool := false
deriving DecidableEq, Repr

instance : Mains PublishedMains where
  frequency := PublishedMains.frequency
  enableEvents mains := { mains with reporting := true }
  disableEvents mains := { mains with reporting := false }

structure PublishedMeter where
  readings : Readings := { current := 0, voltage := 0, temperatures := {} }
deriving DecidableEq, Repr

instance : Meter PublishedMeter where
  current meter := meter.readings.current
  voltage meter := meter.readings.voltage
  temperature
    | meter, .powerIn => meter.readings.temperatures.input
    | meter, .powerOut => meter.readings.temperatures.output

end CircuitBreaker.Board
