import CircuitBreaker.Meter
import CircuitBreaker.Switch.Protection

/-!
# Simulated meter

Readings that are set by commands.
-/

set_option autoImplicit false

namespace CircuitBreaker.Emulator

structure SimulatedMeter where
  current : UInt32 := 0
  voltage : UInt32 := 230000
  temperatures : Temperatures := {}
deriving DecidableEq, Repr

def SimulatedMeter.heat (meter : SimulatedMeter) (sensor : TemperatureSensor) (celsius : Int) :
    SimulatedMeter :=
  match sensor with
  | .powerIn => { meter with temperatures := { meter.temperatures with input := celsius } }
  | .powerOut => { meter with temperatures := { meter.temperatures with output := celsius } }

instance : Meter SimulatedMeter where
  current := SimulatedMeter.current
  voltage := SimulatedMeter.voltage
  temperature
    | meter, .powerIn => meter.temperatures.input
    | meter, .powerOut => meter.temperatures.output

end CircuitBreaker.Emulator
