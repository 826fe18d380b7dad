import CircuitBreaker.Mains
import CircuitBreaker.Meter
import CircuitBreaker.Switch

/-!
# Detached collaborators

A switch, a mains source and a meter with no hardware behind them: the switch
accepts every command and stays open, no crossing ever comes, and the meter
reads an idle line at room temperature.
-/

set_option autoImplicit false

namespace CircuitBreaker

structure DetachedSwitch where
deriving DecidableEq, Repr

instance : SwitchDriver DetachedSwitch where
  turnOn switch := (none, switch)
  turnOff switch := switch
  isOn _ := false
  cause _ := .none
  setLimit switch _ := .ok switch

structure DetachedMains where
deriving DecidableEq, Repr

instance : Mains DetachedMains where
  frequency _ := 0

structure DetachedMeter where
deriving DecidableEq, Repr

instance : Meter DetachedMeter where
  current _ := 0
  voltage _ := 0
  temperature _ _ := 25

end CircuitBreaker
