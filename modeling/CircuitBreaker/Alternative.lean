import CircuitBreaker.Mains
import CircuitBreaker.Meter
import CircuitBreaker.Switch

/-!
# Alternative collaborators

Where a breaker is to be given one of two kinds of switch, mains source or
meter, the choice between them is such a collaborator too.
-/

set_option autoImplicit false

namespace CircuitBreaker

instance {σ τ : Type} [SwitchDriver σ] [SwitchDriver τ] : SwitchDriver (σ ⊕ τ) where
  turnOn
    | .inl switch => ((SwitchDriver.turnOn switch).1, .inl (SwitchDriver.turnOn switch).2)
    | .inr switch => ((SwitchDriver.turnOn switch).1, .inr (SwitchDriver.turnOn switch).2)
  turnOff := Sum.map SwitchDriver.turnOff SwitchDriver.turnOff
  isOn := Sum.elim SwitchDriver.isOn SwitchDriver.isOn
  cause := Sum.elim SwitchDriver.cause SwitchDriver.cause
  setLimit
    | .inl switch, limit => (SwitchDriver.setLimit switch limit).map Sum.inl
    | .inr switch, limit => (SwitchDriver.setLimit switch limit).map Sum.inr
  enableEvents := Sum.map SwitchDriver.enableEvents SwitchDriver.enableEvents
  disableEvents := Sum.map SwitchDriver.disableEvents SwitchDriver.disableEvents

instance {ζ ξ : Type} [Mains ζ] [Mains ξ] : Mains (ζ ⊕ ξ) where
  frequency := Sum.elim Mains.frequency Mains.frequency
  enableEvents := Sum.map Mains.enableEvents Mains.enableEvents
  disableEvents := Sum.map Mains.disableEvents Mains.disableEvents

instance {μ ν : Type} [Meter μ] [Meter ν] : Meter (μ ⊕ ν) where
  current := Sum.elim Meter.current Meter.current
  voltage := Sum.elim Meter.voltage Meter.voltage
  temperature := Sum.elim Meter.temperature Meter.temperature

end CircuitBreaker
