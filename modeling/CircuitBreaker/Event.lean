/-!
# Events

The inputs of the lifecycle and, while the breaker is closed, of its
closed-state mode.
-/

set_option autoImplicit false

namespace CircuitBreaker

inductive Event where
  /-- The operator asked the breaker to open. -/
  | openCommand
  /-- The operator asked the breaker to close. -/
  | closeCommand
  /-- The mains voltage crossed zero. -/
  | zeroCrossing
  /-- The inverse-time monitor saw a sustained over-current. -/
  | overCurrentDuration
  /-- The switch stopped conducting; its driver holds the cause. -/
  | switchOpened
  /-- The switch started conducting. -/
  | switchClosed
  | supplyTimerExpired
  | recoveryTimerExpired
  | recoveryResetTimerExpired
deriving DecidableEq, Repr

namespace Event

def all : List Event :=
  [openCommand, closeCommand, zeroCrossing, overCurrentDuration, switchOpened, switchClosed,
    supplyTimerExpired, recoveryTimerExpired, recoveryResetTimerExpired]

theorem mem_all (event : Event) : event ∈ all := by
  cases event <;> decide

def index : Event → Fin 9
  | openCommand => 0
  | closeCommand => 1
  | zeroCrossing => 2
  | overCurrentDuration => 3
  | switchOpened => 4
  | switchClosed => 5
  | supplyTimerExpired => 6
  | recoveryTimerExpired => 7
  | recoveryResetTimerExpired => 8

theorem index_inj {left right : Event} : left.index = right.index ↔ left = right := by
  cases left <;> cases right <;> decide

def name : Event → String
  | openCommand => "CmdOpen"
  | closeCommand => "CmdClose"
  | zeroCrossing => "ZeroCrossingVoltage"
  | overCurrentDuration => "OverCurrentDuration"
  | switchOpened => "SwitchOpened"
  | switchClosed => "SwitchClosed"
  | supplyTimerExpired => "SupplyTimerExpired"
  | recoveryTimerExpired => "RecoveryTimerExpired"
  | recoveryResetTimerExpired => "RecoveryResetTimerExpired"

end Event

end CircuitBreaker
