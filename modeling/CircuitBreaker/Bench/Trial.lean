import CircuitBreaker.Breaker

/-!
# Trials

What the surroundings of a breaker do to it on the bench: reports of the position
of the switch, and a train of mains crossings.
-/

set_option autoImplicit false

namespace CircuitBreaker.Breaker

variable {σ ζ μ κ : Type} [SwitchDriver σ]

def reportPosition (breaker : Breaker σ ζ μ κ) (now : Nat) :
    Except BreakerError (Breaker σ ζ μ κ) :=
  breaker.handleInput (.switchChanged (SwitchDriver.isOn breaker.switch)) now

/-- The breaker after a report that it may turn down. -/
def offerReport (breaker : Breaker σ ζ μ κ) (now : Nat) : Breaker σ ζ μ κ :=
  match breaker.reportPosition now with
  | .ok reported => reported
  | .error _ => breaker

structure Train where
  /-- The time between two crossings. -/
  spacing : Nat
  /-- The breaker is polled before each crossing. -/
  polled : Bool
  /-- A change of position caused by a crossing is reported at once. -/
  reported : Bool
deriving DecidableEq, Repr

variable [Meter μ]

def crossOnce (breaker : Breaker σ ζ μ κ) (train : Train) (now : Nat) :
    Except BreakerError (Breaker σ ζ μ κ) := do
  let breaker ← if train.polled then breaker.poll now else .ok breaker
  let crossed ← breaker.handleInput .zeroCrossing now
  let moved := SwitchDriver.isOn crossed.switch != SwitchDriver.isOn breaker.switch
  .ok (if train.reported && moved then crossed.offerReport now else crossed)

def cross (train : Train) : Nat → Breaker σ ζ μ κ → Nat →
    Option BreakerError × Breaker σ ζ μ κ
  | 0, breaker, _ => (none, breaker)
  | count + 1, breaker, now =>
      match breaker.crossOnce train now with
      | .error error => (some error, breaker)
      | .ok breaker => cross train count breaker (now + train.spacing)

end CircuitBreaker.Breaker
