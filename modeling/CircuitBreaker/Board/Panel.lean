import CircuitBreaker.Clock
import CircuitBreaker.Input
import CircuitBreaker.Lifecycle.Phase

/-!
# Panel

The button and the lamp of a board: what a press asks for, and how the lamp shows
the state of the breaker.
-/

set_option autoImplicit false

namespace CircuitBreaker.Board

structure Indication where
  state : BreakerState := .undefined
  cause : TripCause := .none
deriving DecidableEq, Repr

inductive Press where
  | short
  | long
deriving DecidableEq, Repr

namespace Press

def all : List Press := [short, long]

def name : Press → String
  | short => "Short"
  | long => "Long"

/-- A shorter press is contact bounce. -/
def debounce : Nat := Duration.ofMillis 30

/-- A press of this length or more is long. -/
def longest : Nat := Duration.ofSeconds 2

/-- What holding the button for a time means. -/
def ofHold? (held : Nat) : Option Press :=
  if held < debounce then none
  else if held < longest then some short
  else some long

end Press

/-- What a short press asks for: the other position, and to open while the breaker
is on its way. -/
def toggle : BreakerState → Input
  | .opened | .undefined => .closeRequest
  | .closed | .transient => .openRequest

inductive LampPattern where
  | off
  | on
  /-- The breaker is on its way. -/
  | fastBlink
  /-- A protection opened the breaker. -/
  | slowBlink
deriving DecidableEq, Repr

namespace LampPattern

def all : List LampPattern := [off, on, fastBlink, slowBlink]

def name : LampPattern → String
  | off => "Off"
  | on => "On"
  | fastBlink => "FastBlink"
  | slowBlink => "SlowBlink"

def ofIndication (indication : Indication) : LampPattern :=
  match indication.state, indication.cause with
  | .closed, _ => on
  | .transient, _ => fastBlink
  | .opened, .none | .opened, .external | .undefined, _ => off
  | .opened, _ => slowBlink

/-- How long the lamp holds each level, if it blinks. -/
def halfPeriod : LampPattern → Option Nat
  | off | on => none
  | fastBlink => some (Duration.ofMillis 100)
  | slowBlink => some (Duration.ofMillis 500)

def next (pattern : LampPattern) (lit : Bool) : Bool :=
  match pattern with
  | off => false
  | on => true
  | fastBlink | slowBlink => !lit

end LampPattern

structure Lamp where
  lit : Bool := false
  due : Nat := 0
deriving DecidableEq, Repr

namespace Lamp

/-- How often a steady lamp looks at the breaker. -/
def refresh : Nat := Duration.ofMillis 50

def update (lamp : Lamp) (clock : Clock) (indication : Indication) (now : Nat) : Lamp :=
  if now < lamp.due then lamp
  else
    let pattern := LampPattern.ofIndication indication
    { lit := pattern.next lamp.lit
      due := clock.after now (pattern.halfPeriod.getD refresh) }

end Lamp

end CircuitBreaker.Board
