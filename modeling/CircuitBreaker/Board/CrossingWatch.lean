import CircuitBreaker.Mains

/-!
# Crossing watch

The task of a board that times the crossings of the mains. When none has come for
a while, the frequency is not known any more.
-/

set_option autoImplicit false

namespace CircuitBreaker.Board

structure CrossingWatch where
  /-- When the crossing before came. -/
  previous : Option Nat := none
  /-- When the mains count as lost. -/
  due : Nat
deriving DecidableEq, Repr

namespace CrossingWatch

/-- Without a crossing for this long the mains are DC or absent. -/
def patience : Nat := Duration.ofMillis 100

/-- Notes a crossing, and gives the frequency if there was one before it. -/
def see (watch : CrossingWatch) (clock : Clock) (now : Nat) : Option UInt32 × CrossingWatch :=
  (watch.previous.map fun previous => Mains.frequencyOf ((now - previous) * clock.tick),
    { previous := some now, due := clock.after now patience })

def expire (watch : CrossingWatch) (clock : Clock) (now : Nat) : Option UInt32 × CrossingWatch :=
  if now < watch.due then (none, watch)
  else (some 0, { previous := none, due := clock.after now patience })

end CrossingWatch

end CircuitBreaker.Board
