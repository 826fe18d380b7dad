import CircuitBreaker.Board.Panel
import CircuitBreaker.Board.PowerStage
import CircuitBreaker.Board.Published

/-!
# What tasks share

The values through which the tasks of a board see each other's work.
-/

set_option autoImplicit false

namespace CircuitBreaker.Board

structure Shared where
  stage : PowerStage := {}
  mains : PublishedMains := {}
  meter : PublishedMeter := {}
  /-- What the breaker has last shown. -/
  indication : Indication := {}
deriving DecidableEq, Repr

/-- Publishes readings, with the temperatures also for the power stage. -/
def Shared.publish (shared : Shared) (readings : Readings) : Shared :=
  { shared with
    meter := { readings }
    stage := { shared.stage with temperatures := readings.temperatures } }

end CircuitBreaker.Board
