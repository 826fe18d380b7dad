import CircuitBreaker.Clock
import CircuitBreaker.Config.Curve

/-!
# Inverse-time monitor

At every tick the RMS current is held against each point of the curve. While it
is at or above the current of a point, the time spent there grows by the tick
interval; a point whose time reaches its duration trips the breaker.
-/

set_option autoImplicit false

namespace CircuitBreaker

inductive TickOutcome where
  /-- The monitor is stopped, or the tick is not due. -/
  | idle
  /-- The times were brought up to date. -/
  | evaluated
  /-- This point reached its duration, and the monitor stopped. -/
  | tripped (point : Nat)
deriving DecidableEq, Repr

/-- The milliseconds spent at or above the current of each point. -/
abbrev SpentTimes := Vector Nat 16

namespace SpentTimes

def zero : SpentTimes := Vector.replicate 16 0

def tickMillis : Nat := 100

/-- The time after one more tick at or above the current, at most `2 ^ 32 - 1`. -/
def grow (spent : Nat) : Nat := min 0xffffffff (spent + tickMillis)

/-- The times after a tick at `current`: those of points at or below it grow, and
those of points above it start again. Slots without a point stay as they are. -/
def charge (spent : SpentTimes) (points : List CurvePoint) (current : UInt32) : SpentTimes :=
  spent.mapIdx fun slot time =>
    match points[slot]? with
    | none => time
    | some point => if point.current ≤ current then grow time else 0

def isSpent (current : UInt32) (point : CurvePoint) (time : Nat) : Bool :=
  decide (point.current ≤ current) && decide (point.duration.toNat ≤ time)

def exceeded (spent : SpentTimes) (points : List CurvePoint) (current : UInt32) : Option Nat :=
  (points.zip spent.toList).findIdx? fun (point, time) => isSpent current point time

/-- The work of one due tick. Nothing counts while the breaker is not closed, and
a current below the lowest point clears all times. -/
def evaluate (spent : SpentTimes) (points : List CurvePoint) (current : UInt32) (closed : Bool) :
    Option Nat × SpentTimes :=
  if !closed then (none, spent)
  else
    match points with
    | [] => (none, zero)
    | lowest :: _ =>
        if current < lowest.current then (none, zero)
        else
          let charged := spent.charge points current
          (charged.exceeded points current, charged)

end SpentTimes

/-- The times spent, and the next tick while the monitor runs. -/
structure Monitor where
  spent : SpentTimes := .zero
  nextTick : Option Nat := none
deriving DecidableEq, Repr

namespace Monitor

def interval : Nat := Duration.ofMillis SpentTimes.tickMillis

/-- Schedules the first tick one interval after `now`. -/
def start (monitor : Monitor) (clock : Clock) (now : Nat) : Monitor :=
  { monitor with nextTick := some (clock.after now interval) }

/-- Schedules no more ticks; the times stay. -/
def stop (monitor : Monitor) : Monitor := { monitor with nextTick := none }

/-- Clears the times; the schedule stays. -/
def reset (monitor : Monitor) : Monitor := { monitor with spent := .zero }

def isRunning (monitor : Monitor) : Bool := monitor.nextTick.isSome

def tick (monitor : Monitor) (clock : Clock) (now : Nat) (current : UInt32)
    (points : List CurvePoint) (closed : Bool) : TickOutcome × Monitor :=
  match monitor.nextTick with
  | none => (.idle, monitor)
  | some deadline =>
      if now < deadline then (.idle, monitor)
      else
        match monitor.spent.evaluate points current closed with
        | (some point, spent) => (.tripped point, { spent, nextTick := none })
        | (none, spent) =>
            (.evaluated, { spent, nextTick := some (clock.after deadline interval) })

/-- Runs the ticks due at `now`, from the one at `deadline` on, and gives the point
that trips.

The comparison of the next deadline with this one stands for nothing in the loop that this
models. It is there for termination, and fails only where the clock is at its last instant:
the loop then never ends (`Monitor.not_ticks_of_stuck`). -/
def runFrom (clock : Clock) (now : Nat) (current : UInt32) (points : List CurvePoint)
    (closed : Bool) (deadline : Nat) (spent : SpentTimes) : Option Nat × Monitor :=
  if now < deadline then (none, { spent, nextTick := some deadline })
  else
    match spent.evaluate points current closed with
    | (some point, spent) => (some point, { spent, nextTick := none })
    | (none, spent) =>
        if deadline < clock.after deadline interval then
          runFrom clock now current points closed (clock.after deadline interval) spent
        else (none, { spent, nextTick := some (clock.after deadline interval) })
termination_by now + 1 - deadline
decreasing_by omega

def runDue (monitor : Monitor) (clock : Clock) (now : Nat) (current : UInt32)
    (points : List CurvePoint) (closed : Bool) : Option Nat × Monitor :=
  match monitor.nextTick with
  | none => (none, monitor)
  | some deadline => runFrom clock now current points closed deadline monitor.spent

end Monitor

end CircuitBreaker
