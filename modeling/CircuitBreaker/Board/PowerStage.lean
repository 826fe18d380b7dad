import CircuitBreaker.Switch.Protection

/-!
# Power stage

The switch of a board. Four output lines command it: one closes it, one resets
the protection latch, and two inject the current of a self-test, one for each
direction. A status line tells its position; the task that watches that line
latches the cause of every edge.
-/

set_option autoImplicit false

namespace CircuitBreaker.Board

inductive ControlLine where
  | onCommand
  | protectionReset
  | positiveTest
  | negativeTest
deriving DecidableEq, Repr

def ControlLine.pin : ControlLine → String
  | onCommand => "PB3"
  | protectionReset => "PB4"
  | positiveTest => "PB5"
  | negativeTest => "PB6"

/-- The line that injects the current of a direction. -/
def ControlLine.ofDirection : TestDirection → ControlLine
  | .positive => positiveTest
  | .negative => negativeTest

structure LineWrite where
  line : ControlLine
  high : Bool
deriving DecidableEq, Repr

def LineWrite.text (write : LineWrite) : String :=
  write.line.pin ++ (if write.high then "+" else "-")

/-- The level that the newest of some writes, newest first, gives to a line. -/
def writtenLevel (writes : List LineWrite) (line : ControlLine) : Option Bool :=
  (writes.find? fun write => write.line = line).map LineWrite.high

structure PowerStage where
  /-- The level of the status line. -/
  conducting : Bool := false
  /-- The command that stands. -/
  commanded : Bool := false
  /-- A self-test was started and has neither ended nor opened the switch. -/
  testActive : Bool := false
  cause : SwitchCause := .none
  /-- Edges of the status line go to the breaker. -/
  reporting : Bool := false
  temperatures : Temperatures := {}
  /-- Every write to an output line, newest first. -/
  writes : List LineWrite := []
deriving DecidableEq, Repr

namespace PowerStage

/-- The largest current limit that the comparator can be set to, in amperes. -/
def maxLimit : UInt8 := 100

def drive (stage : PowerStage) (line : ControlLine) (high : Bool) : PowerStage :=
  { stage with writes := ⟨line, high⟩ :: stage.writes }

def level (stage : PowerStage) (line : ControlLine) : Bool :=
  (writtenLevel stage.writes line).getD false

/-- The writes after the first `count`, newest first. -/
def writesSince (stage : PowerStage) (count : Nat) : List LineWrite :=
  stage.writes.take (stage.writes.length - count)

def releaseTest (stage : PowerStage) : PowerStage :=
  { (stage.drive .positiveTest false).drive .negativeTest false with testActive := false }

/-- Pulses the reset of the protection latch. -/
def resetProtection (stage : PowerStage) : PowerStage :=
  (stage.drive .protectionReset true).drive .protectionReset false

def command (stage : PowerStage) (on : Bool) : PowerStage :=
  { stage with cause := .external, commanded := on }.drive .onCommand on

/-- Closes the switch, unless it is closed or the temperatures forbid it. -/
def turnOn (stage : PowerStage) : Option SwitchCause × PowerStage :=
  if stage.conducting then (none, stage)
  else
    match stage.temperatures.closingRefusal with
    | some cause => (some cause, { stage with cause })
    | none => (none, stage.releaseTest.resetProtection.command true)

def turnOff (stage : PowerStage) : PowerStage := stage.releaseTest.command false

/-- Injects a current that must trip the over-current latch of a closed switch. -/
def startTest (stage : PowerStage) (direction : TestDirection) : Except SwitchError PowerStage :=
  if stage.conducting then
    .ok { stage.drive (.ofDirection direction) true with testActive := true }
  else .error .notClosed

/-- Takes an edge of the status line. A falling one ends the self-test, and its
cause is told from the command, the self-test and the temperatures. -/
def takeEdge (stage : PowerStage) (high : Bool) : PowerStage :=
  if high then { stage with conducting := true, cause := .external }
  else
    let edge : FallingEdge := {
      commandedOn := stage.commanded
      testActive := stage.testActive
      temperatures := stage.temperatures }
    { stage with conducting := false, testActive := false, cause := edge.cause }

instance : SwitchDriver PowerStage where
  turnOn := turnOn
  turnOff := turnOff
  isOn := PowerStage.conducting
  cause := PowerStage.cause
  setLimit stage limit := if maxLimit < limit then .error .limitOutOfRange else .ok stage
  enableEvents stage := { stage with reporting := true }
  disableEvents stage := { stage with reporting := false }

end PowerStage

end CircuitBreaker.Board
