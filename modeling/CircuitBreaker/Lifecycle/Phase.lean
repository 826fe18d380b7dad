/-!
# Phases of the lifecycle

The states between open and closed, the reasons for the last change, and their
public forms.
-/

set_option autoImplicit false

namespace CircuitBreaker

inductive Phase where
  /-- Not started, or shut down. -/
  | undefined
  | opened
  /-- Counting zero crossings to tell AC from DC. -/
  | supplyWait
  /-- Waiting for the switch to report that it closed. -/
  | closeWait
  | closed
  /-- Waiting for the switch to report that it opened. -/
  | openWait
deriving DecidableEq, Repr

def Phase.all : List Phase := [.undefined, .opened, .supplyWait, .closeWait, .closed, .openWait]

def Phase.name : Phase → String
  | undefined => "Undefined"
  | opened => "Opened"
  | supplyWait => "SupplyWait"
  | closeWait => "CloseWait"
  | closed => "Closed"
  | openWait => "OpenWait"

inductive Reason where
  | none
  | external
  | overCurrentHardware
  | overCurrentDuration
  /-- Anything else that the switch driver holds. -/
  | other
deriving DecidableEq, Repr

namespace Reason

def all : List Reason := [none, external, overCurrentHardware, overCurrentDuration, other]

/-- Whether a protection, and not a command, is the reason. -/
def isProtective : Reason → Bool
  | none | external => false
  | overCurrentHardware | overCurrentDuration | other => true

def name : Reason → String
  | none => "None"
  | external => "External"
  | overCurrentHardware => "OverCurrentHw"
  | overCurrentDuration => "OverCurrentDuration"
  | other => "Other"

end Reason

inductive BreakerState where
  | undefined
  | opened
  | closed
  /-- A supply detection, a closing or an opening is under way. -/
  | transient
deriving DecidableEq, Repr

namespace BreakerState

def all : List BreakerState := [undefined, opened, closed, transient]

def name : BreakerState → String
  | undefined => "undefined"
  | opened => "opened"
  | closed => "closed"
  | transient => "transient"

def ofPhase : Phase → BreakerState
  | .undefined => undefined
  | .opened => opened
  | .closed => closed
  | .supplyWait | .closeWait | .openWait => transient

end BreakerState

/-- The reason for the last change that the breaker shows. -/
inductive TripCause where
  | none
  | external
  | overCurrentHardware
  /-- A trip of the inverse-time curve. -/
  | overCurrentSoftware
  | overCurrentTest
  | overTemperature
  | undervoltage
deriving DecidableEq, Repr

def TripCause.all : List TripCause :=
  [.none, .external, .overCurrentHardware, .overCurrentSoftware, .overCurrentTest,
    .overTemperature, .undervoltage]

def TripCause.name : TripCause → String
  | none => "none"
  | external => "external"
  | overCurrentHardware => "overcurrent-hw"
  | overCurrentSoftware => "overcurrent-sw"
  | overCurrentTest => "overcurrent-test"
  | overTemperature => "overtemperature"
  | undervoltage => "undervoltage"

end CircuitBreaker
