import CircuitBreaker.Config.Curve
import CircuitBreaker.Config.Modulation
import CircuitBreaker.Config.Recovery

/-!
# Console commands

What an operator can ask for. A command that sets something shows it when it is
given without arguments.
-/

set_option autoImplicit false

namespace CircuitBreaker

inductive Keyword where
  | openBreaker
  | closeBreaker
  | status
  | points
  | limit
  | recovery
  | mode
  | modulation
  | log
  | help
deriving DecidableEq, Repr

namespace Keyword

def all : List Keyword :=
  [openBreaker, closeBreaker, status, points, limit, recovery, mode, modulation, log, help]

theorem mem_all (keyword : Keyword) : keyword ∈ all := by
  cases keyword <;> decide

def text : Keyword → String
  | openBreaker => "open"
  | closeBreaker => "close"
  | status => "status"
  | points => "points"
  | limit => "limit"
  | recovery => "recovery"
  | mode => "mode"
  | modulation => "modulation"
  | log => "log"
  | help => "help"

def ofWord? (word : List Char) : Option Keyword :=
  all.find? fun keyword => keyword.text.toList = word

end Keyword

/-- The arguments of `recovery`, with the times in milliseconds. -/
structure RecoveryArguments where
  enabled : Bool
  attempts : UInt16
  delay : UInt32
  reset : UInt32
deriving DecidableEq, Repr

/-- The settings that result from `settings`; the mode stays. -/
def RecoveryArguments.applyTo (arguments : RecoveryArguments) (settings : RecoverySettings) :
    RecoverySettings :=
  { settings with
    enabled := arguments.enabled
    attempts := arguments.attempts
    delay := Duration.ofMillis arguments.delay.toNat
    resetTimeout := Duration.ofMillis arguments.reset.toNat }

inductive Command where
  | openBreaker
  | closeBreaker
  | status
  | points (curve : Option (List CurvePoint))
  | limit (limit : Option UInt8)
  | recovery (arguments : Option RecoveryArguments)
  | mode (mode : Option ClosedMode)
  | modulation (settings : Option ModulationSettings)
  | log
  | help
deriving DecidableEq, Repr

namespace Command

def keyword : Command → Keyword
  | openBreaker => .openBreaker
  | closeBreaker => .closeBreaker
  | status => .status
  | points _ => .points
  | limit _ => .limit
  | recovery _ => .recovery
  | mode _ => .mode
  | modulation _ => .modulation
  | log => .log
  | help => .help

def arguments : Command → List String
  | points (some curve) =>
      curve.map fun point => s!"{point.current.toNat}:{point.duration.toNat}"
  | limit (some amount) => [toString amount.toNat]
  | recovery (some values) =>
      [if values.enabled then "on" else "off", toString values.attempts.toNat,
        toString values.delay.toNat, toString values.reset.toNat]
  | mode (some closedMode) => [closedMode.name]
  | modulation (some settings) =>
      [toString settings.whileClosed.toNat, toString settings.period.toNat]
  | _ => []

/-- The words of a command as an operator types them. -/
def words (command : Command) : List String := command.keyword.text :: command.arguments

end Command

end CircuitBreaker
