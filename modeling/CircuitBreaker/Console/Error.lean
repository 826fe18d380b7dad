import CircuitBreaker.Breaker
import CircuitBreaker.Console.Grammar

/-!
# Console errors
-/

set_option autoImplicit false

namespace CircuitBreaker

inductive ConsoleError where
  /-- The line is no command. -/
  | malformed
  /-- The curve has more points than can be stored. -/
  | tooManyPoints
  /-- The line is longer than a line may be. -/
  | lineOverflow
  /-- The bytes of the line are not UTF-8. -/
  | invalidUtf8
  /-- The breaker refused the command. -/
  | rejected (error : BreakerError)
  /-- The reply could not be written. -/
  | output
deriving DecidableEq, Repr

namespace ConsoleError

def message : ConsoleError → String
  | malformed => "syntax error, try `help`"
  | tooManyPoints => "too many points"
  | lineOverflow => "line too long"
  | invalidUtf8 => "invalid utf-8"
  | rejected error => s!"rejected: {error.message}"
  | output => "output error"

instance : ToString ConsoleError := ⟨message⟩

def ofParse : ParseError → ConsoleError
  | .malformed => malformed
  | .tooManyPoints => tooManyPoints

end ConsoleError

end CircuitBreaker
