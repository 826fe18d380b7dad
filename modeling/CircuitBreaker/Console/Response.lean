import CircuitBreaker.Console.Reply
import CircuitBreaker.Intent

/-!
# Console responses

A line from the operator, run on a breaker, with the text to send back and the
intent that the line expressed.
-/

set_option autoImplicit false

namespace CircuitBreaker

structure Response where
  reply : String
  intent : Option Intent := none
deriving DecidableEq, Repr

namespace Console

/-- The bytes that a reply may have: enough for all telemetry. -/
def replyCapacity : Nat := 2048

/-- What takes the place of a reply that does not fit. -/
def overflowMark : String := "...\n"

def errorReply (error : ConsoleError) : String := s!"ERR {error.message}\n"

/-- The intent that a command expresses once it has been run. -/
def intentOf : Command → Option Intent
  | .openBreaker => some .opened
  | .closeBreaker => some .closed
  | _ => none

end Console

open Console

/-- Parses and runs a line. A failure becomes the reply. -/
def Breaker.respond {σ ζ μ κ : Type} [SwitchDriver σ] [Mains ζ] [Meter μ] [RecordStore κ]
    (breaker : Breaker σ ζ μ κ) (line : String) (now : Nat) : Response × Breaker σ ζ μ κ :=
  match Command.parse line with
  | .error error => ({ reply := errorReply (.ofParse error) }, breaker)
  | .ok command =>
      match breaker.executeWithin replyCapacity command now with
      | (.ok reply, breaker) => ({ reply, intent := intentOf command }, breaker)
      | (.error .output, breaker) => ({ reply := overflowMark }, breaker)
      | (.error error, breaker) => ({ reply := errorReply error }, breaker)

end CircuitBreaker
