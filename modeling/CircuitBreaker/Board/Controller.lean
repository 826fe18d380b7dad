import CircuitBreaker.Board.Panel
import CircuitBreaker.Board.PowerStage
import CircuitBreaker.Board.Published
import CircuitBreaker.Console.Response

/-!
# Controller

The task of a board that owns the breaker. It sleeps until there are inputs, a
line from the console, a request for a self-test, or a deadline; it polls the
breaker, does that work, and remembers what the operator asked for last.
-/

set_option autoImplicit false

namespace CircuitBreaker.Board

/-- A breaker on a board, over any store. -/
abbrev ControlledBreaker (κ : Type) := Breaker PowerStage PublishedMains PublishedMeter κ

inductive Wake where
  /-- All inputs that were queued. -/
  | inputs (inputs : List Input)
  | line (line : String)
  | selfTest (direction : TestDirection)
  | deadline
deriving DecidableEq, Repr

namespace Controller

variable {κ : Type} [RecordStore κ]

/-- Stores what the operator asked for; a store that fails is left as it is. -/
def remember (breaker : ControlledBreaker κ) (intent : Intent) : ControlledBreaker κ :=
  match intent.save breaker.store with
  | .ok store => { breaker with store }
  | .error _ => breaker

def apply (breaker : ControlledBreaker κ) (input : Input) (now : Nat) : ControlledBreaker κ :=
  match breaker.handleInput input now with
  | .ok breaker =>
      match Intent.ofInput input with
      | some intent => remember breaker intent
      | none => breaker
  | .error _ => breaker

/-- Initializes the breaker and brings the intended position back. -/
def start (breaker : ControlledBreaker κ) (now : Nat) : ControlledBreaker κ :=
  let breaker := { breaker.init now with observed := true }
  match breaker.handleInput (Intent.load breaker.store).input now with
  | .ok breaker => breaker
  | .error _ => breaker

def poll (breaker : ControlledBreaker κ) (now : Nat) : ControlledBreaker κ :=
  match breaker.poll now with
  | .ok breaker => breaker
  | .error _ => breaker

/-- Does the work that the controller woke for; a line from the console gets a reply. -/
def work (breaker : ControlledBreaker κ) (wake : Wake) (now : Nat) :
    Option String × ControlledBreaker κ :=
  match wake with
  | .inputs inputs => (none, inputs.foldl (fun breaker input => apply breaker input now) breaker)
  | .line line =>
      match breaker.respond line now with
      | (response, breaker) =>
          match response.intent with
          | some intent => (some response.reply, remember breaker intent)
          | none => (some response.reply, breaker)
  | .selfTest direction =>
      match breaker.switch.startTest direction with
      | .ok switch => (none, { breaker with switch })
      | .error _ => (none, breaker)
  | .deadline => (none, breaker)

def serve (breaker : ControlledBreaker κ) (wake : Wake) (now : Nat) :
    Option String × ControlledBreaker κ :=
  match work (poll breaker now) wake now with
  | (reply, breaker) => (reply, breaker.dispatchNotice.2)

def indication (breaker : ControlledBreaker κ) : Indication where
  state := breaker.state
  cause := breaker.cause

def isDue (breaker : ControlledBreaker κ) (now : Nat) : Bool :=
  match breaker.nextDeadline with
  | some deadline => deadline ≤ now
  | none => false

end Controller

end CircuitBreaker.Board
