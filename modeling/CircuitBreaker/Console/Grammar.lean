import CircuitBreaker.Console.Command
import CircuitBreaker.Text.Blank
import CircuitBreaker.Text.Numeral
import CircuitBreaker.Text.Words

/-!
# Console grammar

A line is a command if its words are a keyword and either nothing or exactly the
arguments of that keyword. Blanks around the line do not count.
-/

set_option autoImplicit false

namespace CircuitBreaker

open Text (numeral? readNumeral)

inductive ParseError where
  | malformed
  /-- The curve has more points than can be stored. -/
  | tooManyPoints
deriving DecidableEq, Repr

namespace Arguments

/-- Reads a point, `<mA>:<ms>`, from the front of a word. -/
def readPoint (word : List Char) : Option (CurvePoint × List Char) :=
  match readNumeral 0xffffffff word with
  | some (current, ':' :: rest) =>
      match readNumeral 0xffffffff rest with
      | some (duration, rest) =>
          some (⟨UInt32.ofNat current, UInt32.ofNat duration⟩, rest)
      | none => none
  | _ => none

def point? (word : List Char) : Option CurvePoint :=
  match readPoint word with
  | some (point, []) => some point
  | _ => none

/-- The points of a curve. A list that is too long is refused as such as soon as
the word after the last place for a point starts with one more. -/
def pointsOfWords (words : List (List Char)) : Except ParseError (List CurvePoint) :=
  match (words.take Curve.maxPoints).mapM point? with
  | none => .error .malformed
  | some points =>
      match words.drop Curve.maxPoints with
      | [] => .ok points
      | word :: _ => if (readPoint word).isSome then .error .tooManyPoints else .error .malformed

/-- `on` or `off`, the attempts, the delay and the reset timeout. -/
def recoveryOfWords : List (List Char) → Option RecoveryArguments
  | [switch, attempts, delay, reset] => do
      let enabled ←
        if switch = "on".toList then some true
        else if switch = "off".toList then some false
        else none
      let attempts ← numeral? 0xffff attempts
      let delay ← numeral? 0xffffffff delay
      let reset ← numeral? 0xffffffff reset
      some {
        enabled
        attempts := UInt16.ofNat attempts
        delay := UInt32.ofNat delay
        reset := UInt32.ofNat reset }
  | _ => none

def limitOfWords : List (List Char) → Option UInt8
  | [limit] => (numeral? 0xff limit).map UInt8.ofNat
  | _ => none

def modeOfWords : List (List Char) → Option ClosedMode
  | [mode] =>
      if mode = ClosedMode.steady.name.toList then some .steady
      else if mode = ClosedMode.modulated.name.toList then some .modulated
      else none
  | _ => none

/-- The crossings while closed and the crossings of the period. -/
def modulationOfWords : List (List Char) → Option ModulationSettings
  | [whileClosed, period] => do
      let whileClosed ← numeral? 0xff whileClosed
      let period ← numeral? 0xff period
      some { whileClosed := UInt8.ofNat whileClosed, period := UInt8.ofNat period }
  | _ => none

/-- No arguments, or arguments that can be read. -/
def optional {α : Type} (read : List (List Char) → Option α) (arguments : List (List Char)) :
    Except ParseError (Option α) :=
  if arguments = [] then .ok none
  else
    match read arguments with
    | some value => .ok (some value)
    | none => .error .malformed

end Arguments

namespace Command

open Arguments

def bare (command : Command) (arguments : List (List Char)) : Except ParseError Command :=
  if arguments = [] then .ok command else .error .malformed

def ofArguments (arguments : List (List Char)) : Keyword → Except ParseError Command
  | .openBreaker => bare openBreaker arguments
  | .closeBreaker => bare closeBreaker arguments
  | .status => bare status arguments
  | .points =>
      if arguments = [] then .ok (points none)
      else (pointsOfWords arguments).map fun curve => points (some curve)
  | .limit => (optional limitOfWords arguments).map limit
  | .recovery => (optional recoveryOfWords arguments).map recovery
  | .mode => (optional modeOfWords arguments).map mode
  | .modulation => (optional modulationOfWords arguments).map modulation
  | .log => bare log arguments
  | .help => bare help arguments

def ofWords : List (List Char) → Except ParseError Command
  | [] => .error .malformed
  | word :: arguments =>
      match Keyword.ofWord? word with
      | some keyword => ofArguments arguments keyword
      | none => .error .malformed

def parse (line : String) : Except ParseError Command :=
  ofWords (Text.words (Text.trim line.toList))

end Command

end CircuitBreaker
