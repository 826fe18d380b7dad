import CircuitBreaker.Emulator.Switch
import CircuitBreaker.Meter
import CircuitBreaker.Text.Numeral
import CircuitBreaker.Text.Words

/-!
# Emulator commands

Commands on the simulated surroundings of the breaker. A line whose first word is
not one of their keywords is meant for the breaker's own console.
-/

set_option autoImplicit false

namespace CircuitBreaker.Emulator

open Text (numeral? integer?)

inductive Command where
  /-- Lets milliseconds pass. -/
  | advance (millis : Nat)
  | supply (ac : Bool)
  /-- Delivers so many crossings now. -/
  | crossings (count : Nat)
  /-- Sets the load current in milliamperes. -/
  | current (milliamps : UInt32)
  | temperature (sensor : TemperatureSensor) (celsius : Int)
  | trip (fault : Fault)
deriving DecidableEq, Repr

namespace Command

def helpLines : List String := [
  "advance <ms>                           run virtual time forward",
  "supply ac|dc                           select the mains supply",
  "zc <n>                                 inject zero-crossings now",
  "current <mA>                           set the load current",
  "temp in|out <C>                        set a power stage temperature",
  "trip ocp|otp|uvp|test                  fire the switch protection latch"]

/-- The value that the one argument is the name of. -/
def choice? {α : Type} (names : List (String × α)) : List (List Char) → Option α
  | [word] => (names.find? fun (name, _) => name.toList = word).map Prod.snd
  | _ => none

def count? (max : Nat) : List (List Char) → Option Nat
  | [word] => numeral? max word
  | _ => none

/-- A sensor and its temperature. -/
def reading? : List (List Char) → Option (TemperatureSensor × Int)
  | [sensor, celsius] => do
      let sensor ← choice? [("in", .powerIn), ("out", .powerOut)] [sensor]
      let celsius ← integer? celsius
      some (sensor, celsius)
  | _ => none

def faults : List (String × Fault) :=
  [("ocp", .overCurrent), ("otp", .overTemperature), ("uvp", .undervoltage), ("test", .selfTest)]

/-- The keywords, each with the reader of its arguments. -/
def readers : List (String × (List (List Char) → Option Command)) := [
  ("advance", fun words => (count? 0xffffffffffffffff words).map advance),
  ("supply", fun words => (choice? [("ac", true), ("dc", false)] words).map supply),
  ("zc", fun words => (count? 0xffffffff words).map crossings),
  ("current", fun words => (count? 0xffffffff words).map fun count => current (UInt32.ofNat count)),
  ("temp", fun words => (reading? words).map fun (sensor, celsius) => temperature sensor celsius),
  ("trip", fun words => (choice? faults words).map trip)]

inductive Reading where
  /-- The line is not for the emulator. -/
  | foreign
  /-- A keyword of the emulator with arguments that are not its own. -/
  | malformed
  | command (command : Command)
deriving DecidableEq, Repr

/-- Reads a line without blanks at its ends. -/
def read (line : List Char) : Reading :=
  match Text.words line with
  | [] => .foreign
  | word :: arguments =>
      match readers.find? fun (keyword, _) => keyword.toList = word with
      | none => .foreign
      | some (_, reader) =>
          match reader arguments with
          | some command => .command command
          | none => .malformed

end Command

end CircuitBreaker.Emulator
