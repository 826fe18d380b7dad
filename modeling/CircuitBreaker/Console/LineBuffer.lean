import CircuitBreaker.Console.Error
import CircuitBreaker.Storage.Bytes

/-!
# Line buffer

Puts lines together from the bytes of a serial connection. A carriage return or
a line feed ends a line, backspace and delete take its last byte back, and a line
that gets too long is thrown away.
-/

set_option autoImplicit false

namespace CircuitBreaker

/-- The bytes of the line so far, and whether it has ended. A line that has ended
stays readable until the next byte. -/
structure LineBuffer where
  bytes : Bytes := []
  complete : Bool := false
deriving DecidableEq, Repr

inductive LineStatus where
  | pending
  /-- A line has just ended. -/
  | complete
deriving DecidableEq, Repr

namespace LineBuffer

def maxLength : Nat := 160

def isTerminator (byte : UInt8) : Bool := byte = 0x0d || byte = 0x0a

def isErasure (byte : UInt8) : Bool := byte = 0x08 || byte = 0x7f

def empty : LineBuffer := {}

def extend (buffer : LineBuffer) (byte : UInt8) : Except ConsoleError LineStatus × LineBuffer :=
  if isTerminator byte then
    if buffer.bytes = [] then (.ok .pending, buffer)
    else (.ok .complete, { buffer with complete := true })
  else if isErasure byte then (.ok .pending, { buffer with bytes := buffer.bytes.dropLast })
  else if buffer.bytes.length < maxLength then
    (.ok .pending, { buffer with bytes := buffer.bytes ++ [byte] })
  else (.error .lineOverflow, { buffer with bytes := [] })

/-- Takes a byte; the first one after an ended line starts the next line. -/
def push (buffer : LineBuffer) (byte : UInt8) : Except ConsoleError LineStatus × LineBuffer :=
  (if buffer.complete then empty else buffer).extend byte

def line (buffer : LineBuffer) : Except ConsoleError String :=
  match String.fromUTF8? ⟨buffer.bytes.toArray⟩ with
  | some line => .ok line
  | none => .error .invalidUtf8

/-- Takes bytes, and gives what happened at each one where a line ended or was lost:
its place, counted from `place`, and the line or the reason. -/
def feed (place : Nat) : Bytes → LineBuffer →
    List (Nat × Except ConsoleError (Except ConsoleError String)) × LineBuffer
  | [], buffer => ([], buffer)
  | byte :: rest, buffer =>
      match buffer.push byte with
      | (.ok .pending, buffer) => feed (place + 1) rest buffer
      | (.ok .complete, buffer) =>
          let (events, fed) := feed (place + 1) rest buffer
          ((place, .ok buffer.line) :: events, fed)
      | (.error error, buffer) =>
          let (events, fed) := feed (place + 1) rest buffer
          ((place, .error error) :: events, fed)

end LineBuffer

end CircuitBreaker
