import CircuitBreaker.Clock
import CircuitBreaker.Console.LineBuffer

/-!
# Serial console

The task of a board that puts lines together from a serial connection, hands them
to the controller one at a time, and sends the replies.
-/

set_option autoImplicit false

namespace CircuitBreaker.Board

inductive Received where
  | byte (byte : UInt8)
  /-- Reading fails once. -/
  | fault
deriving DecidableEq, Repr

inductive SerialState where
  | reading
  /-- A line is with the controller. -/
  | awaitingReply
  /-- Reading has failed and goes on later. -/
  | asleep (due : Nat)
  /-- There is no connection. -/
  | offline
deriving DecidableEq, Repr

structure Serial where
  state : SerialState := .reading
  buffer : LineBuffer := .empty
  /-- What has arrived and has not been read. -/
  received : List Received := []
  /-- Nothing that is sent arrives. -/
  muted : Bool := false
  sent : String := ""
deriving DecidableEq, Repr

namespace Serial

def prompt : String := "> "

def overflowText : String := "\r\nERR line too long\n"

def invalidText : String := "\r\nERR invalid line\n"

def retryDelay : Nat := Duration.ofMillis 5

def send (serial : Serial) (text : String) : Serial :=
  if serial.muted then serial else { serial with sent := serial.sent ++ text }

def begin (rejected : Bool) : Serial :=
  if rejected then { state := .offline } else ({} : Serial).send prompt

/-- Reads until a line is complete, reading fails or nothing is left. -/
def consume (clock : Clock) (now : Nat) : List Received → Serial → Option String × Serial
  | [], serial => (none, { serial with state := .reading, received := [] })
  | .fault :: rest, serial =>
      (none, { serial with state := .asleep (clock.after now retryDelay), received := rest })
  | .byte byte :: rest, serial =>
      match serial.buffer.push byte with
      | (.ok .pending, buffer) => consume clock now rest { serial with buffer }
      | (.ok .complete, buffer) =>
          match buffer.line with
          | .ok line =>
              (some line,
                { serial with state := .awaitingReply, buffer, received := rest }.send "\r\n")
          | .error _ =>
              consume clock now rest ({ serial with buffer }.send (invalidText ++ prompt))
      | (.error _, buffer) =>
          consume clock now rest ({ serial with buffer }.send (overflowText ++ prompt))

/-- Goes on with what there is, and gives the next line for the controller. -/
def run (serial : Serial) (clock : Clock) (reply : Option String) (now : Nat) :
    Option String × Serial :=
  match serial.state, reply with
  | .offline, _ => (none, serial)
  | .awaitingReply, none => (none, serial)
  | .awaitingReply, some text => consume clock now serial.received (serial.send (text ++ prompt))
  | .asleep due, _ =>
      if now < due then (none, serial) else consume clock now serial.received serial
  | .reading, _ => consume clock now serial.received serial

end Serial

end CircuitBreaker.Board
