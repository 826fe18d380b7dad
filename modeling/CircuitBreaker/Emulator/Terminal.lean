import CircuitBreaker.Emulator.Session
import CircuitBreaker.Storage.Bytes
import CircuitBreaker.Text.Lines

/-!
# Terminal

The emulator as a program: its arguments, what it shows before and after a line,
and when it stops.
-/

set_option autoImplicit false

namespace CircuitBreaker.Emulator

structure Options where
  profile : Profile := .cycle
  /-- Virtual time follows the wall clock; otherwise only commands move it. -/
  realTime : Bool := true
deriving DecidableEq, Repr

namespace Options

/-- The tag that an argument names, with or without its option in front. -/
def tagOf (argument : String) : String :=
  let option := "--profile=".toList
  if option.isPrefixOf argument.toList then String.ofList (argument.toList.drop option.length)
  else argument

def accept (options : Options) (argument : String) : Except String Options :=
  if argument = "--paused" then .ok { options with realTime := false }
  else if argument = "--realtime" then .ok { options with realTime := true }
  else
    match Profile.ofTag? (tagOf argument) with
    | some profile => .ok { options with profile }
    | none => .error (Profile.unknownMessage (tagOf argument))

/-- Reads the arguments; of two that disagree the later one counts. -/
def ofArguments (arguments : List String) : Except String Options :=
  arguments.foldlM accept {}

end Options

def usage : String := "Usage: breaker-emulator [cycle|recovery|curve] [--paused]"

namespace Terminal

def prompt : String := "> "

/-- What is shown before the first line. -/
def greeting (options : Options) : String :=
  let pace := if options.realTime then "real-time" else "paused"
  s!"Breaker emulator, {pace} virtual time. `help` lists commands, `quit` leaves.\n" ++ prompt

def farewell : String := "\n"

inductive Outcome where
  /-- The text is shown, and the session goes on. -/
  | proceed (text : String) (session : Session)
  /-- The text is shown, and the program ends. -/
  | stop (text : String)
  /-- Nothing more is shown: the program ends at an instant that there is not. -/
  | overflow

def handle (session : Session) (line : String) : Outcome :=
  let command := String.ofList (Text.trim line.toList)
  if command = "" then .proceed prompt session
  else if command = "quit" ∨ command = "exit" then .stop "Emulator stopped.\n"
  else
    match session.handleLine command with
    | (reply, session) =>
        if session.overflowed then .overflow else .proceed (Console.text reply ++ prompt) session

/-- What is shown for the notices of time that has passed: nothing if there are none. -/
def catchUp (session : Session) (elapsed : Nat) : String × Session :=
  match session.runFor elapsed with
  | ([], session) => ("", session)
  | (notices, session) => ("\n" ++ Console.text notices ++ prompt, session)

/-- The exit code of a program that ends without its own doing. -/
def abortCode : Nat := 101

/-- The exit code after these lines of input, and everything shown for them. A line that is no UTF-8
ends the input. -/
def transcribe (session : Session) : List Bytes → Nat × String
  | [] => (0, farewell)
  | line :: rest =>
      match String.fromUTF8? ⟨line.toArray⟩ with
      | none => (0, farewell)
      | some line =>
          match handle session line with
          | .stop text => (0, text)
          | .overflow => (abortCode, "")
          | .proceed text session => (transcribe session rest).map id (text ++ ·)

end Terminal

/-- What a run of a program leaves behind. -/
structure ProgramResult where
  code : Nat
  output : String
  errors : String
deriving DecidableEq, Repr

/-- Runs the program on all of its input, in no time. What the runtime says of an overflow is left
out. -/
def runProgram (arguments : List String) (input : Bytes) : ProgramResult :=
  match Options.ofArguments arguments with
  | .error message => { code := 2, output := "", errors := s!"{message}\n{usage}\n" }
  | .ok options =>
      let (code, shown) :=
        Terminal.transcribe (.begin options.profile) (Text.splitLines 0x0a 0x0d input)
      { code, output := Terminal.greeting options ++ shown, errors := "" }

end CircuitBreaker.Emulator
