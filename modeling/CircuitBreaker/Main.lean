import CircuitBreaker.Emulator.Terminal

/-!
# The emulator's command line

Reads lines, shows what they lead to, and keeps the transcript in its file.
-/

set_option autoImplicit false

open CircuitBreaker CircuitBreaker.Emulator

/-- Writes a text and shows it at once. -/
def display (text : String) : IO Unit := do
  let output ← IO.getStdout
  output.putStr text
  output.flush

/-- Answers lines until the operator leaves or the input ends, and gives the exit code. In real time
the session first catches up with the clock. -/
partial def converse (options : Options) (session : Session) (seen : Nat) : IO UInt32 := do
  IO.FS.writeFile options.profile.path session.transcript.text
  let line ← try (← IO.getStdin).getLine catch _ => pure ""
  let now ← IO.monoNanosNow
  let (notices, session) :=
    if options.realTime then Terminal.catchUp session (now - seen) else ("", session)
  if session.overflowed then return Terminal.abortCode.toUInt32
  display notices
  if line = "" then
    display Terminal.farewell
    return 0
  match Terminal.handle session line with
  | .stop text => do
      display text
      return 0
  | .overflow => return Terminal.abortCode.toUInt32
  | .proceed text session => do
      display text
      converse options session now

def main (arguments : List String) : IO UInt32 := do
  match Options.ofArguments arguments with
  | .error message => do
      (← IO.getStderr).putStr s!"{message}\n{usage}\n"
      return 2
  | .ok options => do
      IO.FS.createDirAll "transcripts"
      display (Terminal.greeting options)
      converse options (.begin options.profile) (← IO.monoNanosNow)
