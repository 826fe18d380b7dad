import CircuitBreaker.Console.Reply
import CircuitBreaker.Emulator.Command
import CircuitBreaker.Emulator.Mains
import CircuitBreaker.Emulator.Meter
import CircuitBreaker.Emulator.Switch
import CircuitBreaker.Emulator.Transcript
import CircuitBreaker.Storage.Frame
import CircuitBreaker.Storage.Ram

/-!
# Emulator sessions

A breaker among simulated surroundings, in virtual time. Time moves from one
event to the next: a crossing of the mains or a deadline of the breaker. After
every event the edges of the switch are fed back and the pending notice is told.

Virtual time is the duration since the start. To ask for an instant after the
longest duration ends the program, which a session notes.
-/

set_option autoImplicit false

namespace CircuitBreaker.Emulator

abbrev SimulatedBreaker :=
  Breaker SimulatedSwitch SimulatedMains SimulatedMeter (FramedStore Ram)

structure Session where
  breaker : SimulatedBreaker
  /-- Virtual time, in nanoseconds. -/
  now : Nat := 0
  /-- The lines of the reply that is being put together. -/
  output : List String := []
  transcript : Transcript
  /-- The program has come to its end at an instant after the longest duration. Nothing that the
  session does from there on is ever seen. -/
  overflowed : Bool := false

namespace Session

def storeSize : Nat := 256

/-- A session at its start, with an initialized breaker on erased storage. -/
def begin (profile : Profile) : Session where
  breaker := (Breaker.ofParts .nanos {} {} {} { storage := Ram.erased storeSize }).init 0
  transcript := Transcript.heading profile

def say (session : Session) (line : String) : Session :=
  { session with output := session.output ++ [line] }

def timeText (now : Nat) : String := s!"t=+{Duration.toMillis now} ms"

section Overflow

def isBeyond (instant : Nat) : Bool := Duration.longest < instant

theorem isBeyond_iff {instant : Nat} : isBeyond instant = true ↔ Duration.longest < instant :=
  decide_eq_true_iff

def awaited (session : Session) : List Nat :=
  session.breaker.lifecycle.timers.deadlines ++ session.breaker.monitor.nextTick.toList ++
    session.breaker.mains.nextCrossing.toList

/-- Looks for an instant that there is not. -/
def watch (session : Session) : Session :=
  { session with overflowed := session.overflowed || session.awaited.any isBeyond }

/-- Whether there is no instant for the tick after the one that is due. A tick that trips asks for
it too, before it stops the monitor. No more than one is due at a time, since a session polls at
every deadline. -/
def lacksTick (session : Session) : Bool :=
  session.breaker.monitor.nextTick.any fun tick =>
    tick ≤ session.now && isBeyond (Clock.nanos.after tick Monitor.interval)

end Overflow

section Events

/-- Hands an input to the breaker, which refuses none while it is initialized. -/
def input (session : Session) (input : Input) : Session :=
  match session.breaker.handleInput input session.now with
  | .ok breaker => { session with breaker }.watch
  | .error _ => session

def poll (session : Session) : Session :=
  match session.breaker.poll session.now with
  | .ok breaker =>
      { session with breaker, overflowed := session.overflowed || session.lacksTick }.watch
  | .error _ => session

def withSwitch (session : Session) (switch : SimulatedSwitch) : Session :=
  { session with breaker := { session.breaker with switch } }

def withMains (session : Session) (mains : SimulatedMains) : Session :=
  { session with breaker := { session.breaker with mains } }

/-- Feeds back the edges of the switch, at most `rounds` of them. -/
def feedEdges : Nat → Session → Session
  | 0, session => session
  | rounds + 1, session =>
      match session.breaker.switch.takeEdge with
      | (none, _) => session
      | (some edge, switch) => feedEdges rounds ((session.withSwitch switch).input edge)

def noticeLine (now : Nat) (notice : Notice) : String :=
  s!"! {timeText now} {notice.state.name} {notice.cause.name}"

def announce (session : Session) : Session :=
  match session.breaker.dispatchNotice with
  | (none, breaker) => { session with breaker }
  | (some notice, breaker) => { session with breaker }.say (noticeLine session.now notice)

/-- Feeds back every edge and tells the pending notice. An edge moves the switch
only where it ends the modulation cycle, which happens once at most, so one round
more than there are edges is enough. -/
def settle (session : Session) : Session :=
  (session.feedEdges (session.breaker.switch.edges.length + 1)).announce

def nextEvent (session : Session) : Option Nat :=
  match session.breaker.mains.nextCrossing, session.breaker.nextDeadline with
  | some crossing, some deadline => some (min crossing deadline)
  | some crossing, none => some crossing
  | none, deadline => deadline

def cross (session : Session) : Session :=
  let mains := session.breaker.mains
  if mains.nextCrossing = some session.now then
    (session.withMains (mains.pass session.now)).watch.input .zeroCrossing
  else session

/-- Moves to an instant and does what is due then. -/
def visit (session : Session) (now : Nat) : Session :=
  { session with now }.cross.poll.settle

/-- Visits the event at `event` and every later one up to `target`. An event never
leaves another one for the same instant. -/
def visitFrom (target : Nat) (session : Session) (event : Nat) : Session :=
  let visited := session.visit event
  match visited.nextEvent with
  | none => visited
  | some next =>
      if event < next ∧ next ≤ target then visitFrom target visited next else visited
termination_by target - event

/-- Visits every event up to `target`, then `target` itself. -/
def advanceTo (session : Session) (target : Nat) : Session :=
  let visited :=
    match session.nextEvent with
    | none => session
    | some event => if event ≤ target then session.visitFrom target event else session
  { visited with now := target }.poll.settle

/-- Lets time pass, if there is an instant to pass to. -/
def pass (session : Session) (duration : Nat) : Session :=
  let target := session.now + duration
  if isBeyond target then { session with overflowed := true } else session.advanceTo target

end Events

section Commands

/-- Delivers crossings now, each with what follows from it. -/
def injectCrossings : Nat → Session → Session
  | 0, session => session
  | count + 1, session => injectCrossings count (session.input .zeroCrossing).settle

def strike (session : Session) (fault : Fault) : Session :=
  match session.breaker.switch.strike? fault with
  | some switch => (session.withSwitch switch).say s!"ok latch {fault.name}"
  | none => session.say "ERR switch already open"

/-- Sets a temperature for the meter and for the protection of the switch. -/
def heat (session : Session) (sensor : TemperatureSensor) (celsius : Int) : Session :=
  let meter := session.breaker.meter.heat sensor celsius
  let switch := { session.breaker.switch with temperatures := meter.temperatures }
  { session with breaker := { session.breaker with meter, switch } }

def run (session : Session) : Command → Session
  | .advance millis =>
      let advanced := session.pass (Duration.ofMillis millis)
      advanced.say s!"ok {timeText advanced.now} {advanced.breaker.state.name}"
  | .supply ac =>
      let selected := session.withMains (session.breaker.mains.select ac session.now)
      selected.watch.say (if ac then "ok supply ac" else "ok supply dc")
  | .crossings count => (injectCrossings count session).say s!"ok {count} crossings"
  | .current milliamps =>
      let meter := { session.breaker.meter with current := milliamps }
      { session with breaker := { session.breaker with meter } }.say
        s!"ok current {milliamps.toNat} mA"
  | .temperature sensor celsius =>
      (session.heat sensor celsius).say s!"ok temp {sensor.name} {celsius} C"
  | .trip fault => (session.strike fault).settle

def sayAll (session : Session) (lines : List String) : Session :=
  { session with output := session.output ++ lines }

/-- Runs a command of the breaker's console. Help tells the emulator's commands too. -/
def runConsole (session : Session) (command : CircuitBreaker.Command) : Session :=
  let replied :=
    match session.breaker.execute command session.now with
    | .ok (lines, breaker) => { session with breaker }.watch.sayAll lines
    | .error error => session.say s!"ERR {(ConsoleError.rejected error).message}"
  let helped := if command = .help then replied.sayAll Command.helpLines else replied
  helped.settle

/-- Runs a line without blanks at its ends. -/
def runLine (session : Session) (line : String) : Session :=
  match Command.read line.toList with
  | .command command => session.run command
  | .malformed => session.say s!"ERR {ConsoleError.malformed.message}"
  | .foreign =>
      match CircuitBreaker.Command.parse line with
      | .ok command => session.runConsole command
      | .error error => session.say s!"ERR {(ConsoleError.ofParse error).message}"

/-- Takes the reply, which goes into the transcript. -/
def takeReply (session : Session) : List String × Session :=
  (session.output, { session with
    output := []
    transcript := session.transcript.add session.now .emulator session.output })

/-- Runs a line from the operator and gives the reply. A blank line is nothing. -/
def handleLine (session : Session) (line : String) : List String × Session :=
  let command := String.ofList (Text.trim line.toList)
  if command = "" then ([], session)
  else
    let heard := { session with
      transcript := session.transcript.add session.now .host [command] }
    (heard.runLine command).takeReply

/-- Lets time pass without the operator and gives the notices of it. -/
def runFor (session : Session) (duration : Nat) : List String × Session :=
  (session.pass duration).takeReply

end Commands

end Session

end CircuitBreaker.Emulator
