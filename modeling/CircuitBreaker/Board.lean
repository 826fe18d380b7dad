import CircuitBreaker.Board.Controller
import CircuitBreaker.Board.CrossingWatch
import CircuitBreaker.Board.Flash
import CircuitBreaker.Board.Sampler
import CircuitBreaker.Board.Serial
import CircuitBreaker.Board.Shared
import CircuitBreaker.Storage.Frame

/-!
# Board

A control board: a breaker over a power stage and a flash page, and the tasks
around it, which run in rounds. In a round every task runs until it has to wait;
the tasks share a queue of inputs, a line for the controller, its reply, and a
request for a self-test.
-/

set_option autoImplicit false

namespace CircuitBreaker

open Board

namespace Board

/-- An input line, and whether it has changed since its task looked. -/
structure InputLine where
  high : Bool
  changed : Bool := false
deriving DecidableEq, Repr

def InputLine.drive (line : InputLine) (high : Bool) : InputLine :=
  if line.high = high then line else { high, changed := true }

inductive InputPin where
  | status
  | mains
  | button
deriving DecidableEq, Repr

structure Button where
  pressedAt : Option Nat := none
  direction : TestDirection := .positive
deriving DecidableEq, Repr

structure Setup where
  flash : Flash := .erased
  samples : List SampleSet := [Converter.idle]
  /-- The level of the status line. -/
  statusHigh : Bool := false
  /-- The status line follows the on-command. -/
  follows : Bool := true
  /-- There is no serial connection. -/
  serialRejected : Bool := false
deriving DecidableEq, Repr

end Board

structure Board where
  clock : Clock := .micros
  now : Nat := 0
  breaker : ControlledBreaker (FramedStore Flash)
  /-- What the breaker has last shown. -/
  indication : Indication := {}
  queue : InputQueue boardQueueDepth := .empty
  /-- A line from the console that waits for the controller. -/
  request : Option String := none
  /-- A reply that waits for the console. -/
  reply : Option String := none
  /-- A self-test that waits for the controller. -/
  selfTest : Option TestDirection := none
  statusLine : InputLine
  mainsLine : InputLine := { high := false }
  buttonLine : InputLine := { high := true }
  sampler : Sampler
  crossings : CrossingWatch
  serial : Serial
  button : Button := {}
  lamp : Lamp := {}
  follows : Bool
  /-- How many writes to the power stage the status line has followed. -/
  followed : Nat := 0

namespace Board

def shared (board : Board) : Shared where
  stage := board.breaker.switch
  mains := board.breaker.mains
  meter := board.breaker.meter
  indication := board.indication

/-- Sends an input to the controller; one that finds no room is dropped. -/
def submit (board : Board) (input : Input) : Board :=
  { board with queue := (InputProducer.submit board.queue input).2 }

section Tasks

def sample (board : Board) : Board :=
  match board.sampler.run board.clock board.now with
  | (none, sampler) => { board with sampler }
  | (some readings, sampler) =>
      { board with
        sampler
        breaker := { board.breaker with
          meter := { readings }
          switch := { board.breaker.switch with temperatures := readings.temperatures } } }

/-- Takes an edge of the status line. -/
def watchStatus (board : Board) : Board :=
  if board.statusLine.changed then
    let high := board.statusLine.high
    let taken := { board with
      statusLine := { high }
      breaker := { board.breaker with switch := board.breaker.switch.takeEdge high } }
    if taken.breaker.switch.reporting then taken.submit (.switchChanged high) else taken
  else board

def publishFrequency (board : Board) : Option UInt32 → Board
  | none => board
  | some frequency =>
      { board with breaker := { board.breaker with
        mains := { board.breaker.mains with frequency } } }

def watchMains (board : Board) : Board :=
  if board.mainsLine.changed then
    let (frequency, crossings) := board.crossings.see board.clock board.now
    let seen := { board with
      mainsLine := { high := board.mainsLine.high }
      crossings }.publishFrequency frequency
    if seen.breaker.mains.reporting then seen.submit .zeroCrossing else seen
  else
    let (frequency, crossings) := board.crossings.expire board.clock board.now
    { board with crossings }.publishFrequency frequency

/-- Lets the controller serve a wake and shows the breaker. -/
def serve (board : Board) (wake : Wake) : Board :=
  let (reply, breaker) := Controller.serve board.breaker wake board.now
  { board with
    breaker
    reply := reply <|> board.reply
    indication := Controller.indication breaker }

def serveInputs (board : Board) : Board :=
  match board.queue.inputs with
  | [] => board
  | inputs => { board with queue := .empty }.serve (.inputs inputs)

def serveRequest (board : Board) : Board :=
  match board.request with
  | none => board
  | some line => { board with request := none }.serve (.line line)

def serveSelfTest (board : Board) : Board :=
  match board.selfTest with
  | none => board
  | some direction => { board with selfTest := none }.serve (.selfTest direction)

/-- Something other than a deadline waits for the controller. -/
def hasRequests (board : Board) : Bool :=
  !board.queue.inputs.isEmpty || board.request.isSome || board.selfTest.isSome

/-- Serves everything that waits for the controller; a deadline counts only when
nothing else woke it. -/
def control (board : Board) : Board :=
  if board.hasRequests then board.serveInputs.serveRequest.serveSelfTest
  else if Controller.isDue board.breaker board.now then board.serve .deadline
  else board

/-- Sends the reply and reads on. -/
def converse (board : Board) : Board :=
  let (request, serial) := board.serial.run board.clock board.reply board.now
  { board with serial, reply := none, request := request <|> board.request }

def obey (board : Board) : Option Press → Board
  | some .short => board.submit (toggle board.indication.state)
  | some .long =>
      { board with
        selfTest := some board.button.direction
        button := { board.button with direction := board.button.direction.opposite } }
  | none => board

/-- Takes an edge of the button, which is low while it is held. -/
def watchButton (board : Board) : Board :=
  if board.buttonLine.changed then
    let high := board.buttonLine.high
    let taken := { board with buttonLine := { high } }
    match board.button.pressedAt with
    | none => if high then taken else
        { taken with button := { board.button with pressedAt := some board.now } }
    | some pressedAt =>
        if high then
          let held := (board.now - pressedAt) * board.clock.tick
          { taken with button := { board.button with pressedAt := none } }.obey (Press.ofHold? held)
        else taken
  else board

def light (board : Board) : Board :=
  { board with lamp := board.lamp.update board.clock board.indication board.now }

/-- Every task once, in the order in which they were started. -/
def round (board : Board) : Board :=
  board.sample.watchStatus.watchMains.control.converse.watchButton.light

/-- Nothing is left that would let a task go on now. -/
def isQuiet (board : Board) : Bool :=
  !board.hasRequests && board.reply.isNone && !Controller.isDue board.breaker board.now

def runRounds : Nat → Board → Board
  | 0, board => board
  | rounds + 1, board =>
      let board := board.round
      if board.isQuiet then board else runRounds rounds board

/-- Runs rounds until the board is quiet. Every line that has arrived takes a round
more, and what the last one sets off takes a few. -/
def rest (board : Board) : Board := runRounds (board.serial.received.length + 6) board

/-- Brings the board to rest, and lets the status line follow the on-command, at
most so many times. -/
def follow : Nat → Board → Board
  | 0, board => board.rest
  | times + 1, board =>
      let rested := board.rest
      let writes := rested.breaker.switch.writesSince rested.followed
      let caught := { rested with followed := rested.breaker.switch.writes.length }
      match writtenLevel writes .onCommand with
      | none => caught
      | some high =>
          if caught.follows ∧ high ≠ caught.statusLine.high then
            follow times { caught with statusLine := caught.statusLine.drive high }
          else caught

/-- Brings the board and the power stage behind it to rest. An opening and the
reclose after it are the most that one cause sets off. -/
def settle (board : Board) : Board := follow 8 board

end Tasks

section Surroundings

/-- A board that has been switched on. -/
def boot (setup : Setup) : Board :=
  let stage : PowerStage := { conducting := setup.statusHigh }
  let breaker :=
    Controller.start (.ofParts .micros stage {} {} { storage := setup.flash }) 0
  let started : Board := {
    breaker
    indication := Controller.indication breaker
    statusLine := { high := setup.statusHigh }
    sampler := {
      converter := { sets := setup.samples }
      due := Clock.micros.after 0 Sampler.period }
    crossings := { due := Clock.micros.after 0 CrossingWatch.patience }
    serial := .begin setup.serialRejected
    follows := setup.follows }
  started.light.settle

def level (board : Board) : InputPin → Bool
  | .status => board.statusLine.high
  | .mains => board.mainsLine.high
  | .button => board.buttonLine.high

def drive (board : Board) (pin : InputPin) (high : Bool) : Board :=
  match pin with
  | .status => { board with statusLine := board.statusLine.drive high }
  | .mains => { board with mainsLine := board.mainsLine.drive high }
  | .button => { board with buttonLine := board.buttonLine.drive high }

def wait (board : Board) (micros : Nat) : Board :=
  { board with now := board.now + micros }.settle

def waits (micros : Nat) : Nat → Board → Board
  | 0, board => board
  | count + 1, board => waits micros count (board.wait micros)

def crossTrain (spacing : Nat) : Nat → Board → Board
  | 0, board => board
  | count + 1, board =>
      let later := { board with now := board.now + spacing }
      crossTrain spacing count (later.drive .mains (!board.level .mains)).settle

def press (board : Board) (held : Nat) : Board :=
  let pressed := (board.drive .button false).settle
  ({ pressed with now := pressed.now + held }.drive .button true).settle

def receive (board : Board) (received : List Received) : Board :=
  { board with serial := { board.serial with
    received := board.serial.received ++ received } }.settle

def alterFlash (board : Board) (change : Flash → Flash) : Board :=
  { board with breaker := { board.breaker with
    store := { board.breaker.store with storage := change board.breaker.store.storage } } }

def connect (board : Board) (samples : List SampleSet) : Board :=
  { board with sampler := { board.sampler with converter := { sets := samples } } }

end Surroundings

end Board

end CircuitBreaker
