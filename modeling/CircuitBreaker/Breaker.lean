import CircuitBreaker.Config.Curve
import CircuitBreaker.Input.Queue
import CircuitBreaker.Lifecycle
import CircuitBreaker.Mains
import CircuitBreaker.Meter
import CircuitBreaker.Monitor
import CircuitBreaker.Storage
import CircuitBreaker.Telemetry

/-!
# Breaker

A breaker brings a lifecycle, an inverse-time monitor and stored settings
together with a switch, a mains source, a meter and a store. It is owned by one
task, which applies inputs and polls it one after the other.
-/

set_option autoImplicit false

namespace CircuitBreaker

inductive BreakerError where
  /-- The breaker is not initialized. -/
  | notSupported
  /-- A setting was turned down. -/
  | invalidArgument
  /-- The curve has more points than can be stored. -/
  | noMemory
  /-- The switch driver turned the request down. -/
  | hardware (error : SwitchError)
deriving DecidableEq, Repr

namespace BreakerError

def message : BreakerError → String
  | notSupported => "not supported"
  | invalidArgument => "invalid argument"
  | noMemory => "no memory"
  | hardware error => s!"hardware: {error.message}"

instance : ToString BreakerError := ⟨message⟩

def ofConfig : ConfigError → BreakerError
  | .tooManyPoints => noMemory
  | _ => invalidArgument

end BreakerError

/-- What observers are told about a protective trip. -/
structure Notice where
  state : BreakerState
  cause : TripCause
deriving DecidableEq, Repr

/-- A breaker over a switch, a mains source, a meter and a store. Its instants are
those of `clock`. -/
structure Breaker (σ ζ μ κ : Type) where
  clock : Clock
  switch : σ
  mains : ζ
  meter : μ
  store : κ
  curve : CurveSettings := {}
  lifecycle : Lifecycle := {}
  monitor : Monitor := {}
  log : EventLog 32 := .empty
  /-- Whether an observer is registered. -/
  observed : Bool := false
  /-- The latest trip that has not been announced. -/
  pending : Option Notice := none
  /-- The latest instant the breaker was told. -/
  lastSeen : Option Nat := none
  initialized : Bool := false

namespace Breaker

variable {σ ζ μ κ : Type}

/-- A breaker around its collaborators, not initialized yet. -/
def ofParts (clock : Clock) (switch : σ) (mains : ζ) (meter : μ) (store : κ) :
    Breaker σ ζ μ κ where
  clock := clock
  switch := switch
  mains := mains
  meter := meter
  store := store

def record (breaker : Breaker σ ζ μ κ) (event : LogEvent) (now : Nat) :
    Breaker σ ζ μ κ :=
  { breaker with log := breaker.log.add event now }

def ensureInitialized (breaker : Breaker σ ζ μ κ) :
    Except BreakerError (Breaker σ ζ μ κ) :=
  if breaker.initialized then .ok breaker else .error .notSupported

section Reading

def state (breaker : Breaker σ ζ μ κ) : BreakerState :=
  if breaker.initialized then .ofPhase breaker.lifecycle.phase else .undefined

/-- The cause that the breaker shows. Where the lifecycle knows no more than that
there is one, the cause held by the switch driver tells which. -/
def cause [SwitchDriver σ] (breaker : Breaker σ ζ μ κ) : TripCause :=
  if !breaker.initialized then .none
  else
    match breaker.lifecycle.reason with
    | .none => .none
    | .external => .external
    | .overCurrentHardware => .overCurrentHardware
    | .overCurrentDuration => .overCurrentSoftware
    | .other =>
        match SwitchDriver.cause breaker.switch with
        | .overTemperature => .overTemperature
        | .selfTest => .overCurrentTest
        | .undervoltage => .undervoltage
        | _ => .none

def hardwareLimit (breaker : Breaker σ ζ μ κ) : Except BreakerError UInt8 :=
  if breaker.initialized then .ok breaker.curve.hardwareLimit else .error .notSupported

def points (breaker : Breaker σ ζ μ κ) : Except BreakerError (List CurvePoint) :=
  if breaker.initialized then .ok breaker.curve.curve.points else .error .notSupported

def recoverySettings (breaker : Breaker σ ζ μ κ) : Except BreakerError RecoverySettings :=
  if breaker.initialized then .ok breaker.lifecycle.recovery else .error .notSupported

def modulationSettings (breaker : Breaker σ ζ μ κ) :
    Except BreakerError ModulationSettings :=
  if breaker.initialized then .ok breaker.lifecycle.modulation.settings
  else .error .notSupported

/-- The mains frequency in millihertz. -/
def supplyFrequency [Mains ζ] (breaker : Breaker σ ζ μ κ) : UInt32 :=
  Mains.frequency breaker.mains

def nextDeadline (breaker : Breaker σ ζ μ κ) : Option Nat :=
  match breaker.lifecycle.nextDeadline, breaker.monitor.nextTick with
  | some timer, some tick => some (min timer tick)
  | some timer, none => some timer
  | none, tick => tick

end Reading

section Settings

variable [RecordStore κ] {α : Type} [Record α]

/-- Stores settings. A failure is logged once an instant is known. -/
def persist (breaker : Breaker σ ζ μ κ) (settings : α) : Breaker σ ζ μ κ :=
  match CircuitBreaker.persist breaker.store settings with
  | .ok store => { breaker with store }
  | .error _ =>
      match breaker.lastSeen with
      | none => breaker
      | some now => breaker.record (.configStoreFailed (Record.kind α)) now

/-- The stored settings, or the initial ones, which are stored in their place. -/
def restoreOrDefault (breaker : Breaker σ ζ μ κ) (α : Type) [Record α] (now : Nat) :
    α × Breaker σ ζ μ κ :=
  match restore breaker.store α with
  | .ok settings => (settings, breaker.record (.configRestored (Record.kind α)) now)
  | .error _ =>
      let settings : α := Record.initial
      (settings, (breaker.record (.configDefaulted (Record.kind α)) now).persist settings)

/-- Sets the current limit of the switch hardware, unless the driver refuses it. -/
def setHardwareLimit [SwitchDriver σ] (breaker : Breaker σ ζ μ κ) (limit : UInt8) :
    Except BreakerError (Breaker σ ζ μ κ) := do
  let breaker ← breaker.ensureInitialized
  match SwitchDriver.setLimit breaker.switch limit with
  | .error error => .error (.hardware error)
  | .ok switch =>
      let curve := { breaker.curve with hardwareLimit := limit }
      .ok ({ breaker with switch, curve }.persist curve)

/-- Replaces the curve and starts all times of the monitor again. -/
def setPoints (breaker : Breaker σ ζ μ κ) (points : List CurvePoint) :
    Except BreakerError (Breaker σ ζ μ κ) := do
  let breaker ← breaker.ensureInitialized
  match Curve.ofPoints? points with
  | .error error => .error (.ofConfig error)
  | .ok curve =>
      let curve := { breaker.curve with curve }
      .ok ({ breaker with curve, monitor := breaker.monitor.reset }.persist curve)

def setRecovery (breaker : Breaker σ ζ μ κ) (settings : RecoverySettings) :
    Except BreakerError (Breaker σ ζ μ κ) := do
  let breaker ← breaker.ensureInitialized
  match breaker.lifecycle.configure settings with
  | .error error => .error (.ofConfig error)
  | .ok lifecycle => .ok ({ breaker with lifecycle }.persist settings)

def setModulation (breaker : Breaker σ ζ μ κ) (settings : ModulationSettings) :
    Except BreakerError (Breaker σ ζ μ κ) := do
  let breaker ← breaker.ensureInitialized
  match breaker.lifecycle.configureModulation settings with
  | .error error => .error (.ofConfig error)
  | .ok lifecycle => .ok ({ breaker with lifecycle }.persist settings)

end Settings

section Observer

/-- Registers or removes the observer of protective trips. -/
def setObserved (breaker : Breaker σ ζ μ κ) (observed : Bool) :
    Except BreakerError (Breaker σ ζ μ κ) := do
  let breaker ← breaker.ensureInitialized
  .ok { breaker with observed }

/-- Takes the pending notice, which goes to the observer if there is one. -/
def dispatchNotice (breaker : Breaker σ ζ μ κ) :
    Option Notice × Breaker σ ζ μ κ :=
  (breaker.pending, { breaker with pending := none })

end Observer

section Events

variable [SwitchDriver σ]

/-- Records what an event changed: the move between phases, a reclose attempt, and
a trip, which also becomes the pending notice. -/
def recordChanges (before after : Breaker σ ζ μ κ) (now : Nat) : Breaker σ ζ μ κ :=
  let breaker :=
    if before.lifecycle.phase ≠ after.lifecycle.phase then
      after.record (.stateChanged before.lifecycle.phase after.lifecycle.phase) now
    else after
  let breaker :=
    if after.lifecycle.attemptsLeft < before.lifecycle.attemptsLeft then
      breaker.record (.recoveryAttempt after.lifecycle.attemptsLeft) now
    else breaker
  match breaker.lifecycle.takeNotice with
  | (false, lifecycle) => { breaker with lifecycle }
  | (true, lifecycle) =>
      let breaker := { breaker with lifecycle }
      let notice : Notice := ⟨breaker.state, breaker.cause⟩
      { breaker.record (.tripped notice.cause) now with pending := some notice }

/-- Hands an event to the lifecycle and records what it changed. -/
def apply (breaker : Breaker σ ζ μ κ) (event : Event) (now : Nat) :
    Except BreakerError (Breaker σ ζ μ κ) := do
  let breaker ← breaker.ensureInitialized
  let breaker := { breaker with lastSeen := some now }
  match breaker.lifecycle.handle breaker.clock event breaker.switch now with
  | .error _ => .error .notSupported
  | .ok (lifecycle, switch) => .ok (breaker.recordChanges { breaker with lifecycle, switch } now)

/-- Asks the breaker to close and starts the monitor afresh. One that is closed
already keeps its times, so that asking again cannot put a trip off. -/
def requestClose (breaker : Breaker σ ζ μ κ) (now : Nat) :
    Except BreakerError (Breaker σ ζ μ κ) := do
  let breaker ← breaker.ensureInitialized
  if breaker.lifecycle.phase = .closed then .ok breaker
  else
    let breaker ← { breaker with monitor := breaker.monitor.reset }.apply .closeCommand now
    .ok { breaker with monitor := breaker.monitor.start breaker.clock now }

def requestOpen (breaker : Breaker σ ζ μ κ) (now : Nat) :
    Except BreakerError (Breaker σ ζ μ κ) := do
  let breaker ← breaker.apply .openCommand now
  .ok { breaker with monitor := breaker.monitor.stop }

def handleInput (breaker : Breaker σ ζ μ κ) (input : Input) (now : Nat) :
    Except BreakerError (Breaker σ ζ μ κ) :=
  match input with
  | .zeroCrossing => breaker.apply .zeroCrossing now
  | .switchChanged true => breaker.apply .switchClosed now
  | .switchChanged false => breaker.apply .switchOpened now
  | .openRequest => breaker.requestOpen now
  | .closeRequest => breaker.requestClose now

/-- Applies every input of a feed, however the feed ends, and counts them. -/
def drain (breaker : Breaker σ ζ μ κ) (feed : InputFeed) (now : Nat) :
    Except BreakerError (Nat × Breaker σ ζ μ κ) := do
  let breaker ← breaker.ensureInitialized
  let breaker ← feed.inputs.foldlM (fun breaker input => breaker.handleInput input now) breaker
  .ok (feed.inputs.length, breaker)

/-- Applies the timer events due at `now`, at most `rounds` of them. -/
def fireTimers (now : Nat) :
    Nat → Breaker σ ζ μ κ → Except BreakerError (Breaker σ ζ μ κ)
  | 0, breaker => .ok breaker
  | rounds + 1, breaker =>
      match breaker.lifecycle.takeExpired now with
      | (none, _) => .ok breaker
      | (some event, lifecycle) => do
          let breaker ← { breaker with lifecycle }.apply event now
          breaker.fireTimers now rounds

/-- Runs every monitor tick due at `now` and trips the breaker if one says so. The
times grow only while the breaker is closed. -/
def runMonitor [Meter μ] (breaker : Breaker σ ζ μ κ) (now : Nat) :
    Except BreakerError (Breaker σ ζ μ κ) :=
  match breaker.monitor.runDue breaker.clock now (Meter.current breaker.meter)
      breaker.curve.curve.points (breaker.lifecycle.phase = .closed) with
  | (none, monitor) => .ok { breaker with monitor }
  | (some _, monitor) => { breaker with monitor }.apply .overCurrentDuration now

/-- Fires the timers due at `now`, then runs the monitor ticks due at `now`. No
expiry arms a timer, so as many rounds are enough as there are timers. -/
def poll [Meter μ] (breaker : Breaker σ ζ μ κ) (now : Nat) :
    Except BreakerError (Breaker σ ζ μ κ) := do
  let breaker ← breaker.ensureInitialized
  let breaker ← { breaker with lastSeen := some now }.fireTimers now TimerId.all.length
  breaker.runMonitor now

end Events

section Session

variable [SwitchDriver σ] [Mains ζ] [RecordStore κ]

/-- Loads the settings and starts from the position of the switch; the monitor runs
from here on. An initialized breaker stays as it is. -/
def init (breaker : Breaker σ ζ μ κ) (now : Nat) : Breaker σ ζ μ κ :=
  if breaker.initialized then breaker
  else
    let breaker := { breaker with lastSeen := some now }
    let (curve, breaker) := breaker.restoreOrDefault CurveSettings now
    let (recovery, breaker) := breaker.restoreOrDefault RecoverySettings now
    let (modulation, breaker) := breaker.restoreOrDefault ModulationSettings now
    let limited :=
      match SwitchDriver.setLimit breaker.switch curve.hardwareLimit with
      | .ok switch => switch
      | .error _ => breaker.switch
    let switch := SwitchDriver.enableEvents limited
    let lifecycle :=
      { ({} : Lifecycle) with recovery, modulation := { settings := modulation } }.start switch
    let breaker := breaker.record (.stateChanged .undefined lifecycle.phase) now
    { breaker with
      switch
      mains := Mains.enableEvents breaker.mains
      curve
      lifecycle
      monitor := breaker.monitor.reset.start breaker.clock now
      pending := none
      initialized := true }

/-- Stops the reports of switch and mains and returns to the undefined state. -/
def shutdown (breaker : Breaker σ ζ μ κ) : Except BreakerError (Breaker σ ζ μ κ) := do
  let breaker ← breaker.ensureInitialized
  .ok { breaker with
    switch := SwitchDriver.disableEvents breaker.switch
    mains := Mains.disableEvents breaker.mains
    lifecycle := breaker.lifecycle.stop
    monitor := breaker.monitor.stop.reset
    pending := none
    initialized := false }

end Session

end Breaker

end CircuitBreaker
