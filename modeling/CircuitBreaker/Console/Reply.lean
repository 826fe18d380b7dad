import CircuitBreaker.Console.Error

/-!
# Console replies

Runs commands on a breaker and renders the replies, a list of lines. A refused
command writes nothing and changes nothing.
-/

set_option autoImplicit false

namespace CircuitBreaker

namespace Console

def helpLines : List String := [
  "open                                   open the breaker",
  "close                                  close the breaker",
  "status                                 state, cause and readings",
  "points [<mA>:<ms> ...]                 show or replace the trip curve",
  "limit [<n>]                            show or set the hardware limit",
  "recovery [on|off <n> <delay-ms> <reset-ms>]  show or set recovery",
  "mode [none|modulation]                 show or set the closed-state mode",
  "modulation [<closed> <period>]         show or set modulation zero-crossings",
  "log                                    replay telemetry",
  "help                                   this text"]

def onOff (on : Bool) : String := if on then "on" else "off"

/-- The points of a curve, numbered from zero. -/
def pointLines (points : List CurvePoint) : List String :=
  points.mapIdx fun index point =>
    s!"{Text.alignRight 2 index} {point.current.toNat} mA {point.duration.toNat} ms"

def recoveryLine (settings : RecoverySettings) : String :=
  let delay := Duration.toMillis settings.delay
  let reset := Duration.toMillis settings.resetTimeout
  s!"recovery {onOff settings.enabled} attempts={settings.attempts.toNat}" ++
    s!" delay={delay} ms reset={reset} ms"

def countsText (settings : ModulationSettings) : String :=
  s!"closed={settings.whileClosed.toNat} period={settings.period.toNat}"

def logLines (records : List LogRecord) : List String :=
  records.map fun record => s!"#{record.id.toNat} {record.event.text}"

/-- A reply as text: every line ends with a line feed. -/
def text (lines : List String) : String := String.join (lines.map fun line => line ++ "\n")

end Console

open Console

namespace Breaker

variable {σ ζ μ κ : Type} [SwitchDriver σ] [Mains ζ] [Meter μ] [RecordStore κ]

def statusLines (breaker : Breaker σ ζ μ κ) : List String :=
  let lifecycle := breaker.lifecycle
  let supply := if lifecycle.acSupply then "ac" else "dc"
  let frequency := breaker.supplyFrequency.toNat
  let voltage := (Meter.voltage breaker.meter).toNat
  let current := (Meter.current breaker.meter).toNat
  let budget := lifecycle.recovery.attemptBudget.toNat
  let switch := onOff (SwitchDriver.isOn breaker.switch)
  [ s!"state={breaker.state.name} cause={breaker.cause.name} phase={lifecycle.phase.name}",
    s!"supply={supply} frequency={frequency} mHz voltage={voltage} mV current={current} mA",
    s!"recovery={lifecycle.attemptsLeft.toNat}/{budget}" ++
      s!" mode={lifecycle.recovery.mode.name} switch={switch}" ]

/-- Runs a command and gives the lines of its reply. -/
def execute (breaker : Breaker σ ζ μ κ) (command : Command) (now : Nat) :
    Except BreakerError (List String × Breaker σ ζ μ κ) :=
  match command with
  | .openBreaker => do
      let breaker ← breaker.requestOpen now
      .ok ([s!"ok {breaker.state.name}"], breaker)
  | .closeBreaker => do
      let breaker ← breaker.requestClose now
      .ok ([s!"ok {breaker.state.name}"], breaker)
  | .status => .ok (breaker.statusLines, breaker)
  | .points none => do
      let points ← breaker.points
      .ok (pointLines points, breaker)
  | .points (some points) => do
      let breaker ← breaker.setPoints points
      .ok ([s!"ok {points.length} points"], breaker)
  | .limit none => do
      let limit ← breaker.hardwareLimit
      .ok ([s!"limit {limit.toNat}"], breaker)
  | .limit (some limit) => do
      let breaker ← breaker.setHardwareLimit limit
      .ok ([s!"ok limit {limit.toNat}"], breaker)
  | .recovery none => do
      let settings ← breaker.recoverySettings
      .ok ([recoveryLine settings], breaker)
  | .recovery (some arguments) => do
      let settings := arguments.applyTo (← breaker.recoverySettings)
      let breaker ← breaker.setRecovery settings
      .ok ([recoveryLine settings], breaker)
  | .mode none => do
      let settings ← breaker.recoverySettings
      .ok ([s!"mode {settings.mode.name}"], breaker)
  | .mode (some mode) => do
      let settings ← breaker.recoverySettings
      let breaker ← breaker.setRecovery { settings with mode }
      .ok ([s!"ok mode {mode.name}"], breaker)
  | .modulation none => do
      let settings ← breaker.modulationSettings
      let phase := breaker.lifecycle.modulation.phase.name
      .ok ([s!"modulation {countsText settings} state={phase}"], breaker)
  | .modulation (some settings) => do
      let breaker ← breaker.setModulation settings
      .ok ([s!"ok modulation {countsText settings}"], breaker)
  | .log => .ok (logLines breaker.log.records, breaker)
  | .help => .ok (helpLines, breaker)

/-- Runs a command and writes its reply where only `capacity` bytes fit. A reply
that is too long is lost, but the command has been run. -/
def executeWithin (capacity : Nat) (breaker : Breaker σ ζ μ κ) (command : Command) (now : Nat) :
    Except ConsoleError String × Breaker σ ζ μ κ :=
  match breaker.execute command now with
  | .error error => (.error (.rejected error), breaker)
  | .ok (lines, breaker) =>
      let reply := text lines
      if reply.utf8ByteSize ≤ capacity then (.ok reply, breaker) else (.error .output, breaker)

end Breaker

end CircuitBreaker
