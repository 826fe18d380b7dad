import CircuitBreaker.Config.Recovery
import CircuitBreaker.Event.Filter
import CircuitBreaker.Lifecycle.Phase
import CircuitBreaker.Modulation
import CircuitBreaker.Timer

/-!
# Lifecycle

The machine that takes the breaker from open to closed and back. Every close
first counts zero crossings to tell an AC supply from a DC one. On AC the switch
is commanded at a crossing only; on DC at once. A hardware over-current trip is
followed by a bounded number of recloses. While closed, every event also goes to
the closed-state mode.
-/

set_option autoImplicit false

namespace CircuitBreaker

inductive LifecycleError where
  /-- The lifecycle has not been started. -/
  | notStarted
deriving DecidableEq, Repr

def LifecycleError.message : LifecycleError → String
  | notStarted => "NotStarted"

instance : ToString LifecycleError := ⟨LifecycleError.message⟩

structure Lifecycle where
  recovery : RecoverySettings := {}
  phase : Phase := .undefined
  reason : Reason := .none
  /-- The closed-state mode at work, which follows `recovery.mode` with the next event. -/
  activeMode : ClosedMode := .steady
  /-- The crossings counted during supply detection, at most 255. -/
  crossings : Nat := 0
  /-- Whether the last detection found an AC supply. -/
  acSupply : Bool := false
  filter : EventFilter := .empty
  /-- The recloses left in this close cycle. -/
  attemptsLeft : UInt16 := 0
  timers : TimerBank := .empty
  modulation : Modulation := {}
  /-- A protective trip has not been announced yet. -/
  noticePending : Bool := false
deriving DecidableEq, Repr

namespace Lifecycle

def detectionWindow : Nat := Duration.ofMillis 200

/-- The fewest crossings in the window that mean AC. -/
def minAcCrossings : Nat := 4

section Settings

/-- Replaces the recovery settings by valid ones. A smaller budget cuts the
attempts left at once; a larger one counts from the next close. -/
def configure (machine : Lifecycle) (settings : RecoverySettings) : Except ConfigError Lifecycle :=
  match settings.validate with
  | .ok settings =>
      .ok { machine with
        recovery := settings
        attemptsLeft :=
          if settings.attemptBudget < machine.attemptsLeft then settings.attemptBudget
          else machine.attemptsLeft }
  | .error error => .error error

def configureModulation (machine : Lifecycle) (settings : ModulationSettings) :
    Except ConfigError Lifecycle :=
  match machine.modulation.configure settings with
  | .ok modulation => .ok { machine with modulation }
  | .error error => .error error

end Settings

/-- Whether a protective trip waits to be announced, and the machine once it has been. -/
def takeNotice (machine : Lifecycle) : Bool × Lifecycle :=
  (machine.noticePending, { machine with noticePending := false })

def nextDeadline (machine : Lifecycle) : Option Nat := machine.timers.nextDeadline

/-- Disarms the earliest timer due at `now` and gives its event. -/
def takeExpired (machine : Lifecycle) (now : Nat) : Option Event × Lifecycle :=
  match machine.timers.takeExpired now with
  | (timer, timers) => (timer.map TimerId.event, { machine with timers })

section Moves

/-- Comes to rest in `opened`. Crossings are dropped there, and a protective reason
is announced. -/
def settleOpened (machine : Lifecycle) : Lifecycle :=
  { machine with
    phase := .opened
    filter := machine.filter.ignore .zeroCrossing
    noticePending := machine.noticePending || machine.reason.isProtective }

/-- Takes over the cause of a refusal or a trip. A commanded change keeps the
reason chosen here. -/
def adoptCause (machine : Lifecycle) : SwitchCause → Lifecycle
  | .hardwareOvercurrent => { machine with reason := .overCurrentHardware }
  | .external => machine
  | _ => { machine with reason := .other }

def beginClose (machine : Lifecycle) (clock : Clock) (now : Nat) : Lifecycle :=
  { machine with
    phase := .supplyWait
    reason := .external
    activeMode := .steady
    crossings := 0
    attemptsLeft := machine.recovery.attemptBudget
    filter := machine.filter.accept .zeroCrossing
    timers := TimerBank.empty.arm clock .supplyDetect now detectionWindow }

def countCrossing (machine : Lifecycle) : Lifecycle :=
  { machine with crossings := min 255 (machine.crossings + 1) }

/-- Opens before the switch was commanded on. -/
def abortClose (machine : Lifecycle) : Lifecycle :=
  { machine with
    timers := machine.timers.cancel .supplyDetect
    reason := .external }.settleOpened

/-- Enters `closed`; spent attempts come back after the reset timeout. -/
def enterClosed (machine : Lifecycle) (clock : Clock) (now : Nat) : Lifecycle :=
  { machine with
    phase := .closed
    timers :=
      if machine.attemptsLeft < machine.recovery.attemptBudget then
        machine.timers.arm clock .recoveryReset now machine.recovery.resetTimeout
      else machine.timers }

def replenish (machine : Lifecycle) : Lifecycle :=
  { machine with attemptsLeft := machine.recovery.attemptBudget }

variable {σ : Type} [SwitchDriver σ]

/-- Starts in the phase that matches the position of the switch. -/
def start (machine : Lifecycle) (switch : σ) : Lifecycle :=
  { machine with
    phase := if SwitchDriver.isOn switch then .closed else .opened
    reason := .none
    activeMode := .steady
    crossings := 0
    filter :=
      if SwitchDriver.isOn switch then .empty else EventFilter.empty.ignore .zeroCrossing
    attemptsLeft := machine.recovery.attemptBudget
    timers := .empty
    modulation := machine.modulation.cleanUp
    noticePending := false }

/-- Returns to `undefined` and disarms every timer. -/
def stop (machine : Lifecycle) : Lifecycle :=
  { machine with
    phase := .undefined
    reason := .none
    timers := .empty
    noticePending := false }

/-- Commands the switch on; a refusal gives the reason. -/
def reclose (machine : Lifecycle) (switch : σ) : Lifecycle × σ :=
  match SwitchDriver.turnOn switch with
  | (none, switch) => (machine, switch)
  | (some cause, switch) => (machine.adoptCause cause, switch)

/-- Ends the supply detection. On AC the next crossing closes the switch; on DC it
is commanded now, and crossings are dropped from here on. -/
def classifySupply (machine : Lifecycle) (switch : σ) : Lifecycle × σ :=
  let acSupply : Bool := minAcCrossings ≤ machine.crossings
  let classified := { machine with phase := .closeWait, crossings := 0, acSupply }
  if acSupply then (classified, switch)
  else { classified with filter := classified.filter.ignore .zeroCrossing }.reclose switch

/-- Opens the switch: at the next crossing on AC, now on DC. A switch that is off
already has nothing more to report. -/
def releaseSwitch (machine : Lifecycle) (switch : σ) : Lifecycle × σ :=
  if SwitchDriver.isOn switch then
    ({ machine with phase := .openWait },
      if machine.acSupply then switch else SwitchDriver.turnOff switch)
  else (machine.settleOpened, switch)

def openOnCommand (machine : Lifecycle) (switch : σ) : Lifecycle × σ :=
  { machine with
    timers := (machine.timers.cancel .recovery).cancel .recoveryReset
    reason := .external }.releaseSwitch switch

def openOnDuration (machine : Lifecycle) (switch : σ) : Lifecycle × σ :=
  { machine with
    timers := machine.timers.cancel .recoveryReset
    reason := .overCurrentDuration }.releaseSwitch switch

/-- Takes a reclose attempt. On DC it waits for the recovery delay, on AC for the
next crossing. -/
def beginRecovery (machine : Lifecycle) (clock : Clock) (now : Nat) : Lifecycle :=
  { machine with
    phase := .closeWait
    attemptsLeft := machine.attemptsLeft - 1
    timers :=
      if machine.acSupply then machine.timers
      else machine.timers.arm clock .recovery now machine.recovery.delay }

/-- The switch opened while closed. The modulation cycle does that on purpose; an
over-current trip recloses while attempts are left; anything else is a trip. -/
def handleOpening (machine : Lifecycle) (clock : Clock) (switch : σ) (now : Nat) : Lifecycle :=
  let machine := { machine with timers := machine.timers.cancel .recoveryReset }
  match SwitchDriver.cause switch with
  | .external => machine
  | .hardwareOvercurrent =>
      if 0 < machine.attemptsLeft then machine.beginRecovery clock now
      else (machine.adoptCause .hardwareOvercurrent).settleOpened
  | cause => (machine.adoptCause cause).settleOpened

/-- Leaves the closed-state mode. A switch that it left off is closed again: at the
next crossing on AC, now on DC. -/
def leaveMode (machine : Lifecycle) (switch : σ) : Lifecycle × σ :=
  let machine := { machine with modulation := machine.modulation.cleanUp }
  if SwitchDriver.isOn switch then (machine, switch)
  else if machine.acSupply then ({ machine with phase := .closeWait }, switch)
  else { machine with phase := .closeWait }.reclose switch

/-- Hands an event to the closed-state mode. A changed mode first takes over; the
modulation cycle needs an AC supply. -/
def modeEvent (machine : Lifecycle) (event : Event) (switch : σ) : Lifecycle × σ :=
  if machine.phase ≠ .closed then (machine, switch)
  else if machine.activeMode ≠ machine.recovery.mode then
    { machine with activeMode := machine.recovery.mode }.leaveMode switch
  else if machine.activeMode = .modulated ∧ machine.acSupply then
    match machine.modulation.handle event switch with
    | (modulation, switch) => ({ machine with modulation }, switch)
  else (machine, switch)

end Moves

section Transitions

variable {σ : Type} [SwitchDriver σ]

/-- The moves in `closed`, before the closed-state mode sees the event. -/
def closedTransition (machine : Lifecycle) (clock : Clock) (event : Event) (switch : σ)
    (now : Nat) : Lifecycle × σ :=
  match event with
  | .openCommand => machine.openOnCommand switch
  | .overCurrentDuration => machine.openOnDuration switch
  | .switchOpened => (machine.handleOpening clock switch now, switch)
  | .recoveryResetTimerExpired => (machine.replenish, switch)
  | _ => (machine, switch)

/-- The transition table. An event without a move in the present phase is dropped. -/
def transition (machine : Lifecycle) (clock : Clock) (event : Event) (switch : σ)
    (now : Nat) : Lifecycle × σ :=
  match machine.phase, event with
  | .undefined, _ => (machine, switch)
  | .opened, .closeCommand => (machine.beginClose clock now, switch)
  | .opened, _ => (machine, switch)
  | .supplyWait, .openCommand => (machine.abortClose, switch)
  | .supplyWait, .zeroCrossing => (machine.countCrossing, switch)
  | .supplyWait, .supplyTimerExpired => machine.classifySupply switch
  | .supplyWait, _ => (machine, switch)
  | .closeWait, .openCommand => machine.openOnCommand switch
  | .closeWait, .recoveryTimerExpired | .closeWait, .zeroCrossing =>
      { machine with timers := machine.timers.cancel .recovery }.reclose switch
  | .closeWait, .switchClosed => (machine.enterClosed clock now, switch)
  | .closeWait, _ => (machine, switch)
  | .closed, event =>
      match machine.closedTransition clock event switch now with
      | (machine, switch) => machine.modeEvent event switch
  | .openWait, .zeroCrossing => (machine, SwitchDriver.turnOff switch)
  | .openWait, .switchOpened => (machine.settleOpened, switch)
  | .openWait, _ => (machine, switch)

/-- The table has no move for a machine that has not been started. -/
theorem transition_of_undefined (machine : Lifecycle) (clock : Clock) (event : Event)
    (switch : σ) (now : Nat) (undefined : machine.phase = .undefined) :
    machine.transition clock event switch now = (machine, switch) := by
  simp [transition, undefined]

/-- Handles one event. A filtered event is dropped, and a machine that has not been
started refuses any other. -/
def handle (machine : Lifecycle) (clock : Clock) (event : Event) (switch : σ) (now : Nat) :
    Except LifecycleError (Lifecycle × σ) :=
  if machine.filter.isIgnored event then .ok (machine, switch)
  else if machine.phase = .undefined then .error .notStarted
  else .ok (machine.transition clock event switch now)

/-- Delivers the timers due at `now`, at most `rounds` of them, and counts them. -/
def deliverDue (clock : Clock) (now : Nat) :
    Nat → Lifecycle → σ → Except LifecycleError (Nat × Lifecycle × σ)
  | 0, machine, switch => .ok (0, machine, switch)
  | rounds + 1, machine, switch =>
      match machine.takeExpired now with
      | (none, machine) => .ok (0, machine, switch)
      | (some event, machine) => do
          let (machine, switch) ← machine.handle clock event switch now
          let (fired, machine, switch) ← deliverDue clock now rounds machine switch
          .ok (fired + 1, machine, switch)

/-- Delivers every timer due at `now` and counts them. No expiry arms a timer, so
there are as many rounds at most as there are timers. -/
def pollTimers (machine : Lifecycle) (clock : Clock) (switch : σ) (now : Nat) :
    Except LifecycleError (Nat × Lifecycle × σ) :=
  deliverDue clock now TimerId.all.length machine switch

end Transitions

end Lifecycle

end CircuitBreaker
