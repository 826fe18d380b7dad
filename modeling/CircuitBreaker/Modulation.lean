import CircuitBreaker.Config.Modulation
import CircuitBreaker.Event
import CircuitBreaker.Switch

/-!
# Modulation cycle

A closed-state mode that opens and closes the switch in a cycle. The cycle
counts zero crossings instead of time, so it follows the mains frequency.
-/

set_option autoImplicit false

namespace CircuitBreaker

inductive ModulationPhase where
  /-- Waiting for an event to start the cycle. -/
  | disabled
  /-- Conducting, on the way to the opening. -/
  | closed
  /-- Not conducting, on the way to the end of the period. -/
  | opened
deriving DecidableEq, Repr

def ModulationPhase.all : List ModulationPhase := [.disabled, .closed, .opened]

def ModulationPhase.name : ModulationPhase → String
  | disabled => "Disabled"
  | closed => "Closed"
  | opened => "Opened"

structure Modulation where
  settings : ModulationSettings := {}
  phase : ModulationPhase := .disabled
  /-- The crossings counted in this period, at most 255. -/
  crossings : Nat := 0
deriving DecidableEq, Repr

namespace Modulation

/-- Replaces the settings by valid ones; a running cycle goes on with them. -/
def configure (modulation : Modulation) (settings : ModulationSettings) :
    Except ConfigError Modulation :=
  match settings.validate with
  | .ok settings => .ok { modulation with settings }
  | .error error => .error error

theorem phase_configure {modulation configured : Modulation} {settings : ModulationSettings}
    (accepted : modulation.configure settings = .ok configured) :
    configured.phase = modulation.phase := by
  unfold configure at accepted
  split at accepted
  · rw [← Except.ok.inj accepted]
  · cases accepted

/-- Ends the cycle; the next event starts it again. -/
def cleanUp (modulation : Modulation) : Modulation :=
  { modulation with phase := .disabled, crossings := 0 }

def enter (modulation : Modulation) : Modulation :=
  { modulation with
    phase := if modulation.settings.Valid then .closed else .disabled
    crossings := 0 }

def count (crossings : Nat) : Nat := min 255 (crossings + 1)

/-- Counts a crossing while conducting, and opens the switch from the last
crossing of the closed part on, until it reports that it opened. -/
def crossingWhileClosed {σ : Type} [SwitchDriver σ] (modulation : Modulation) (switch : σ) :
    Modulation × σ :=
  let crossings := count modulation.crossings
  ({ modulation with crossings },
    if modulation.settings.whileClosed.toNat ≤ crossings then SwitchDriver.turnOff switch
    else switch)

/-- Counts a crossing while not conducting. The last one of the period starts the
next period and closes the switch; a refusal waits for the period after it. -/
def crossingWhileOpened {σ : Type} [SwitchDriver σ] (modulation : Modulation) (switch : σ) :
    Modulation × σ :=
  let crossings := count modulation.crossings
  if modulation.settings.period.toNat ≤ crossings then
    ({ modulation with crossings := 0 }, (SwitchDriver.turnOn switch).2)
  else ({ modulation with crossings }, switch)

def handle {σ : Type} [SwitchDriver σ] (modulation : Modulation) (event : Event) (switch : σ) :
    Modulation × σ :=
  match modulation.phase, event with
  | .disabled, _ => (modulation.enter, switch)
  | .closed, .zeroCrossing => modulation.crossingWhileClosed switch
  | .closed, .switchOpened => ({ modulation with phase := .opened }, switch)
  | .closed, _ => (modulation, switch)
  | .opened, .zeroCrossing => modulation.crossingWhileOpened switch
  | .opened, .switchClosed => ({ modulation with phase := .closed }, switch)
  | .opened, _ => (modulation, switch)

end Modulation

end CircuitBreaker
