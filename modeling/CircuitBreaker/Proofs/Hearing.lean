import CircuitBreaker.Proofs.Actuation
import CircuitBreaker.Proofs.Crossings
import CircuitBreaker.Proofs.LifecycleRun

/-!
# What a lifecycle hears

A lifecycle drops crossings on arrival, and no other event. It drops them while it is opened; it
counts them while the supply is detected, and goes on hearing them on an AC supply until it has
opened. A crossing on an AC supply then commands the switch wherever one is waited for.
-/

set_option autoImplicit false

namespace CircuitBreaker

/-- After the detection of the supply and before the opening: on the way to closed, closed, or on
the way to opened. -/
def Phase.IsEngaged (phase : Phase) : Prop :=
  phase = .closeWait ∨ phase = .closed ∨ phase = .openWait

namespace Lifecycle

/-- What is dropped on arrival, phase by phase. -/
structure Attentive (machine : Lifecycle) : Prop where
  /-- No event but the crossing is ever dropped. -/
  others : ∀ event, machine.filter.isIgnored event = true → event = .zeroCrossing
  opened : machine.phase = .opened → machine.filter.isIgnored .zeroCrossing = true
  detecting : machine.phase = .supplyWait → machine.filter.isIgnored .zeroCrossing = false
  engaged : machine.phase.IsEngaged → machine.acSupply = true →
    machine.filter.isIgnored .zeroCrossing = false

namespace Attentive

variable {machine : Lifecycle}

/-- What the filter, the phase and the class of the supply decide, nothing else changes. -/
theorem congr {after : Lifecycle} (attentive : machine.Attentive)
    (filter : after.filter = machine.filter) (phase : after.phase = machine.phase)
    (acSupply : after.acSupply = machine.acSupply) : after.Attentive where
  others event ignored := attentive.others event (filter ▸ ignored)
  opened settled := filter ▸ attentive.opened (phase ▸ settled)
  detecting begun := filter ▸ attentive.detecting (phase ▸ begun)
  engaged between ac := filter ▸ attentive.engaged (phase ▸ between) (acSupply ▸ ac)

/-- From one engaged phase to another the filter stays. -/
theorem stay {after : Lifecycle} (attentive : machine.Attentive) (before : machine.phase.IsEngaged)
    (filter : after.filter = machine.filter) (between : after.phase.IsEngaged)
    (acSupply : after.acSupply = machine.acSupply) : after.Attentive where
  others event ignored := attentive.others event (filter ▸ ignored)
  opened settled := by
    rcases between with phase | phase | phase <;> cases settled.symm.trans phase
  detecting begun := by
    rcases between with phase | phase | phase <;> cases begun.symm.trans phase
  engaged _ ac := filter ▸ attentive.engaged before (acSupply ▸ ac)

theorem settleOpened (attentive : machine.Attentive) : machine.settleOpened.Attentive where
  others event ignored := by
    by_cases crossing : event = .zeroCrossing
    · exact crossing
    · exact attentive.others event (by simpa [Lifecycle.settleOpened, crossing] using ignored)
  opened _ := by simp [Lifecycle.settleOpened]
  detecting begun := by cases begun
  engaged between := by
    rcases between with phase | phase | phase <;> cases phase

theorem start {σ : Type} [SwitchDriver σ] (switch : σ) : (machine.start switch).Attentive where
  others event ignored := by
    by_contra other
    exact Bool.false_ne_true (((start_ready switch).hears event other).symm.trans ignored)
  opened settled := by
    rw [start_phase] at settled
    split at settled
    · cases settled
    · next off => simp [Lifecycle.start, off]
  detecting begun := by
    rw [start_phase] at begun
    split at begun <;> cases begun
  engaged between _ := by
    -- The supply may still be classified AC, by a session before this one.
    unfold Phase.IsEngaged at between
    rw [start_phase] at between
    split at between
    · next on => simp [Lifecycle.start, on]
    · simp at between

theorem stop (attentive : machine.Attentive) : machine.stop.Attentive where
  others := attentive.others
  opened settled := by cases settled
  detecting begun := by cases begun
  engaged between := by
    rcases between with phase | phase | phase <;> cases phase

/-!
## One event
-/

section Transitions

variable {σ : Type} [SwitchDriver σ] (clock : Clock) (event : Event) (switch : σ) (now : Nat)
  (attentive : machine.Attentive)
include attentive

private theorem beginClose : (machine.beginClose clock now).Attentive where
  others other ignored := by
    by_cases crossing : other = .zeroCrossing
    · exact crossing
    · exact attentive.others other (by simpa [Lifecycle.beginClose, crossing] using ignored)
  opened settled := by cases settled
  detecting _ := by simp [Lifecycle.beginClose]
  engaged between := by
    rcases between with phase | phase | phase <;> cases phase

private theorem adoptCause (cause : SwitchCause) : (machine.adoptCause cause).Attentive := by
  obtain ⟨reason, same⟩ := adoptCause_machine machine cause
  rw [same]
  exact attentive.congr rfl rfl rfl

private theorem reclose : (machine.reclose switch).1.Attentive := by
  obtain ⟨reason, same⟩ := reclose_machine machine switch
  rw [same]
  exact attentive.congr rfl rfl rfl

/-- Crossings of a DC supply are dropped from its classification on. -/
private theorem classifySupply (begun : machine.phase = .supplyWait) :
    (machine.classifySupply switch).1.Attentive := by
  have heard := attentive.detecting begun
  unfold Lifecycle.classifySupply
  dsimp only
  split
  · exact ⟨attentive.others, nofun, fun _ => heard, fun _ _ => heard⟩
  · next direct =>
    apply reclose
    refine ⟨?_, nofun, nofun, fun _ ac => absurd ac direct⟩
    intro other ignored
    by_cases crossing : other = .zeroCrossing
    · exact crossing
    · exact attentive.others other (by simpa [crossing] using ignored)

private theorem releaseSwitch (between : machine.phase.IsEngaged) :
    (machine.releaseSwitch switch).1.Attentive := by
  unfold Lifecycle.releaseSwitch
  split
  · exact attentive.stay between rfl (.inr (.inr rfl)) rfl
  · exact attentive.settleOpened

private theorem openOnCommand (between : machine.phase.IsEngaged) :
    (machine.openOnCommand switch).1.Attentive := by
  have told : ({ machine with
      timers := (machine.timers.cancel .recovery).cancel .recoveryReset
      reason := .external } : Lifecycle).Attentive := attentive.congr rfl rfl rfl
  exact told.releaseSwitch switch between

private theorem openOnDuration (between : machine.phase.IsEngaged) :
    (machine.openOnDuration switch).1.Attentive := by
  have told : ({ machine with
      timers := machine.timers.cancel .recoveryReset
      reason := .overCurrentDuration } : Lifecycle).Attentive := attentive.congr rfl rfl rfl
  exact told.releaseSwitch switch between

private theorem handleOpening (between : machine.phase.IsEngaged) :
    (machine.handleOpening clock switch now).Attentive := by
  have disarmed : ({ machine with
      timers := machine.timers.cancel .recoveryReset } : Lifecycle).Attentive :=
    attentive.congr rfl rfl rfl
  unfold Lifecycle.handleOpening
  dsimp only
  split
  · exact disarmed
  · split
    · exact disarmed.stay between rfl (.inl rfl) rfl
    · exact (disarmed.adoptCause .hardwareOvercurrent).settleOpened
  · exact (disarmed.adoptCause _).settleOpened

private theorem closedTransition (between : machine.phase.IsEngaged) :
    (machine.closedTransition clock event switch now).1.Attentive := by
  cases event with
  | openCommand => exact attentive.openOnCommand switch between
  | overCurrentDuration => exact attentive.openOnDuration switch between
  | switchOpened => exact attentive.handleOpening clock switch now between
  | recoveryResetTimerExpired => exact attentive.congr rfl rfl rfl
  | _ => exact attentive

private theorem closeWait_transition (waiting : machine.phase = .closeWait) :
    (machine.transition clock event switch now).1.Attentive := by
  have disarmed : ({ machine with
      phase := .closeWait
      timers := machine.timers.cancel .recovery } : Lifecycle).Attentive :=
    attentive.congr rfl waiting.symm rfl
  unfold Lifecycle.transition
  rw [waiting]
  cases event with
  | openCommand => exact attentive.openOnCommand switch (.inl waiting)
  | recoveryTimerExpired => exact disarmed.reclose switch
  | zeroCrossing => exact disarmed.reclose switch
  | switchClosed => exact attentive.stay (.inl waiting) rfl (.inr (.inl rfl)) rfl
  | _ => exact attentive

private theorem closed_transition (closed : machine.phase = .closed) :
    (machine.transition clock event switch now).1.Attentive := by
  have moved := attentive.closedTransition clock event switch now (.inr (.inl closed))
  by_cases left : (machine.closedTransition clock event switch now).1.phase = .closed
  · rw [transition_of_closed machine clock event switch now closed]
    -- The closed-state mode may hand the switch back to a wait for the next crossing.
    obtain ⟨after, reason, activeMode, modulation, same, rfl | rfl⟩ := modeEvent_machine
      (machine.closedTransition clock event switch now).1
      (machine.closedTransition clock event switch now).2 event
    · rw [same]
      exact moved.congr rfl rfl rfl
    · rw [same]
      exact moved.stay (.inr (.inl left)) rfl (.inl rfl) rfl
  · rw [transition_of_closed_left machine clock event switch now closed left]
    exact moved

theorem transition : (machine.transition clock event switch now).1.Attentive := by
  cases phase : machine.phase with
  | undefined =>
      rw [transition_of_undefined machine clock event switch now phase]
      exact attentive
  | opened =>
      unfold Lifecycle.transition
      rw [phase]
      cases event with
      | closeCommand => exact attentive.beginClose clock now
      | _ => exact attentive
  | supplyWait =>
      have told : ({ machine with
          timers := machine.timers.cancel .supplyDetect
          reason := .external } : Lifecycle).Attentive := attentive.congr rfl rfl rfl
      unfold Lifecycle.transition
      rw [phase]
      cases event with
      | openCommand => exact told.settleOpened
      | zeroCrossing => exact attentive.congr rfl rfl rfl
      | supplyTimerExpired => exact attentive.classifySupply switch phase
      | _ => exact attentive
  | closeWait => exact attentive.closeWait_transition clock event switch now phase
  | closed => exact attentive.closed_transition clock event switch now phase
  | openWait =>
      unfold Lifecycle.transition
      rw [phase]
      cases event with
      | switchOpened => exact attentive.settleOpened
      | _ => exact attentive

theorem respond : (machine.respond clock event switch now).1.Attentive := by
  unfold Lifecycle.respond
  split
  · exact attentive
  · exact attentive.transition clock event switch now

end Transitions

end Attentive

end Lifecycle

theorem Breaker.Reacts.attentive {σ ζ μ κ : Type} [SwitchDriver σ] {event : Event} {now : Nat}
    {before after : Breaker σ ζ μ κ} (reacts : before.Reacts event now after)
    (attentive : before.lifecycle.Attentive) : after.lifecycle.Attentive := by
  rw [reacts.lifecycle]
  exact (attentive.respond before.clock event before.switch now).congr rfl rfl rfl

namespace Lifecycle

/-!
## Runs
-/

variable {σ : Type} [SwitchDriver σ] {clock : Clock} {machine : Lifecycle}

theorem Attentive.step (attentive : machine.Attentive) (call : LifecycleStep σ)
    (other : ∀ switch now, call ≠ .pollTimers switch now) :
    (machine.step clock call).Attentive := by
  have aside := step_aside clock machine call
  cases call with
  | start switch => exact .start switch
  | stop => exact attentive.stop
  | handle event switch now =>
      rcases step_handle machine event switch now with same | ⟨_, moved⟩
      · rw [same]
        exact attentive
      · rw [moved]
        exact attentive.transition clock event switch now
  | pollTimers switch now => exact absurd rfl (other switch now)
  | _ =>
      obtain ⟨phase, filter, acSupply⟩ := aside trivial
      exact attentive.congr filter phase acSupply

theorem Reachable.attentive (reachable : machine.Reachable σ clock) : machine.Attentive := by
  refine reachable.keeps (fun _ call other attentive => attentive.step call other) ?_
  intro recovery modulation
  constructor <;> simp [ofSettings, Phase.IsEngaged]

/-!
## Crossings that command the switch
-/

section Commanding

variable (switch : σ) (now : Nat) (heard : machine.filter.isIgnored .zeroCrossing = false)
include heard

theorem handle_crossing_of_closeWait (waiting : machine.phase = .closeWait) :
    (∃ after, machine.handle clock .zeroCrossing switch now =
        .ok (after, (SwitchDriver.turnOn switch).2)) ∧
      machine.commands clock .zeroCrossing switch now =
        [.turnedOn (SwitchDriver.turnOn switch).1] := by
  have handled {τ : Type} [SwitchDriver τ] (switch : τ) :
      machine.handle clock .zeroCrossing switch now =
        .ok ({ machine with
          phase := .closeWait
          timers := machine.timers.cancel .recovery }.reclose switch) := by
    simp only [handle, heard, transition, waiting]
    rfl
  constructor
  · rw [handled switch, ← reclose_switch]
    exact ⟨_, rfl⟩
  · unfold commands
    rw [handled]
    dsimp only
    rw [reclose_switch]
    rfl

theorem handle_crossing_of_openWait (waiting : machine.phase = .openWait) :
    machine.handle clock .zeroCrossing switch now =
        .ok (machine, SwitchDriver.turnOff switch) ∧
      machine.commands clock .zeroCrossing switch now = [.turnedOff] := by
  have handled {τ : Type} [SwitchDriver τ] (switch : τ) :
      machine.handle clock .zeroCrossing switch now =
        .ok (machine, SwitchDriver.turnOff switch) := by
    simp only [handle, heard, transition, waiting]
    rfl
  constructor
  · exact handled switch
  · unfold commands
    rw [handled]
    rfl

end Commanding

/-- However a lifecycle has been used, it drops no event but the crossing, drops that one when it is
opened, and hears it while it detects the supply and, on an AC supply, until it has opened. There
the crossing that meets it on the way to closed always commands the switch on, and the one that
meets it on the way to opened always commands it off. -/
theorem crossings_heard (reachable : machine.Reachable σ clock) :
    (∀ event, machine.filter.isIgnored event = true → event = .zeroCrossing) ∧
      (machine.phase = .opened → machine.filter.isIgnored .zeroCrossing = true) ∧
      (machine.phase = .supplyWait → machine.filter.isIgnored .zeroCrossing = false) ∧
      (machine.acSupply = true →
        (machine.phase = .closeWait ∨ machine.phase = .closed ∨ machine.phase = .openWait →
          machine.filter.isIgnored .zeroCrossing = false) ∧
        ∀ (switch : σ) (now : Nat),
          (machine.phase = .closeWait →
            (∃ after, machine.handle clock .zeroCrossing switch now =
                .ok (after, (SwitchDriver.turnOn switch).2)) ∧
              machine.commands clock .zeroCrossing switch now =
                [.turnedOn (SwitchDriver.turnOn switch).1]) ∧
          (machine.phase = .openWait →
            machine.handle clock .zeroCrossing switch now =
                .ok (machine, SwitchDriver.turnOff switch) ∧
              machine.commands clock .zeroCrossing switch now = [.turnedOff])) := by
  have attentive := reachable.attentive
  refine ⟨attentive.others, attentive.opened, attentive.detecting, fun ac => ⟨?_, ?_⟩⟩
  · exact fun between => attentive.engaged between ac
  · intro switch now
    constructor
    · intro waiting
      have heard := attentive.engaged (.inl waiting) ac
      exact handle_crossing_of_closeWait switch now heard waiting
    · intro waiting
      have heard := attentive.engaged (.inr (.inr waiting)) ac
      exact handle_crossing_of_openWait switch now heard waiting

open Bench

/-- A close on an AC supply, in a session that follows another one. -/
def closingOnAc : List (LifecycleStep ScriptedSwitch) :=
  [.start { on := true }, .stop, .start {}, .handle .closeCommand {} 0] ++
  [20000, 30000, 40000, 50000].map (.handle .zeroCrossing {}) ++ [.pollTimers {} 200000]

def openingOnAc : List (LifecycleStep ScriptedSwitch) :=
  closingOnAc ++ [.handle .switchClosed { on := true } 210000,
    .handle .openCommand { on := true } 300000]

/-- On the way to closed the next crossing commands the switch on, and on the way to opened it
commands it off. -/
theorem crossings_heard_waiting :
    ((ofSettings {} {}).run .micros closingOnAc).phase = .closeWait ∧
      ((ofSettings {} {}).run .micros closingOnAc).commands .micros .zeroCrossing
        ({} : ScriptedSwitch) 205000 = [.turnedOn none] ∧
      ((ofSettings {} {}).run .micros openingOnAc).phase = .openWait ∧
      ((ofSettings {} {}).run .micros openingOnAc).commands .micros .zeroCrossing
        ({ on := true } : ScriptedSwitch) 310000 = [.turnedOff] := by
  have closing := crossings_heard (⟨{}, {}, closingOnAc, rfl⟩ : Reachable _ .micros _)
  have opening := crossings_heard (⟨{}, {}, openingOnAc, rfl⟩ : Reachable _ .micros _)
  have closeWait : ((ofSettings {} {}).run .micros closingOnAc).phase = .closeWait := by
    decide +kernel
  have openWait : ((ofSettings {} {}).run .micros openingOnAc).phase = .openWait := by
    decide +kernel
  refine ⟨closeWait, ?_, openWait, ?_⟩
  · exact (((closing.2.2.2 (by decide +kernel)).2 {} 205000).1 closeWait).2
  · exact (((opening.2.2.2 (by decide +kernel)).2 { on := true } 310000).2 openWait).2

end Lifecycle

end CircuitBreaker
