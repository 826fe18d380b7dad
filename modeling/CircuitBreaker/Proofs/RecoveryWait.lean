import CircuitBreaker.Proofs.Detection
import CircuitBreaker.Proofs.Disabling
import CircuitBreaker.Proofs.OpenWins

/-!
# The recovery delay

An over-current trip on a DC supply arms the recovery timer and nothing else. Crossings have been
dropped since the supply was classified, so that the timer alone closes the switch again, or a
request to open disarms it.
-/

set_option autoImplicit false

namespace CircuitBreaker

namespace Lifecycle

variable {machine : Lifecycle} {σ : Type} [SwitchDriver σ]

theorem transition_trip (clock : Clock) {switch : σ} (closed : machine.phase = .closed)
    (tripped : SwitchDriver.cause switch = .hardwareOvercurrent) (left : 0 < machine.attemptsLeft)
    (now : Nat) :
    machine.transition clock .switchOpened switch now =
      ({ machine with timers := machine.timers.cancel .recoveryReset }.beginRecovery clock now,
        switch) := by
  have opening : machine.closedTransition clock .switchOpened switch now =
      ({ machine with timers := machine.timers.cancel .recoveryReset }.beginRecovery clock now,
        switch) := by
    simp [closedTransition, handleOpening, tripped, left]
  have waits : (machine.closedTransition clock .switchOpened switch now).1.phase ≠ .closed := by
    simp [opening, beginRecovery]
  rw [transition_of_closed_left machine clock _ switch now closed waits, opening]

/-- On a DC supply a trip leaves the recovery timer armed, and no other. -/
theorem Classified.timers_beginRecovery (direct : machine.Classified false) (clock : Clock)
    (now : Nat) :
    ({ machine with timers := machine.timers.cancel .recoveryReset }.beginRecovery clock
      now).timers = .only .recovery (clock.after now machine.recovery.delay) := by
  have undetecting : machine.timers.supplyDetect = none :=
    Option.not_isSome_iff_eq_none.mp (Bool.not_eq_true _ ▸ direct.unarmed)
  -- The recovery timer may be armed already; it is armed anew.
  rw [beginRecovery, if_neg (by simp [direct.acSupply])]
  simp [TimerBank.only, TimerBank.arm, TimerBank.cancel, TimerBank.set, TimerBank.empty,
    undetecting]

end Lifecycle

namespace Breaker

variable {σ ζ μ κ : Type} [SwitchDriver σ] [Mains ζ] [Meter μ] [RecordStore κ]

/-- A close cycle whose window classified the supply as DC, up to the next close request that meets
the breaker opened. -/
inductive InDcCycle : Breaker σ ζ μ κ → Prop where
  | classified {opened : Breaker σ ζ μ κ} {asked last : Nat} {between : List (Action σ ζ μ κ)}
      (window : opened.SupplyWindow asked between last)
      (direct : (opened.classified asked between last).lifecycle.acSupply = false) :
      InDcCycle (opened.classified asked between last)
  | act {breaker : Breaker σ ζ μ κ} (cycle : InDcCycle breaker) (action : Action σ ζ μ κ)
      (unasked : ¬ breaker.AsksToClose action) : InDcCycle (breaker.act action)

theorem InDcCycle.direct {breaker : Breaker σ ζ μ κ} (cycle : breaker.InDcCycle) :
    breaker.InSession ∧ breaker.lifecycle.Classified false := by
  induction cycle with
  | classified window direct =>
      obtain ⟨detects, _⟩ := window.detects
      obtain ⟨supply, holds, _⟩ := detects.ends window.due
      have same := supply.acSupply.symm.trans direct
      exact ⟨holds.session, same ▸ supply⟩
  | act cycle action unasked ih =>
      obtain ⟨session, direct⟩ := ih
      exact ⟨session.act action, classified_act session direct action unasked⟩

variable {breaker : Breaker σ ζ μ κ}

theorem InDcCycle.trip (cycle : breaker.InDcCycle) (closed : breaker.lifecycle.phase = .closed)
    (tripped : SwitchDriver.cause breaker.switch = .hardwareOvercurrent)
    (left : 0 < breaker.lifecycle.attemptsLeft) (now : Nat) :
    (breaker.act (.input (.switchChanged false) now)).Holds
        (.only .recovery (breaker.clock.after now breaker.lifecycle.recovery.delay)) true ∧
      breaker.commandsIn (.act (.input (.switchChanged false) now)) = [] := by
  obtain ⟨session, direct⟩ := cycle.direct
  have tripped : SwitchDriver.cause breaker.journaled.switch = .hardwareOvercurrent := tripped
  have answered := session.ready.respond_of_ne breaker.clock .switchOpened
    breaker.journaled.switch now (by simp)
  rw [Lifecycle.transition_trip breaker.clock closed tripped left now] at answered
  obtain ⟨lifecycle, commands⟩ := session.comesTo_input (.switchChanged false) (by simp) now
  rw [Breaker.consequence, Input.event, answered] at lifecycle commands
  refine ⟨⟨session.act _, ?_, ?_, ?_⟩, commands⟩ <;> rw [lifecycle]
  · rfl
  · exact direct.timers_beginRecovery breaker.clock now
  · exact direct.deaf rfl

section Wait

variable {deadline : Nat} (holds : breaker.Holds (.only .recovery deadline) true)
include holds

/-- The poll that finds the recovery timer due commands the switch on, once, and the wait goes on
without a timer. -/
theorem Holds.recloses {last : Nat} (due : deadline ≤ last) :
    (breaker.act (.poll last)).Holds .empty true ∧
      ∃ refusal, breaker.commandsIn (.act (.poll last)) = [.turnedOn refusal] := by
  have waiting : (breaker.disarm .recovery).lifecycle.phase = .closeWait := holds.phase
  obtain ⟨reason, refusal, answered⟩ :=
    (holds.session.disarm .recovery).consequence_of_reclose waiting (.inl rfl) last
  obtain ⟨lifecycle, commands⟩ :=
    holds.session.comesTo_expiry holds.timers due answered (by simp [waiting])
  refine ⟨⟨holds.session.act _, ?_, ?_, ?_⟩, refusal, commands⟩ <;> rw [lifecycle]
  · exact holds.phase
  · simp only [disarm, holds.timers, TimerBank.cancel_only]
    rfl
  · exact holds.crossings

/-- An open request disarms the recovery timer, and nothing but another close request closes the
breaker again. -/
theorem Holds.opens (now : Nat) :
    (∀ refusal, .turnedOn refusal ∉ breaker.commandsIn (.act (.input .openRequest now))) ∧
      (breaker.act (.input .openRequest now)).lifecycle.timers.isArmed .recovery = false ∧
      (breaker.act (.input .openRequest now)).StaysOpen := by
  have answered := holds.session.ready.respond_of_ne breaker.clock .openCommand
    breaker.journaled.switch now (by simp)
  have opened : breaker.lifecycle.transition breaker.clock .openCommand breaker.journaled.switch
      now = breaker.lifecycle.openOnCommand breaker.journaled.switch := by
    simp [Lifecycle.transition, holds.phase]
  rw [opened] at answered
  obtain ⟨lifecycle, commands⟩ := holds.session.comesTo_input .openRequest (by simp) now
  rw [Breaker.consequence, Input.event, answered] at lifecycle commands
  refine ⟨?_, ?_, (holds.session.act _).staysOpen ?_⟩
  · rw [commands]
    exact Lifecycle.journal_releaseSwitch _ _ rfl
  · rw [lifecycle]
    simp [Lifecycle.openOnCommand, TimerBank.isArmed]
  · rw [lifecycle]
    exact Lifecycle.openOnCommand_isOpening _ _

end Wait

/-- An over-current trip on a DC supply, with an attempt left, waits for the recovery delay. What
comes before the first poll after it commands nothing, but for a request to open and the report
that the switch closed. That poll commands the switch on, once. A request to open before it disarms
the timer, and nothing but another close request commands the switch on from then on. -/
theorem dc_trip_waits (cycle : breaker.InDcCycle) (closed : breaker.lifecycle.phase = .closed)
    (tripped : SwitchDriver.cause breaker.switch = .hardwareOvercurrent)
    (left : 0 < breaker.lifecycle.attemptsLeft) (now : Nat) :
    let trip := .input (.switchChanged false) now
    let deadline := breaker.clock.after now breaker.lifecycle.recovery.delay
    breaker.commandsIn (.act trip) = [] ∧
    ∀ wait, Unended wait → (∀ polled, .poll polled ∈ wait → polled < deadline) →
      let waiting := (breaker.act trip).run wait
      (breaker.act trip).Silent wait ∧ waiting.lifecycle.phase = .closeWait ∧
      (∀ last, deadline ≤ last →
        (∃ refusal, waiting.commandsIn (.act (.poll last)) = [.turnedOn refusal]) ∧
          ∀ later, Unended later → (waiting.act (.poll last)).Silent later) ∧
      ∀ asked,
        (∀ refusal, .turnedOn refusal ∉ waiting.commandsIn (.act (.input .openRequest asked))) ∧
          (waiting.act (.input .openRequest asked)).lifecycle.timers.isArmed .recovery = false ∧
          (waiting.act (.input .openRequest asked)).StaysOpen := by
  dsimp only
  obtain ⟨begun, commands⟩ := cycle.trip closed tripped left now
  refine ⟨commands, fun wait unended early => ?_⟩
  obtain ⟨holds, silent⟩ := begun.run (unended.spares (fun _ _ => rfl) fun now member => by
    rw [TimerBank.firstDue_only, if_neg (Nat.not_le.mpr (early now member))])
  refine ⟨silent, holds.phase, fun last due => ?_, holds.opens⟩
  obtain ⟨reclosed, commanded⟩ := holds.recloses due
  refine ⟨commanded, fun later unended => ?_⟩
  exact (reclosed.run (unended.spares (fun _ _ => rfl) fun _ _ => rfl)).2

open Bench

def trippedOnDc : BenchBreaker :=
  (((oneAttempt []).classified 0 [] 200000).act (.input (.switchChanged true) 200000)).act trip

def recoveryWait : List BenchAction :=
  [.input .zeroCrossing 310000, .input .closeRequest 320000, .poll 1299999]

/-- They do not hurry the reclose, and an open request still prevents it. -/
theorem dc_trip_waits_bench :
    trippedOnDc.InDcCycle ∧ trippedOnDc.lifecycle.phase = .closed ∧
      SwitchDriver.cause trippedOnDc.switch = .hardwareOvercurrent ∧
      0 < trippedOnDc.lifecycle.attemptsLeft ∧
      (∃ refusal, ((trippedOnDc.act (.input (.switchChanged false) 300000)).run
        recoveryWait).commandsIn (.act (.poll 1300000)) = [.turnedOn refusal]) ∧
      (((trippedOnDc.act (.input (.switchChanged false) 300000)).run recoveryWait).act
        (.input .openRequest 1299999)).StaysOpen := by
  have closes : (oneAttempt []).clock.after 0 Lifecycle.detectionWindow = 200000 := by
    decide +kernel
  have window : (oneAttempt []).SupplyWindow 0 [] 200000 :=
    ⟨⟨by decide +kernel, _, _, _, _, _, _, rfl⟩, by decide +kernel, by simp, by simp,
      Nat.le_of_eq closes⟩
  have cycle : trippedOnDc.InDcCycle :=
    .act (.act (.classified window (by decide +kernel)) _ (by decide +kernel)) _ (by decide +kernel)
  have closed : trippedOnDc.lifecycle.phase = .closed := by decide +kernel
  have tripped : SwitchDriver.cause trippedOnDc.switch = .hardwareOvercurrent := by decide +kernel
  have left : 0 < trippedOnDc.lifecycle.attemptsLeft := by decide +kernel
  have deadline : trippedOnDc.clock.after 300000 trippedOnDc.lifecycle.recovery.delay =
      1300000 := by decide +kernel
  obtain ⟨_, waits⟩ := dc_trip_waits cycle closed tripped left 300000
  obtain ⟨_, _, recloses, opens⟩ := waits recoveryWait (by simp [Unended, recoveryWait])
    (by simp [deadline, recoveryWait])
  exact ⟨cycle, closed, tripped, left, (recloses 1300000 (Nat.le_of_eq deadline)).1,
    (opens 1299999).2.2⟩

end Breaker

end CircuitBreaker
