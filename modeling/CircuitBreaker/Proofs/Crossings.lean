import CircuitBreaker.Proofs.Commands

/-!
# Commands at crossings

On an AC supply the switch is commanded at zero crossings only. Timers, requests, trips and
reports never reach it there: a recovery timer, the one that could, belongs to a DC supply.
-/

set_option autoImplicit false

namespace CircuitBreaker

namespace Lifecycle

variable (machine : Lifecycle) {σ : Type} [SwitchDriver σ] (clock : Clock) (event : Event)
  (switch : σ) (now : Nat)

/-!
## The class of the supply
-/

/-- Only the end of the detection window classifies the supply. -/
theorem acSupply_transition (other : event ≠ .supplyTimerExpired) :
    (machine.transition clock event switch now).1.acSupply = machine.acSupply := by
  cases phase : machine.phase with
  | undefined => simp [transition_of_undefined, phase]
  | opened => cases event <;> simp [transition, phase, beginClose]
  | supplyWait =>
      cases event with
      | supplyTimerExpired => exact absurd rfl other
      | _ => simp [transition, phase, abortClose, settleOpened, countCrossing]
  | closeWait => cases event <;> simp [transition, phase, openOnCommand, enterClosed]
  | closed =>
      simp only [transition_of_closed machine clock event switch now phase, modeEvent_fields]
      cases event <;> simp [closedTransition, openOnCommand, openOnDuration, replenish]
  | openWait => cases event <;> simp [transition, phase, settleOpened]

/-!
## Commands on an AC supply
-/

theorem releaseSwitch_of_ac (ac : machine.acSupply = true) :
    (machine.releaseSwitch switch).2 = switch := by
  unfold releaseSwitch
  rw [if_pos ac]
  split <;> rfl

theorem modeEvent_switch_of_ac (ac : machine.acSupply = true) (other : event ≠ .zeroCrossing) :
    (machine.modeEvent event switch).2 = switch := by
  unfold modeEvent
  split
  · rfl
  · split
    · unfold leaveMode
      dsimp only
      rw [if_pos ac]
      split <;> rfl
    · split
      · exact Modulation.handle_switch_of_ne other _ switch
      · rfl

private theorem closedTransition_switch_of_ac (ac : machine.acSupply = true) :
    (machine.closedTransition clock event switch now).2 = switch := by
  cases event with
  | openCommand => exact releaseSwitch_of_ac _ switch ac
  | overCurrentDuration => exact releaseSwitch_of_ac _ switch ac
  | _ => rfl

private theorem closedTransition_acSupply :
    (machine.closedTransition clock event switch now).1.acSupply = machine.acSupply := by
  cases event <;> simp [closedTransition, openOnCommand, openOnDuration, replenish]

/-- Once the supply is classified AC, crossings and the recovery timer apart nothing
commands the switch. -/
theorem transition_switch_of_ac (crossing : event ≠ .zeroCrossing)
    (recovery : event ≠ .recoveryTimerExpired)
    (ac : (machine.transition clock event switch now).1.acSupply = true) :
    (machine.transition clock event switch now).2 = switch := by
  cases phase : machine.phase with
  | undefined => simp [transition_of_undefined, phase]
  | opened => cases event <;> simp [transition, phase]
  | supplyWait =>
      cases event with
      | supplyTimerExpired =>
          simp only [transition, phase, classifySupply] at ac ⊢
          split
          · rfl
          · next direct =>
            simp only [if_neg direct, reclose_fields] at ac
            exact absurd ac direct
      | _ => simp [transition, phase]
  | closeWait =>
      cases event with
      | openCommand =>
          simp only [transition, phase, openOnCommand, releaseSwitch_fields] at ac ⊢
          exact releaseSwitch_of_ac _ switch ac
      | zeroCrossing => exact absurd rfl crossing
      | recoveryTimerExpired => exact absurd rfl recovery
      | _ => simp [transition, phase]
  | closed =>
      simp only [transition_of_closed machine clock event switch now phase, modeEvent_fields] at ac
      rw [transition_of_closed machine clock event switch now phase,
        modeEvent_switch_of_ac _ event _ ac crossing]
      rw [closedTransition_acSupply] at ac
      exact closedTransition_switch_of_ac machine clock event switch now ac
  | openWait =>
      cases event with
      | zeroCrossing => exact absurd rfl crossing
      | _ => simp [transition, phase]

/-!
## The recovery timer
-/

/-- No recovery timer is armed on an AC supply, nor while the supply is detected. -/
def RecoveryOnDc : Prop :=
  machine.phase = .supplyWait ∨ machine.acSupply = true → machine.timers.deadline .recovery = none

namespace RecoveryOnDc

variable {machine}

theorem of_disarmed (disarmed : machine.timers.deadline .recovery = none) :
    machine.RecoveryOnDc :=
  fun _ => disarmed

/-- What neither enters the detection nor moves the recovery timer or the class of the supply. -/
theorem keep {after : Lifecycle} (held : machine.RecoveryOnDc)
    (phase : after.phase ≠ .supplyWait) (acSupply : after.acSupply = machine.acSupply)
    (timers : machine.timers.deadline .recovery = none → after.timers.deadline .recovery = none) :
    after.RecoveryOnDc := by
  intro guarded
  rcases guarded with detecting | ac
  · exact absurd detecting phase
  · rw [acSupply] at ac
    exact timers (held (.inr ac))

private theorem handleOpening (held : machine.RecoveryOnDc) (closed : machine.phase = .closed) :
    (machine.handleOpening clock switch now).RecoveryOnDc := by
  unfold Lifecycle.handleOpening
  dsimp only
  split
  · exact held.keep (by simp [closed]) rfl (by simp)
  · split
    · -- The recovery timer is armed here, unless the supply is AC.
      intro guarded
      rcases guarded with detecting | ac
      · cases detecting
      · have ac : machine.acSupply = true := ac
        have disarmed := held (.inr ac)
        simpa [beginRecovery, ac] using disarmed
    · exact held.keep (by simp) (by simp [settleOpened]) (by simp [settleOpened])
  · exact held.keep (by simp) (by simp [settleOpened]) (by simp [settleOpened])

private theorem releaseSwitch (held : machine.RecoveryOnDc) :
    (machine.releaseSwitch switch).1.RecoveryOnDc := by
  obtain ⟨phase, filter, noticePending, same, opening, _⟩ := releaseSwitch_machine machine switch
  rw [same]
  refine held.keep ?_ rfl (fun disarmed => disarmed)
  rcases opening with rfl | rfl <;> simp

private theorem closedTransition (held : machine.RecoveryOnDc) (closed : machine.phase = .closed) :
    (machine.closedTransition clock event switch now).1.RecoveryOnDc := by
  cases event with
  | openCommand =>
      apply releaseSwitch
      exact held.keep (by simp [closed]) rfl (by simp)
  | overCurrentDuration =>
      apply releaseSwitch
      exact held.keep (by simp [closed]) rfl (by simp)
  | switchOpened => exact held.handleOpening clock switch now closed
  | recoveryResetTimerExpired =>
      exact held.keep (by simp [Lifecycle.closedTransition, replenish, closed]) rfl id
  | _ => exact held

theorem transition (held : machine.RecoveryOnDc) :
    (machine.transition clock event switch now).1.RecoveryOnDc := by
  cases phase : machine.phase with
  | undefined => simpa [Lifecycle.transition_of_undefined, phase] using held
  | opened =>
      cases event with
      | closeCommand =>
          apply of_disarmed
          simp [Lifecycle.transition, phase, beginClose]
      | _ => simpa [Lifecycle.transition, phase] using held
  | supplyWait =>
      have disarmed := held (.inl phase)
      apply of_disarmed
      cases event with
      | supplyTimerExpired =>
          obtain ⟨acSupply, filter, reason, same, _⟩ := classifySupply_machine machine switch
          simpa [Lifecycle.transition, phase, same] using disarmed
      | _ => simpa [Lifecycle.transition, phase, abortClose, settleOpened, countCrossing]
          using disarmed
  | closeWait =>
      cases event with
      | openCommand =>
          simp only [Lifecycle.transition, phase]
          apply releaseSwitch
          exact held.keep (by simp [phase]) rfl (by simp)
      | recoveryTimerExpired =>
          apply of_disarmed
          simp [Lifecycle.transition, phase]
      | zeroCrossing =>
          apply of_disarmed
          simp [Lifecycle.transition, phase]
      | switchClosed =>
          simp only [Lifecycle.transition, phase, enterClosed]
          refine held.keep (by simp) rfl ?_
          intro disarmed
          dsimp only
          split <;> simp [disarmed]
      | _ => simpa [Lifecycle.transition, phase] using held
  | closed =>
      have moved := held.closedTransition clock event switch now phase
      rw [transition_of_closed machine clock event switch now phase]
      obtain ⟨after, reason, activeMode, modulation, same, kept⟩ := modeEvent_machine
        (machine.closedTransition clock event switch now).1
        (machine.closedTransition clock event switch now).2 event
      rw [same]
      intro guarded
      apply moved
      rcases guarded with detecting | ac
      · rcases kept with kept | kept
        · exact .inl (kept ▸ detecting)
        · cases detecting.symm.trans kept
      · exact .inr ac
  | openWait =>
      cases event with
      | switchOpened =>
          simp only [Lifecycle.transition, phase]
          exact held.keep (by simp) rfl id
      | _ => simpa [Lifecycle.transition, phase] using held

theorem respond (held : machine.RecoveryOnDc) :
    (machine.respond clock event switch now).1.RecoveryOnDc := by
  unfold Lifecycle.respond
  split
  · exact held
  · exact held.transition clock event switch now

end RecoveryOnDc

end Lifecycle

/-- The supply is classified AC when the event may command the switch. The end of the
detection window classifies it before it commands; no other event classifies it. -/
def Application.OnAc {σ ζ μ κ : Type} (application : Application σ ζ μ κ) : Prop :=
  application.after.lifecycle.acSupply = true ∨
    application.before.lifecycle.acSupply = true ∧ application.event ≠ .supplyTimerExpired

namespace Breaker

variable {σ ζ μ κ : Type} [SwitchDriver σ]

/-!
## One event
-/

private theorem commands_of_ac {application : Application σ ζ μ κ}
    (session : application.before.InSession)
    (applied : application.before.apply application.event application.now = .ok application.after)
    (crossing : application.event ≠ .zeroCrossing)
    (recovery : application.event = .recoveryTimerExpired →
      application.before.lifecycle.acSupply = false)
    (ac : application.OnAc) : application.commands = [] := by
  obtain ⟨before, event, now, after⟩ := application
  dsimp only at session applied crossing recovery
  have reacts := session.reacts applied
  have answer := session.ready.respond_of_ne before.clock event before.switch now crossing
  have classified : after.lifecycle.acSupply =
      (before.lifecycle.transition before.clock event before.switch now).1.acSupply := by
    rw [reacts.lifecycle, answer]
  have kept (other : event ≠ .supplyTimerExpired) :
      after.lifecycle.acSupply = before.lifecycle.acSupply := by
    rw [classified, Lifecycle.acSupply_transition _ _ _ _ _ other]
  have found : after.lifecycle.acSupply = true := by
    rcases ac with found | ⟨found, other⟩
    · exact found
    · rw [kept other]
      exact found
  have other : event ≠ .recoveryTimerExpired := by
    intro expired
    rw [kept (by simp [expired]), recovery expired] at found
    cases found
  -- The journaled breaker answers with the same machine, and with its switch as it was.
  have inside : before.journaled.InSession := ⟨session.initialized, session.ready⟩
  obtain ⟨journaled, accepted, journaledReacts, _⟩ := inside.apply event now
  unfold Application.commands
  dsimp only
  rw [accepted]
  dsimp only
  have same := Journaled.switchMap_driver.transition before.lifecycle before.clock event
    before.journaled.switch now
  rw [journaledReacts.switch, inside.ready.respond_of_ne _ _ _ _ crossing]
  have untouched := Lifecycle.transition_switch_of_ac before.lifecycle before.clock event
    before.journaled.switch now crossing other
  have image : (before.lifecycle.transition before.clock event before.switch now).1 =
      (before.lifecycle.transition before.clock event before.journaled.switch now).1 := by
    rw [show before.switch = Journaled.driver before.journaled.switch from rfl, same]
    rfl
  rw [classified, image] at found
  rw [show before.journaled.lifecycle = before.lifecycle from rfl,
    show before.journaled.clock = before.clock from rfl, untouched found]
  rfl

/-!
## Whole steps
-/

omit [SwitchDriver σ] in
private theorem crossing_of_raises {phase : Phase} {action : Action σ ζ μ κ}
    (raised : Raises phase .zeroCrossing action) : ∃ now, action = .input .zeroCrossing now := by
  cases action with
  | input input now =>
      cases input with
      | zeroCrossing => exact ⟨now, rfl⟩
      | switchChanged closed => cases closed <;> cases raised
      | openRequest => cases raised
      | closeRequest => cases raised
  | poll now => cases raised.2
  | adjust adjustment => cases raised

omit [SwitchDriver σ] in
private theorem not_raises_recovery {phase : Phase} {action : Action σ ζ μ κ} :
    ¬ Raises phase .recoveryTimerExpired action := by
  intro raised
  cases action with
  | input input now =>
      cases input with
      | switchChanged closed => cases closed <;> cases raised
      | _ => cases raised
  | poll now => cases raised.2
  | adjust adjustment => exact raised

private theorem recoveryOnDc_apply {before after : Breaker σ ζ μ κ} {event : Event} {now : Nat}
    (session : before.InSession) (held : before.lifecycle.RecoveryOnDc)
    (applied : before.apply event now = .ok after) : after.lifecycle.RecoveryOnDc := by
  have answered := held.respond before.clock event before.switch now
  rw [(session.reacts applied).lifecycle]
  exact answered

theorem course_atCrossing {action : Action σ ζ μ κ} {now : Nat}
    {breaker final : Breaker σ ζ μ κ} {trail : List (Application σ ζ μ κ)}
    (course : Course action now breaker trail final) (session : breaker.InSession)
    (held : breaker.lifecycle.RecoveryOnDc) :
    final.lifecycle.RecoveryOnDc ∧
      ∀ application ∈ trail, application.commands ≠ [] → application.OnAc →
        application.event = .zeroCrossing ∧ ∃ now, action = .input .zeroCrossing now := by
  induction course with
  | rest breaker => exact ⟨held, List.forall_mem_nil _⟩
  | aside monitor lastSeen later ih => exact ih ⟨session.initialized, session.ready⟩ held
  | @raise before after final trail event raised applied later ih =>
      obtain ⟨ended, known⟩ :=
        ih (session.applied applied) (recoveryOnDc_apply session held applied)
      refine ⟨ended, List.forall_mem_cons.mpr ⟨?_, known⟩⟩
      intro commanded ac
      by_cases crossing : event = .zeroCrossing
      · subst crossing
        exact ⟨rfl, crossing_of_raises raised⟩
      · refine absurd (commands_of_ac session applied crossing ?_ ac) commanded
        rintro rfl
        exact absurd raised not_raises_recovery
  | @expire before after final trail timer polling due applied later ih =>
      have inside := session.disarm timer
      have disarmed : (before.disarm timer).lifecycle.RecoveryOnDc := by
        intro guarded
        have unarmed := held guarded
        simp [disarm, unarmed]
      obtain ⟨ended, known⟩ :=
        ih (inside.applied applied) (recoveryOnDc_apply inside disarmed applied)
      refine ⟨ended, List.forall_mem_cons.mpr ⟨?_, known⟩⟩
      intro commanded ac
      refine absurd (commands_of_ac inside applied ?_ ?_ ac) commanded
      · cases timer <;> simp [TimerId.event]
      · -- The timer that fires was armed, so the supply is not AC.
        intro expired
        cases timer with
        | recovery =>
            cases ac : before.lifecycle.acSupply with
            | false => exact ac
            | true =>
                have armed := TimerBank.isArmed_of_firstDue due
                simp [TimerBank.isArmed, held (.inr ac)] at armed
        | _ => cases expired

variable [Mains ζ] [Meter μ] [RecordStore κ]

private theorem step_atCrossing {breaker : Breaker σ ζ μ κ}
    (known : breaker.initialized = true → breaker.InSession)
    (held : breaker.lifecycle.RecoveryOnDc) (step : Step σ ζ μ κ) :
    (breaker.step step).lifecycle.RecoveryOnDc ∧
      ∀ application ∈ breaker.applied step, application.commands ≠ [] → application.OnAc →
        application.event = .zeroCrossing ∧ ∃ now, step = .act (.input .zeroCrossing now) := by
  have taken := step_taken known step
  generalize breaker.applied step = trail at taken
  generalize breaker.step step = after at taken
  cases taken with
  | idle => exact ⟨held, List.forall_mem_nil _⟩
  | adjust adjustment =>
      obtain ⟨recovery, attemptsLeft, modulation, same, _⟩ :=
        (adjust_adjusted adjustment breaker).lifecycle
      refine ⟨?_, List.forall_mem_nil _⟩
      rw [same]
      exact held
  | begun now fresh =>
      obtain ⟨_, recovery, modulation, same⟩ := init_fresh fresh now
      refine ⟨?_, List.forall_mem_nil _⟩
      rw [same]
      exact .of_disarmed rfl
  | ended session => exact ⟨.of_disarmed rfl, List.forall_mem_nil _⟩
  | course session action now events =>
      obtain ⟨ended, crossed⟩ := course_atCrossing events session held
      refine ⟨ended, fun application member commanded ac => ?_⟩
      obtain ⟨crossing, instant, rfl⟩ := crossed application member commanded ac
      exact ⟨crossing, instant, rfl⟩

private theorem recoveryOnDc_history (clock : Clock) (switch : σ) (mains : ζ) (meter : μ)
    (store : κ) (steps : List (Step σ ζ μ κ)) :
    ((ofParts clock switch mains meter store).history steps).lifecycle.RecoveryOnDc := by
  induction steps using List.reverseRecOn with
  | nil => exact .of_disarmed rfl
  | append_singleton steps step ih =>
      rw [history_concat]
      exact (step_atCrossing (inSession_history rfl steps) ih step).1

/-- However sessions begin, go on and end, the commands of a step are those of its events, and
an event that commands the switch on an AC supply is a crossing that is being handled. -/
theorem commanded_at_crossings (clock : Clock) (switch : σ) (mains : ζ) (meter : μ) (store : κ)
    (steps : List (Step σ ζ μ κ)) (step : Step σ ζ μ κ) :
    ((ofParts clock switch mains meter store).history steps).commandsIn step =
        (((ofParts clock switch mains meter store).history steps).applied
          step).reverse.flatMap Application.commands ∧
      ∀ application ∈ ((ofParts clock switch mains meter store).history steps).applied step,
        application.commands ≠ [] → application.OnAc →
          application.event = .zeroCrossing ∧ ∃ now, step = .act (.input .zeroCrossing now) :=
  have known := inSession_history rfl steps
  ⟨commandsIn_eq known step,
    (step_atCrossing known (recoveryOnDc_history clock switch mains meter store steps) step).2⟩

open Bench

/-- A close on an AC supply that waits for a crossing to command the switch. -/
def detectedAc : List BenchAction :=
  [.input .closeRequest 0, .input .zeroCrossing 20000, .input .zeroCrossing 30000,
    .input .zeroCrossing 40000, .input .zeroCrossing 50000, .poll 200000]

/-- The crossing that such a close waits for commands the switch on an AC supply. -/
theorem commanded_at_crossings_detectedAc :
    ((bench {} {}).history (session detectedAc)).commandsIn (.act (.input .zeroCrossing 210000)) =
        [.turnedOn none] ∧
      ∃ application ∈ ((bench {} {}).history (session detectedAc)).applied
          (.act (.input .zeroCrossing 210000)),
        application.commands ≠ [] ∧ application.OnAc ∧ application.event = .zeroCrossing := by
  have crossed := (commanded_at_crossings .micros ({} : ScriptedSwitch) ({} : ScriptedMains)
    ({} : ScriptedMeter) ({ storage := .erased 0 0 } : FramedStore FaultyMemory)
    (session detectedAc) (.act (.input .zeroCrossing 210000))).2
  have found : ((bench {} {}).history (session detectedAc)).applied
      (.act (.input .zeroCrossing 210000)) ≠ [] := by
    rw [← List.isEmpty_eq_false_iff]
    decide +kernel
  have commands : ∀ application ∈ ((bench {} {}).history (session detectedAc)).applied
      (.act (.input .zeroCrossing 210000)),
      application.commands ≠ [] ∧ application.after.lifecycle.acSupply = true := by
    decide +kernel
  obtain ⟨application, member⟩ := List.exists_mem_of_ne_nil _ found
  obtain ⟨commanded, ac⟩ := commands application member
  refine ⟨by decide +kernel, application, member, commanded, .inl ac, ?_⟩
  exact (crossed application member commanded (.inl ac)).1

end Breaker

end CircuitBreaker
