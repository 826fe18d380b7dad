import CircuitBreaker.Proofs.Crossings
import CircuitBreaker.Proofs.Disabling
import CircuitBreaker.Proofs.Hearing

/-!
# Refused recloses

A command that the switch refuses leaves the breaker in `closeWait`. On an AC supply the next
crossing commands it again. On a DC supply only a recovery timer can, and a command that a timer,
the end of the detection or the end of a mode gives arms none: such a reclose is given up.
-/

set_option autoImplicit false

namespace CircuitBreaker

namespace Lifecycle

variable (machine : Lifecycle) {σ : Type} [SwitchDriver σ] (clock : Clock) (event : Event)
  (switch : σ) (now : Nat)

/-- Something that commands the switch on is still to come: a crossing on an AC supply, or the
recovery timer. -/
def Redrives : Prop :=
  machine.acSupply = true ∧ machine.filter.isIgnored .zeroCrossing = false ∨
    machine.timers.isArmed .recovery = true

instance : Decidable machine.Redrives := inferInstanceAs (Decidable (_ ∨ _))

def Forsaken : Prop := machine.acSupply = false ∧ machine.timers.deadline .recovery = none

/-!
## Crossings are heard
-/

/-- Crossings are heard while the supply is detected, and on an AC supply until the breaker has
opened. -/
def HearsCrossings : Prop :=
  machine.phase = .supplyWait ∨
      machine.acSupply = true ∧ machine.phase ≠ .opened ∧ machine.phase ≠ .undefined →
    machine.filter.isIgnored .zeroCrossing = false

variable {machine} in
theorem Attentive.hearsCrossings (attentive : machine.Attentive) : machine.HearsCrossings := by
  rintro (detecting | ⟨ac, unopened, started⟩)
  · exact attentive.detecting detecting
  · cases phase : machine.phase with
    | undefined => exact absurd phase started
    | opened => exact absurd phase unopened
    | supplyWait => exact attentive.detecting phase
    | closeWait => exact attentive.engaged (.inl phase) ac
    | closed => exact attentive.engaged (.inr (.inl phase)) ac
    | openWait => exact attentive.engaged (.inr (.inr phase)) ac

/-- In a wait, what does not command the switch on again is a DC supply without a recovery timer. -/
theorem redrives_iff (heard : machine.HearsCrossings) (waits : machine.phase = .closeWait) :
    machine.Redrives ↔ ¬ machine.Forsaken := by
  unfold Redrives Forsaken TimerBank.isArmed
  cases ac : machine.acSupply with
  | true => simp [heard (.inr ⟨ac, by simp [waits], by simp [waits]⟩)]
  | false =>
      simp only [Bool.false_eq_true, false_and, false_or, true_and]
      exact Option.isSome_iff_ne_none

end Lifecycle

/-!
## Commands that leave no timer
-/

def Journaled.TurnedOn {σ : Type} (switch : Journaled σ) : Prop :=
  ∃ refusal, .turnedOn refusal ∈ switch.journal

theorem Journaled.turnedOn_turnOn {σ : Type} [SwitchDriver σ] (switch : Journaled σ) :
    (SwitchDriver.turnOn switch).2.TurnedOn :=
  ⟨_, List.mem_cons_self⟩

theorem Journaled.not_turnedOn_of_silent {σ : Type} {switch : Journaled σ}
    (silent : switch.journal = []) : ¬ switch.TurnedOn := by
  simp [TurnedOn, silent]

namespace Lifecycle

variable (machine : Lifecycle) {σ : Type} [SwitchDriver σ] (clock : Clock) (event : Event)
  (switch : σ) (now : Nat)

/-- A mode that is left with the switch off waits for it to close. -/
theorem modeEvent_waits (closed : machine.phase = .closed)
    (waits : (machine.modeEvent event switch).1.phase = .closeWait) :
    (machine.modeEvent event switch).2 =
      if machine.acSupply then switch else (SwitchDriver.turnOn switch).2 := by
  unfold modeEvent at waits ⊢
  rw [if_neg (not_not_intro closed)] at waits ⊢
  split at waits
  · next changed =>
    rw [if_pos changed]
    unfold leaveMode at waits ⊢
    dsimp only at waits ⊢
    split at waits
    · cases closed.symm.trans waits
    · next off =>
      rw [if_neg off]
      cases machine.acSupply with
      | true => rfl
      | false => exact reclose_switch _ switch
  · split at waits <;> cases closed.symm.trans waits

/-- From `closed` an over-current trip leads to a wait. It gives no command yet, but on a DC supply
it arms the recovery timer. -/
theorem closedTransition_waits (closed : machine.phase = .closed)
    (waits : (machine.closedTransition clock event switch now).1.phase = .closeWait) :
    (machine.closedTransition clock event switch now).2 = switch ∧
      ¬ (machine.closedTransition clock event switch now).1.Forsaken := by
  cases event with
  | openCommand =>
      rcases openOnCommand_isOpening machine switch with opened | openWait <;>
        cases waits.symm.trans ‹_›
  | overCurrentDuration =>
      rcases openOnDuration_isOpening machine switch with opened | openWait <;>
        cases waits.symm.trans ‹_›
  | switchOpened =>
      refine ⟨rfl, ?_⟩
      simp only [closedTransition, handleOpening] at waits ⊢
      split at waits
      · cases closed.symm.trans waits
      · split at waits
        · next attempts =>
          rw [if_pos attempts]
          rintro ⟨direct, unarmed⟩
          have direct : machine.acSupply = false := direct
          simp [beginRecovery, direct] at unarmed
        · cases waits
      · cases waits
  | _ => cases closed.symm.trans waits

theorem closedTransition_stays
    (stays : (machine.closedTransition clock event switch now).1.phase = .closed) :
    (machine.closedTransition clock event switch now).2 = switch ∧
      (machine.closedTransition clock event switch now).1.timers.deadline .recovery =
        machine.timers.deadline .recovery := by
  cases event with
  | openCommand =>
      rcases openOnCommand_isOpening machine switch with opened | openWait <;>
        cases stays.symm.trans ‹_›
  | overCurrentDuration =>
      rcases openOnDuration_isOpening machine switch with opened | openWait <;>
        cases stays.symm.trans ‹_›
  | switchOpened =>
      refine ⟨rfl, ?_⟩
      simp only [closedTransition, handleOpening] at stays ⊢
      split at stays
      · simp
      · split at stays <;> cases stays
      · cases stays
  | _ => exact ⟨rfl, rfl⟩

theorem turnedOn_reclose (switch : Journaled σ) : (machine.reclose switch).2.TurnedOn := by
  rw [reclose_switch]
  exact Journaled.turnedOn_turnOn switch

theorem forsaken_reclose (unarmed : machine.timers.deadline .recovery = none) :
    (machine.reclose switch).1.Forsaken ↔ machine.acSupply = false := by
  simp [Forsaken, unarmed]

/-- A wait is without a timer after a command to turn on that was given on a DC supply, and as long
as nothing else happens. The end of a mode may leave a timer of an earlier wait armed. -/
theorem forsaken_transition (switch : Journaled σ) (silent : switch.journal = [])
    (held : machine.RecoveryOnDc)
    (waits : (machine.transition clock event switch now).1.phase = .closeWait) :
    (machine.transition clock event switch now).1.Forsaken ↔
      (machine.transition clock event switch now).2.TurnedOn ∧
          (machine.transition clock event switch now).1.acSupply = false ∧
          ¬ (machine.phase = .closed ∧ machine.timers.isArmed .recovery = true) ∨
        ¬ (machine.transition clock event switch now).2.TurnedOn ∧
          machine.phase = .closeWait ∧ machine.Forsaken := by
  have unturned := Journaled.not_turnedOn_of_silent silent
  cases phase : machine.phase with
  | undefined => simp [transition_of_undefined, phase] at waits
  | opened => cases event <;> simp [transition, phase, beginClose] at waits
  | supplyWait =>
      cases event with
      | supplyTimerExpired =>
          simp only [transition, phase, classifySupply]
          split
          · next ac =>
            refine iff_of_false ?_ ?_
            · rintro ⟨direct, _⟩
              exact absurd ac (Bool.eq_false_iff.mp direct)
            · rintro (⟨turned, _⟩ | ⟨_, waiting, _⟩)
              · exact unturned turned
              · cases waiting
          · next direct =>
            have direct := Bool.eq_false_iff.mpr direct
            refine iff_of_true ?_ (.inl ⟨turnedOn_reclose _ switch, ?_, by simp⟩)
            · refine (forsaken_reclose _ switch ?_).mpr direct
              exact held (.inl phase)
            · simp only [reclose_fields]
              exact direct
      | _ => simp [transition, phase, countCrossing, abortClose] at waits
  | closeWait =>
      cases event with
      | zeroCrossing | recoveryTimerExpired =>
          simp only [transition, phase]
          rw [forsaken_reclose _ switch (by simp)]
          simp [turnedOn_reclose]
      | openCommand =>
          simp only [transition, phase] at waits
          rcases openOnCommand_isOpening machine switch with opened | openWait <;>
            cases waits.symm.trans ‹_›
      | switchClosed => simp [transition, phase, enterClosed] at waits
      | _ => simp [transition, phase, unturned]
  | closed =>
      -- An event that leaves `closed` is not seen by the mode. Otherwise only the mode can wait.
      rw [transition_of_closed machine clock event switch now phase] at waits ⊢
      by_cases stays : (machine.closedTransition clock event switch now).1.phase = .closed
      · obtain ⟨same, kept⟩ := closedTransition_stays machine clock event switch now stays
        rw [same] at waits ⊢
        have commanded := modeEvent_waits _ event switch stays waits
        unfold Forsaken TimerBank.isArmed
        simp only [commanded, modeEvent_fields, kept]
        cases (machine.closedTransition clock event switch now).1.acSupply with
        | true => simp
        | false => simp [Journaled.turnedOn_turnOn]
      · rw [modeEvent_of_ne _ _ _ stays] at waits ⊢
        obtain ⟨same, armed⟩ := closedTransition_waits machine clock event switch now phase waits
        rw [same]
        exact iff_of_false armed (by simp [unturned])
  | openWait => cases event <;> simp [transition, phase] at waits

theorem forsaken_respond (switch : Journaled σ) (silent : switch.journal = [])
    (held : machine.RecoveryOnDc)
    (waits : (machine.respond clock event switch now).1.phase = .closeWait) :
    (machine.respond clock event switch now).1.Forsaken ↔
      (machine.respond clock event switch now).2.TurnedOn ∧
          (machine.respond clock event switch now).1.acSupply = false ∧
          ¬ (machine.phase = .closed ∧ machine.timers.isArmed .recovery = true) ∨
        ¬ (machine.respond clock event switch now).2.TurnedOn ∧
          machine.phase = .closeWait ∧ machine.Forsaken := by
  unfold respond at waits ⊢
  split at waits
  · next ignored =>
    rw [if_pos ignored]
    have waits : machine.phase = .closeWait := waits
    simp [Journaled.not_turnedOn_of_silent silent, waits]
  · next heard =>
    rw [if_neg heard]
    exact forsaken_transition machine clock event now switch silent held waits

end Lifecycle

/-!
## Events
-/

namespace Application

variable {σ ζ μ κ : Type} [SwitchDriver σ] {application : Application σ ζ μ κ}

def TurnsOn (application : Application σ ζ μ κ) : Prop :=
  ∃ refusal, .turnedOn refusal ∈ application.commands

/-- The event commands the switch on, and leaves no way to do it again: the supply is DC, and no
recovery timer of an earlier wait is still armed as a mode ends. -/
def LastTry (application : Application σ ζ μ κ) : Prop :=
  application.TurnsOn ∧ application.after.lifecycle.acSupply = false ∧
    ¬ (application.before.lifecycle.phase = .closed ∧
      application.before.lifecycle.timers.isArmed .recovery = true)

/-- What an event does to the lifecycle and to the switch, by the journal of its commands. -/
theorem answer (session : application.before.InSession)
    (applied : application.before.apply application.event application.now = .ok application.after) :
    let answer := application.before.lifecycle.respond application.before.clock application.event
      application.before.journaled.switch application.now
    application.after.lifecycle = { answer.1 with noticePending := false } ∧
      application.commands = answer.2.journal := by
  obtain ⟨before, event, now, after⟩ := application
  dsimp only at session applied ⊢
  have inside : before.journaled.InSession := ⟨session.initialized, session.ready⟩
  obtain ⟨journaled, accepted, reacts, _⟩ := inside.apply event now
  constructor
  · have same : (before.lifecycle.respond before.clock event before.switch now).1 =
        (before.lifecycle.respond before.clock event before.journaled.switch now).1 := by
      unfold Lifecycle.respond
      split
      · rfl
      · exact congrArg Prod.fst (Journaled.switchMap_driver.transition before.lifecycle
          before.clock event before.journaled.switch now)
    rw [(session.reacts applied).lifecycle, same]
  · unfold commands
    dsimp only
    rw [accepted]
    dsimp only
    rw [reacts.switch]
    rfl

end Application

/-- The switch was commanded on without a way to do it again, and has not been since; the wait that
this happened in, or that it began, goes on. -/
def GivenUp {σ ζ μ κ : Type} [SwitchDriver σ] (trail : List (Application σ ζ μ κ)) : Prop :=
  ∃ earlier last later, trail = earlier ++ last :: later ∧ last.LastTry ∧
    ∀ application ∈ later,
      application.before.lifecycle.phase = .closeWait ∧ ¬ application.TurnsOn

theorem givenUp_concat {σ ζ μ κ : Type} [SwitchDriver σ] (trail : List (Application σ ζ μ κ))
    (application : Application σ ζ μ κ) :
    GivenUp (trail ++ [application]) ↔
      application.LastTry ∨
        ¬ application.TurnsOn ∧ application.before.lifecycle.phase = .closeWait ∧
          GivenUp trail := by
  constructor
  · rintro ⟨earlier, last, later, same, tried, waited⟩
    rcases List.eq_nil_or_concat' later with rfl | ⟨later, final, rfl⟩
    · obtain ⟨rfl, ended⟩ := List.append_inj' same rfl
      cases ended
      exact .inl tried
    · rw [← List.cons_append, ← List.append_assoc] at same
      obtain ⟨rfl, ended⟩ := List.append_inj' same rfl
      cases ended
      obtain ⟨waiting, quiet⟩ := waited application (by simp)
      exact .inr ⟨quiet, waiting, earlier, last, later, rfl, tried,
        fun other member => waited other (List.mem_append_left _ member)⟩
  · rintro (tried | ⟨quiet, waiting, earlier, last, later, rfl, tried, waited⟩)
    · exact ⟨trail, application, [], rfl, tried, List.forall_mem_nil _⟩
    · refine ⟨earlier, last, later ++ [application], by simp, tried, ?_⟩
      intro other member
      rcases List.mem_append.mp member with member | member
      · exact waited other member
      · rw [List.mem_singleton.mp member]
        exact ⟨waiting, quiet⟩

namespace Breaker

variable {σ ζ μ κ : Type} [SwitchDriver σ]

/-- What holds after the events of a run: a wait is without a timer on a DC supply exactly if the
last command to turn on was given up. -/
structure Followed (breaker : Breaker σ ζ μ κ) (past : List (Application σ ζ μ κ)) : Prop where
  onDc : breaker.lifecycle.RecoveryOnDc
  hears : breaker.lifecycle.HearsCrossings
  waits : breaker.lifecycle.phase = .closeWait → (breaker.lifecycle.Forsaken ↔ GivenUp past)

theorem Followed.event (application : Application σ ζ μ κ) {past : List (Application σ ζ μ κ)}
    (session : application.before.InSession)
    (applied : application.before.apply application.event application.now = .ok application.after)
    (onDc : application.before.lifecycle.RecoveryOnDc)
    (attentive : application.before.lifecycle.Attentive)
    (waited : application.before.lifecycle.phase = .closeWait → ¬ application.TurnsOn →
      (application.before.lifecycle.Forsaken ↔ GivenUp past)) :
    application.after.Followed (past ++ [application]) := by
  obtain ⟨answered, commands⟩ := application.answer session applied
  refine ⟨?_, ?_, fun waits => ?_⟩
  · rw [answered]
    exact onDc.respond _ _ _ _
  · exact ((session.reacts applied).attentive attentive).hearsCrossings
  · have spec := Lifecycle.forsaken_respond application.before.lifecycle application.before.clock
      application.event application.now application.before.journaled.switch rfl onDc
      (by rw [answered] at waits; exact waits)
    have forsaken : application.after.lifecycle.Forsaken ↔ application.LastTry ∨
        ¬ application.TurnsOn ∧ application.before.lifecycle.phase = .closeWait ∧
          application.before.lifecycle.Forsaken := by
      rw [Application.LastTry, Application.TurnsOn, answered, commands]
      exact spec
    rw [givenUp_concat, forsaken]
    refine or_congr_right (and_congr_right fun quiet => and_congr_right fun waiting => ?_)
    exact waited waiting quiet

theorem Followed.course {action : Action σ ζ μ κ} {now : Nat} {breaker final : Breaker σ ζ μ κ}
    {trail past : List (Application σ ζ μ κ)} (course : Course action now breaker trail final)
    (session : breaker.InSession) (attentive : breaker.lifecycle.Attentive)
    (followed : breaker.Followed past) : final.Followed (past ++ trail) := by
  induction course generalizing past with
  | rest breaker => rwa [List.append_nil]
  | aside monitor lastSeen later ih =>
      exact ih ⟨session.initialized, session.ready⟩ attentive
        ⟨followed.onDc, followed.hears, followed.waits⟩
  | @raise before after final trail event raised applied later ih =>
      have handled : after.Followed (past ++ [⟨before, event, now, after⟩]) :=
        .event ⟨before, event, now, after⟩ session applied followed.onDc attentive
          fun waiting _ => followed.waits waiting
      have heeding := (session.reacts applied).attentive attentive
      have reached := ih (session.applied applied) heeding handled
      rwa [List.append_assoc] at reached
  | @expire before after final trail timer polling due applied later ih =>
      have inside := session.disarm timer
      have onDc : (before.disarm timer).lifecycle.RecoveryOnDc := by
        intro guarded
        have unarmed := followed.onDc guarded
        simp [disarm, unarmed]
      have told : (before.disarm timer).lifecycle.Attentive := attentive.congr rfl rfl rfl
      have handled : after.Followed (past ++ [⟨before.disarm timer, timer.event, now, after⟩]) := by
        refine .event ⟨before.disarm timer, timer.event, now, after⟩ inside applied onDc told
          fun waiting quiet => ?_
        -- The recovery timer that expires in a wait commands the switch; the others leave its
        -- deadline alone.
        cases timer with
        | recovery => exact absurd ((Application.turnedOn_iff inside waiting).mpr trivial) quiet
        | supplyDetect | recoveryReset =>
            rw [← followed.waits waiting]
            simp [Lifecycle.Forsaken, disarm]
      have heeding := (inside.reacts applied).attentive told
      have reached := ih (inside.applied applied) heeding handled
      rwa [List.append_assoc] at reached

variable [Mains ζ] [Meter μ] [RecordStore κ]

theorem followed_history (clock : Clock) (switch : σ) (mains : ζ) (meter : μ) (store : κ)
    (steps : List (Step σ ζ μ κ)) :
    ((ofParts clock switch mains meter store).history steps).Followed
      ((ofParts clock switch mains meter store).appliedAlong steps) := by
  induction steps using List.reverseRecOn with
  | nil =>
      have attentive := (owns_history clock switch mains meter store []).reachable.attentive
      exact ⟨.of_disarmed rfl, attentive.hearsCrossings, fun waiting => by cases waiting⟩
  | append_singleton steps step ih =>
      have attentive := (owns_history clock switch mains meter store steps).reachable.attentive
      rw [history_concat, appliedAlong_concat]
      have known := inSession_history
        (show (ofParts clock switch mains meter store).initialized = false from rfl) steps
      have taken := step_taken known step
      generalize ((ofParts clock switch mains meter store).history steps).applied step = trail
        at taken
      generalize ((ofParts clock switch mains meter store).history steps).step step = after at taken
      cases taken with
      | idle => rwa [List.append_nil]
      | adjust adjustment =>
          obtain ⟨recovery, attemptsLeft, modulation, same, _⟩ :=
            (adjust_adjusted adjustment _).lifecycle
          rw [List.append_nil]
          constructor <;> rw [same]
          · exact ih.onDc
          · exact ih.hears
          · exact ih.waits
      | begun now fresh =>
          obtain ⟨_, recovery, settings, same⟩ := init_fresh fresh now
          rw [List.append_nil]
          constructor <;> rw [same]
          · exact .of_disarmed rfl
          · exact (Lifecycle.Attentive.start _).hearsCrossings
          · intro waiting
            rw [Lifecycle.start_phase] at waiting
            split at waiting <;> cases waiting
      | ended session =>
          rw [List.append_nil]
          exact ⟨.of_disarmed rfl, attentive.stop.hearsCrossings, fun waiting => by cases waiting⟩
      | course session action now events => exact .course events session attentive ih

end Breaker

/-- What the switch answered to the last command to turn on: the cause of a refusal, or none. -/
def lastAnswer {σ ζ μ κ : Type} [SwitchDriver σ] (trail : List (Application σ ζ μ κ)) :
    Option (Option SwitchCause) :=
  (trail.reverse.flatMap Application.commands).findSome? fun
    | .turnedOn refusal => some refusal
    | _ => none

namespace Breaker

variable {σ ζ μ κ : Type} [SwitchDriver σ]

/-- A wait after some events, with the switch off and the last command to turn on refused. -/
structure RefusedWait (breaker : Breaker σ ζ μ κ) (past : List (Application σ ζ μ κ)) : Prop where
  waits : breaker.lifecycle.phase = .closeWait
  off : SwitchDriver.isOn breaker.switch = false
  refused : ∃ cause, lastAnswer past = some (some cause)

variable [Mains ζ] [Meter μ] [RecordStore κ]

/-- A refused reclose is driven again, unless it is a last try: it came in the present wait or began
it, on a DC supply, at the end of the detection, with the recovery timer or as a mode ended. -/
theorem redriven_iff (clock : Clock) (switch : σ) (mains : ζ) (meter : μ) (store : κ)
    (steps : List (Step σ ζ μ κ))
    (refused : ((ofParts clock switch mains meter store).history steps).RefusedWait
      ((ofParts clock switch mains meter store).appliedAlong steps)) :
    ((ofParts clock switch mains meter store).history steps).lifecycle.Redrives ↔
      ¬ GivenUp ((ofParts clock switch mains meter store).appliedAlong steps) := by
  have followed := followed_history clock switch mains meter store steps
  rw [Lifecycle.redrives_iff _ followed.hears refused.waits, followed.waits refused.waits]

open Bench

/-- A switch that refuses to close for its temperature. -/
def overheated : ScriptedSwitch := { refusal := some .overTemperature }

def closingAtCrossing : List BenchStep := session (detectedAc ++ [.input .zeroCrossing 210000])

/-- On an AC supply the next crossing is still to come. -/
theorem redriven_iff_ac :
    ((bench overheated {}).history closingAtCrossing).RefusedWait
        ((bench overheated {}).appliedAlong closingAtCrossing) ∧
      ((bench overheated {}).history closingAtCrossing).lifecycle.Redrives ∧
      ¬ GivenUp ((bench overheated {}).appliedAlong closingAtCrossing) := by
  have refused : ((bench overheated {}).history closingAtCrossing).RefusedWait
      ((bench overheated {}).appliedAlong closingAtCrossing) :=
    ⟨by decide +kernel, by decide +kernel, .overTemperature, by decide +kernel⟩
  have redrives : ((bench overheated {}).history closingAtCrossing).lifecycle.Redrives := by
    decide +kernel
  have driven := redriven_iff .micros overheated ({} : ScriptedMains) ({} : ScriptedMeter)
    ({ storage := .erased 0 0 } : FramedStore FaultyMemory) closingAtCrossing refused
  exact ⟨refused, redrives, driven.mp redrives⟩

/-- A trip of a breaker with one attempt, and a switch too hot by the time of the reclose. -/
def refusedAtRecovery : List BenchStep :=
  session (.adjust (.recovery { enabled := true, attempts := 1 }) :: closed ++ [
    .adjust (.surroundings
      (fun switch => { switch.trip .hardwareOvercurrent with refusal := overheated.refusal })
      id id id),
    .input (.switchChanged false) 300000, .poll 1300000])

/-- A change of the mode that finds the switch off, and too hot. -/
def refusedAtModeEnd : List BenchStep :=
  session (closed ++ [.adjust (.recovery { mode := .modulated }),
    .adjust (.surroundings (fun _ => overheated) id id id), .input (.switchChanged true) 300000])

/-- On a DC supply nothing is left after a refusal at the end of the detection, with the recovery
timer or at the end of a mode. -/
theorem given_up_on_dc :
    (((bench overheated {}).history (session closing)).RefusedWait
        ((bench overheated {}).appliedAlong (session closing)) ∧
      ¬ ((bench overheated {}).history (session closing)).lifecycle.Redrives) ∧
    (((bench {} {}).history refusedAtRecovery).RefusedWait
        ((bench {} {}).appliedAlong refusedAtRecovery) ∧
      ¬ ((bench {} {}).history refusedAtRecovery).lifecycle.Redrives) ∧
    ((bench {} {}).history refusedAtModeEnd).RefusedWait
        ((bench {} {}).appliedAlong refusedAtModeEnd) ∧
      ¬ ((bench {} {}).history refusedAtModeEnd).lifecycle.Redrives := by
  refine ⟨⟨⟨?_, ?_, .overTemperature, ?_⟩, ?_⟩, ⟨⟨?_, ?_, .overTemperature, ?_⟩, ?_⟩,
    ⟨?_, ?_, .overTemperature, ?_⟩, ?_⟩ <;> decide +kernel

end Breaker

end CircuitBreaker
