import CircuitBreaker.Lifecycle

/-!
# Facts about single events

What handling one event does to the lifecycle and to its switch. Each move of the
table has its own lemma; the facts about `transition` are put together from them.
Nothing is assumed of the switch driver.
-/

set_option autoImplicit false

namespace CircuitBreaker

def Phase.IsOpening (phase : Phase) : Prop := phase = .opened ∨ phase = .openWait

instance (phase : Phase) : Decidable phase.IsOpening := inferInstanceAs (Decidable (_ ∨ _))

theorem Phase.IsOpening.ne_closed {phase : Phase} (opening : phase.IsOpening) :
    phase ≠ .closed := by
  rcases opening with rfl | rfl <;> simp

def Phase.next : Phase → List Phase
  | undefined => []
  | opened => [supplyWait]
  | supplyWait => [closeWait, opened]
  | closeWait => [closed, openWait, opened]
  | closed => [openWait, opened, closeWait]
  | openWait => [opened]

/-- Open, with no command to the switch under way. -/
def Phase.IsResting (phase : Phase) : Prop := phase = .opened ∨ phase = .supplyWait

namespace Modulation

variable {σ : Type} [SwitchDriver σ]

theorem handle_switch_of_ne {event : Event} (other : event ≠ .zeroCrossing)
    (modulation : Modulation) (switch : σ) : (modulation.handle event switch).2 = switch := by
  unfold handle
  split <;> first | rfl | exact absurd rfl other

@[simp]
theorem settings_handle (modulation : Modulation) (event : Event) (switch : σ) :
    (modulation.handle event switch).1.settings = modulation.settings := by
  unfold handle
  split
  · rfl
  · rfl
  · rfl
  · rfl
  · unfold crossingWhileOpened
    dsimp only
    split <;> rfl
  · rfl
  · rfl

end Modulation

namespace Lifecycle

/-!
## Moves
-/

section Moves

variable (machine : Lifecycle)

@[simp]
theorem phase_settleOpened : machine.settleOpened.phase = .opened := rfl

theorem adoptCause_machine (cause : SwitchCause) :
    ∃ reason, machine.adoptCause cause = { machine with reason } := by
  cases cause <;> exact ⟨_, rfl⟩

@[simp]
theorem adoptCause_fields (cause : SwitchCause) :
    (machine.adoptCause cause).attemptsLeft = machine.attemptsLeft ∧
      (machine.adoptCause cause).filter = machine.filter ∧
      (machine.adoptCause cause).acSupply = machine.acSupply ∧
      (machine.adoptCause cause).timers = machine.timers ∧
      (machine.adoptCause cause).recovery = machine.recovery ∧
      (machine.adoptCause cause).modulation = machine.modulation ∧
      (machine.adoptCause cause).noticePending = machine.noticePending := by
  obtain ⟨reason, same⟩ := adoptCause_machine machine cause
  simp only [same, and_self]

variable {σ : Type} [SwitchDriver σ] (switch : σ)

theorem reclose_machine : ∃ reason, (machine.reclose switch).1 = { machine with reason } := by
  unfold reclose
  split
  · exact ⟨machine.reason, rfl⟩
  · next cause _ _ => exact adoptCause_machine machine cause

@[simp]
theorem phase_reclose : (machine.reclose switch).1.phase = machine.phase := by
  obtain ⟨reason, same⟩ := reclose_machine machine switch
  rw [same]

@[simp]
theorem reclose_fields :
    (machine.reclose switch).1.attemptsLeft = machine.attemptsLeft ∧
      (machine.reclose switch).1.filter = machine.filter ∧
      (machine.reclose switch).1.acSupply = machine.acSupply ∧
      (machine.reclose switch).1.timers = machine.timers ∧
      (machine.reclose switch).1.recovery = machine.recovery ∧
      (machine.reclose switch).1.modulation = machine.modulation ∧
      (machine.reclose switch).1.noticePending = machine.noticePending := by
  obtain ⟨reason, same⟩ := reclose_machine machine switch
  simp only [same, and_self]

theorem reclose_switch : (machine.reclose switch).2 = (SwitchDriver.turnOn switch).2 := by
  unfold reclose
  split <;> next answer => rw [answer]

theorem classifySupply_machine :
    ∃ acSupply filter reason,
      (machine.classifySupply switch).1 =
          { machine with phase := .closeWait, crossings := 0, acSupply, filter, reason } ∧
        (filter = machine.filter ∨ filter = machine.filter.ignore .zeroCrossing) := by
  unfold classifySupply
  dsimp only
  split
  · exact ⟨_, machine.filter, machine.reason, rfl, .inl rfl⟩
  · obtain ⟨reason, same⟩ := reclose_machine _ switch
    rw [same]
    exact ⟨_, _, reason, rfl, .inr rfl⟩

/-- A release settles where the switch is off, and waits for it to open where it is on. -/
theorem releaseSwitch_of_off (off : SwitchDriver.isOn switch = false) :
    machine.releaseSwitch switch = (machine.settleOpened, switch) := by
  simp [releaseSwitch, off]

theorem releaseSwitch_isResting
    (resting : (machine.releaseSwitch switch).1.phase.IsResting) :
    SwitchDriver.isOn switch = false ∧ (machine.releaseSwitch switch).2 = switch := by
  cases position : SwitchDriver.isOn switch with
  | false => exact ⟨rfl, by rw [releaseSwitch_of_off machine switch position]⟩
  | true => simp [releaseSwitch, position, Phase.IsResting] at resting

theorem releaseSwitch_machine :
    ∃ phase filter noticePending,
      (machine.releaseSwitch switch).1 = { machine with phase, filter, noticePending } ∧
        phase.IsOpening ∧
        (filter = machine.filter ∨ filter = machine.filter.ignore .zeroCrossing) := by
  cases position : SwitchDriver.isOn switch with
  | false =>
      rw [releaseSwitch_of_off machine switch position]
      exact ⟨_, _, _, rfl, .inl rfl, .inr rfl⟩
  | true =>
      unfold releaseSwitch
      rw [if_pos position]
      exact ⟨_, machine.filter, machine.noticePending, rfl, .inr rfl, .inl rfl⟩

@[simp]
theorem releaseSwitch_fields :
    (machine.releaseSwitch switch).1.attemptsLeft = machine.attemptsLeft ∧
      (machine.releaseSwitch switch).1.acSupply = machine.acSupply ∧
      (machine.releaseSwitch switch).1.timers = machine.timers ∧
      (machine.releaseSwitch switch).1.recovery = machine.recovery ∧
      (machine.releaseSwitch switch).1.modulation = machine.modulation := by
  obtain ⟨phase, filter, noticePending, same, _⟩ := releaseSwitch_machine machine switch
  simp only [same, and_self]

@[simp]
theorem isIgnored_releaseSwitch {event : Event} (other : event ≠ .zeroCrossing) :
    (machine.releaseSwitch switch).1.filter.isIgnored event = machine.filter.isIgnored event := by
  obtain ⟨phase, filter, noticePending, same, _, rfl | rfl⟩ := releaseSwitch_machine machine switch
  · rw [same]
  · simp [same, other]

theorem releaseSwitch_isOpening : (machine.releaseSwitch switch).1.phase.IsOpening := by
  obtain ⟨phase, filter, noticePending, same, opening, _⟩ := releaseSwitch_machine machine switch
  rw [same]
  exact opening

theorem openOnCommand_isOpening : (machine.openOnCommand switch).1.phase.IsOpening :=
  releaseSwitch_isOpening _ switch

theorem openOnDuration_isOpening : (machine.openOnDuration switch).1.phase.IsOpening :=
  releaseSwitch_isOpening _ switch

theorem handleOpening_phase (clock : Clock) (now : Nat) :
    (machine.handleOpening clock switch now).phase = machine.phase ∨
      (machine.handleOpening clock switch now).phase = .closeWait ∨
      (machine.handleOpening clock switch now).phase = .opened := by
  unfold handleOpening
  dsimp only
  split
  · exact .inl rfl
  · split
    · exact .inr (.inl rfl)
    · exact .inr (.inr rfl)
  · exact .inr (.inr rfl)

theorem handleOpening_machine (clock : Clock) (now : Nat) :
    ∃ phase reason filter attemptsLeft timers noticePending,
      machine.handleOpening clock switch now =
        { machine with phase, reason, filter, attemptsLeft, timers, noticePending } := by
  unfold handleOpening
  dsimp only
  split
  · exact ⟨_, _, _, _, _, _, rfl⟩
  · split
    · exact ⟨_, _, _, _, _, _, rfl⟩
    · exact ⟨_, _, _, _, _, _, rfl⟩
  · cases SwitchDriver.cause switch <;> exact ⟨_, _, _, _, _, _, rfl⟩

@[simp]
theorem handleOpening_fields (clock : Clock) (now : Nat) :
    (machine.handleOpening clock switch now).acSupply = machine.acSupply ∧
      (machine.handleOpening clock switch now).recovery = machine.recovery ∧
      (machine.handleOpening clock switch now).modulation = machine.modulation := by
  obtain ⟨phase, reason, filter, attemptsLeft, timers, noticePending, same⟩ :=
    handleOpening_machine machine switch clock now
  simp only [same, and_self]

@[simp]
theorem isIgnored_handleOpening (clock : Clock) (now : Nat) {event : Event}
    (other : event ≠ .zeroCrossing) :
    (machine.handleOpening clock switch now).filter.isIgnored event =
      machine.filter.isIgnored event := by
  unfold handleOpening
  dsimp only
  split
  · rfl
  · split
    · rfl
    · simp [settleOpened, other]
  · simp [settleOpened, other]

theorem leaveMode_machine :
    ∃ phase reason modulation,
      (machine.leaveMode switch).1 = { machine with phase, reason, modulation } ∧
        (phase = machine.phase ∨ phase = .closeWait) := by
  unfold leaveMode
  dsimp only
  split
  · exact ⟨machine.phase, machine.reason, _, rfl, .inl rfl⟩
  · split
    · exact ⟨.closeWait, machine.reason, _, rfl, .inr rfl⟩
    · obtain ⟨reason, same⟩ := reclose_machine
        { machine with modulation := machine.modulation.cleanUp, phase := .closeWait } switch
      exact ⟨.closeWait, reason, _, same, .inr rfl⟩

theorem modeEvent_of_ne (event : Event) (other : machine.phase ≠ .closed) :
    machine.modeEvent event switch = (machine, switch) := by
  simp [modeEvent, other]

theorem modeEvent_machine (event : Event) :
    ∃ phase reason activeMode modulation,
      (machine.modeEvent event switch).1 =
          { machine with phase, reason, activeMode, modulation } ∧
        (phase = machine.phase ∨ phase = .closeWait) := by
  unfold modeEvent
  split
  · exact ⟨machine.phase, machine.reason, machine.activeMode, machine.modulation, rfl, .inl rfl⟩
  · split
    · obtain ⟨phase, reason, modulation, same, kept⟩ :=
        leaveMode_machine { machine with activeMode := machine.recovery.mode } switch
      exact ⟨phase, reason, _, modulation, same, kept⟩
    · split
      · exact ⟨machine.phase, machine.reason, machine.activeMode, _, rfl, .inl rfl⟩
      · exact ⟨machine.phase, machine.reason, machine.activeMode, machine.modulation, rfl,
          .inl rfl⟩

@[simp]
theorem modeEvent_fields (event : Event) :
    (machine.modeEvent event switch).1.attemptsLeft = machine.attemptsLeft ∧
      (machine.modeEvent event switch).1.filter = machine.filter ∧
      (machine.modeEvent event switch).1.acSupply = machine.acSupply ∧
      (machine.modeEvent event switch).1.timers = machine.timers ∧
      (machine.modeEvent event switch).1.recovery = machine.recovery := by
  obtain ⟨phase, reason, activeMode, modulation, same, _⟩ := modeEvent_machine machine switch event
  simp only [same, and_self]

/-- Where the mode leaves the breaker closed, it commands the switch at crossings only. -/
theorem modeEvent_switch (event : Event) (closed : machine.phase = .closed)
    (other : event ≠ .zeroCrossing)
    (still : (machine.modeEvent event switch).1.phase = .closed) :
    (machine.modeEvent event switch).2 = switch := by
  unfold modeEvent at still ⊢
  rw [if_neg (not_not_intro closed)] at still ⊢
  split at still
  · next changed =>
    rw [if_pos changed]
    unfold leaveMode at still ⊢
    dsimp only at still ⊢
    split at still
    · next on => rw [if_pos on]
    · split at still
      · cases still
      · rw [phase_reclose] at still
        cases still
  · next unchanged =>
    rw [if_neg unchanged]
    split
    · exact Modulation.handle_switch_of_ne other _ switch
    · rfl

end Moves

/-!
## The transition table
-/

section Transitions

variable {σ : Type} [SwitchDriver σ]
variable (machine : Lifecycle) (clock : Clock) (event : Event) (switch : σ) (now : Nat)

theorem transition_of_closed (closed : machine.phase = .closed) :
    machine.transition clock event switch now =
      (machine.closedTransition clock event switch now).1.modeEvent event
        (machine.closedTransition clock event switch now).2 := by
  unfold transition
  simp only [closed]

/-- From `closed` the mode is asked only if the breaker stays closed. -/
theorem transition_of_closed_left (closed : machine.phase = .closed)
    (left : (machine.closedTransition clock event switch now).1.phase ≠ .closed) :
    machine.transition clock event switch now =
      machine.closedTransition clock event switch now := by
  rw [transition_of_closed machine clock event switch now closed, modeEvent_of_ne _ _ _ left]

private theorem closedTransition_phase (closed : machine.phase = .closed) :
    (machine.closedTransition clock event switch now).1.phase = .closed ∨
      (machine.closedTransition clock event switch now).1.phase ∈ Phase.closed.next := by
  cases event with
  | openCommand =>
      rcases openOnCommand_isOpening machine switch with opened | openWait <;>
        simp [closedTransition, Phase.next, *]
  | overCurrentDuration =>
      rcases openOnDuration_isOpening machine switch with opened | openWait <;>
        simp [closedTransition, Phase.next, *]
  | switchOpened =>
      rcases handleOpening_phase machine switch clock now with same | closeWait | opened <;>
        simp [closedTransition, Phase.next, *]
  | _ => simp [closedTransition, replenish, closed]

/-- The table of the phases: an event leaves the phase or leads to one of the next. -/
theorem transition_phase :
    (machine.transition clock event switch now).1.phase = machine.phase ∨
      (machine.transition clock event switch now).1.phase ∈ machine.phase.next := by
  cases phase : machine.phase with
  | undefined => simp [transition_of_undefined, phase]
  | opened => cases event <;> simp [transition, phase, beginClose, Phase.next]
  | supplyWait =>
      cases event with
      | supplyTimerExpired =>
          obtain ⟨acSupply, filter, reason, same, _⟩ := classifySupply_machine machine switch
          simp [transition, phase, same, Phase.next]
      | _ => simp [transition, phase, abortClose, countCrossing, Phase.next]
  | closeWait =>
      cases event with
      | openCommand =>
          rcases openOnCommand_isOpening machine switch with opened | openWait <;>
            simp [transition, Phase.next, *]
      | _ => simp [transition, phase, enterClosed, Phase.next]
  | closed =>
      by_cases left : (machine.closedTransition clock event switch now).1.phase = .closed
      · rw [transition_of_closed machine clock event switch now phase]
        obtain ⟨after, reason, activeMode, modulation, same, kept⟩ := modeEvent_machine
          (machine.closedTransition clock event switch now).1
          (machine.closedTransition clock event switch now).2 event
        rw [same]
        rcases kept with rfl | rfl <;> simp [left, Phase.next]
      · rw [transition_of_closed_left machine clock event switch now phase left]
        exact closedTransition_phase machine clock event switch now phase
  | openWait => cases event <;> simp [transition, phase, Phase.next]

theorem transition_of_opened (opened : machine.phase = .opened) (other : event ≠ .closeCommand) :
    machine.transition clock event switch now = (machine, switch) := by
  unfold transition
  cases event <;> simp_all

/-- Only a close request leads out of the opening phases, and there the switch is
at most commanded off. -/
theorem transition_of_isOpening (opening : machine.phase.IsOpening)
    (unasked : machine.phase = .opened → event ≠ .closeCommand) :
    (machine.transition clock event switch now).1.phase.IsOpening ∧
      ((machine.transition clock event switch now).2 = switch ∨
        (machine.transition clock event switch now).2 = SwitchDriver.turnOff switch) := by
  rcases opening with opened | openWait
  · rw [transition_of_opened machine clock event switch now opened (unasked opened)]
    exact ⟨.inl opened, .inl rfl⟩
  · cases event with
    | zeroCrossing => simp [transition, openWait, Phase.IsOpening]
    | switchOpened => simp [transition, openWait, Phase.IsOpening]
    | _ => simp [transition, openWait, Phase.IsOpening]

theorem transition_openCommand_isOpening (started : machine.phase ≠ .undefined) :
    (machine.transition clock .openCommand switch now).1.phase.IsOpening := by
  cases phase : machine.phase with
  | undefined => exact absurd phase started
  | opened => simp [transition, phase, Phase.IsOpening]
  | supplyWait => simp [transition, phase, Phase.IsOpening, abortClose]
  | closeWait =>
      simp only [transition, phase]
      exact openOnCommand_isOpening machine switch
  | closed =>
      have opening := openOnCommand_isOpening machine switch
      rw [transition_of_closed_left machine clock .openCommand switch now phase opening.ne_closed]
      exact opening
  | openWait => simp [transition, phase, Phase.IsOpening]

theorem transition_overCurrent_isOpening (closed : machine.phase = .closed) :
    (machine.transition clock .overCurrentDuration switch now).1.phase.IsOpening := by
  have opening := openOnDuration_isOpening machine switch
  rw [transition_of_closed_left machine clock .overCurrentDuration switch now closed
    opening.ne_closed]
  exact opening

def DecidesToOpen : Prop :=
  event = .openCommand ∧ (machine.phase = .closeWait ∨ machine.phase = .closed) ∨
    event = .overCurrentDuration ∧ machine.phase = .closed

/-- A decision to open rests at once, without a command, where the switch reads off. -/
theorem transition_of_decidesToOpen (decides : machine.DecidesToOpen event)
    (off : SwitchDriver.isOn switch = false) :
    (machine.transition clock event switch now).1.phase = .opened ∧
      (machine.transition clock event switch now).2 = switch := by
  rcases decides with ⟨rfl, closeWait | closed⟩ | ⟨rfl, closed⟩
  · simp [transition, closeWait, openOnCommand, releaseSwitch_of_off _ switch off]
  · rw [transition_of_closed_left machine clock _ switch now closed
      (by simp [closedTransition, openOnCommand, releaseSwitch_of_off _ switch off])]
    simp [closedTransition, openOnCommand, releaseSwitch_of_off _ switch off]
  · rw [transition_of_closed_left machine clock _ switch now closed
      (by simp [closedTransition, openOnDuration, releaseSwitch_of_off _ switch off])]
    simp [closedTransition, openOnDuration, releaseSwitch_of_off _ switch off]

private theorem closedTransition_isResting (closed : machine.phase = .closed)
    (resting : (machine.closedTransition clock event switch now).1.phase.IsResting) :
    (machine.closedTransition clock event switch now).2 = switch ∧
      (event = .switchOpened ∨
        machine.DecidesToOpen event ∧ SwitchDriver.isOn switch = false) := by
  cases event with
  | openCommand =>
      obtain ⟨off, same⟩ := releaseSwitch_isResting _ switch resting
      exact ⟨same, .inr ⟨.inl ⟨rfl, .inr closed⟩, off⟩⟩
  | overCurrentDuration =>
      obtain ⟨off, same⟩ := releaseSwitch_isResting _ switch resting
      exact ⟨same, .inr ⟨.inr ⟨rfl, closed⟩, off⟩⟩
  | switchOpened => exact ⟨rfl, .inl rfl⟩
  | _ => simp [closedTransition, replenish, closed, Phase.IsResting] at resting

/-- A machine comes to rest without a command to the switch: it was at rest, the
switch reported that it opened, or a decision to open found it off. -/
theorem transition_isResting
    (resting : (machine.transition clock event switch now).1.phase.IsResting) :
    (machine.transition clock event switch now).2 = switch ∧
      (machine.phase.IsResting ∨ event = .switchOpened ∨
        machine.DecidesToOpen event ∧ SwitchDriver.isOn switch = false) := by
  cases phase : machine.phase with
  | undefined => simp [transition_of_undefined, phase, Phase.IsResting] at resting
  | opened =>
      refine ⟨?_, .inl (.inl rfl)⟩
      cases event <;> simp [transition, phase]
  | supplyWait =>
      refine ⟨?_, .inl (.inr rfl)⟩
      cases event with
      | supplyTimerExpired =>
          obtain ⟨acSupply, filter, reason, same, _⟩ := classifySupply_machine machine switch
          simp [transition, phase, same, Phase.IsResting] at resting
      | _ => simp [transition, phase]
  | closeWait =>
      cases event with
      | openCommand =>
          simp only [transition, phase] at resting ⊢
          obtain ⟨off, same⟩ := releaseSwitch_isResting _ switch resting
          exact ⟨same, .inr (.inr ⟨.inl ⟨rfl, .inl phase⟩, off⟩)⟩
      | _ => simp [transition, phase, enterClosed, Phase.IsResting] at resting
  | closed =>
      by_cases left : (machine.closedTransition clock event switch now).1.phase = .closed
      · rw [transition_of_closed machine clock event switch now phase] at resting
        obtain ⟨after, reason, activeMode, modulation, same, kept⟩ := modeEvent_machine
          (machine.closedTransition clock event switch now).1
          (machine.closedTransition clock event switch now).2 event
        rw [same] at resting
        rcases kept with rfl | rfl <;> simp [left, Phase.IsResting] at resting
      · rw [transition_of_closed_left machine clock event switch now phase left] at resting ⊢
        obtain ⟨same, found⟩ :=
          closedTransition_isResting machine clock event switch now phase resting
        exact ⟨same, .inr found⟩
  | openWait =>
      cases event with
      | switchOpened => exact ⟨by simp [transition, phase], .inr (.inl rfl)⟩
      | _ => simp [transition, phase, Phase.IsResting] at resting

/-- A timer that fires in a breaker that stays closed commands nothing. -/
theorem transition_timer_of_closed (timer : TimerId)
    (still : (machine.transition clock timer.event switch now).1.phase = .closed) :
    machine.phase = .closed ∧ (machine.transition clock timer.event switch now).2 = switch := by
  cases phase : machine.phase with
  | closed =>
      refine ⟨rfl, ?_⟩
      rw [transition_of_closed machine clock _ switch now phase] at still ⊢
      cases timer <;>
        exact modeEvent_switch _ switch _ phase (by simp [TimerId.event]) still
  | supplyWait =>
      cases timer with
      | supplyDetect =>
          obtain ⟨acSupply, filter, reason, same, _⟩ := classifySupply_machine machine switch
          simp [transition, phase, TimerId.event, same] at still
      | _ => simp [transition, phase, TimerId.event] at still
  | _ => cases timer <;> simp [transition, phase, TimerId.event] at still

/-!
## The attempts
-/

theorem attemptsLeft_handleOpening :
    (machine.handleOpening clock switch now).attemptsLeft =
      if SwitchDriver.cause switch = .hardwareOvercurrent ∧ 0 < machine.attemptsLeft then
        machine.attemptsLeft - 1
      else machine.attemptsLeft := by
  unfold handleOpening
  cases cause : SwitchDriver.cause switch with
  | hardwareOvercurrent =>
      by_cases left : 0 < machine.attemptsLeft <;>
        simp [left, beginRecovery, settleOpened]
  | _ => simp [settleOpened]

/-- An over-current trip of a closed machine takes one attempt and brings the switch back,
or opens the machine if none is left. -/
theorem transition_trip_of_closed (closed : machine.phase = .closed)
    (tripped : SwitchDriver.cause switch = .hardwareOvercurrent) :
    (machine.transition clock .switchOpened switch now).1.phase =
      if 0 < machine.attemptsLeft then .closeWait else .opened := by
  have opening : (machine.closedTransition clock .switchOpened switch now).1.phase =
      if 0 < machine.attemptsLeft then .closeWait else .opened := by
    simp only [closedTransition, handleOpening, tripped]
    split <;> rfl
  rw [transition_of_closed_left machine clock _ switch now closed
    (by rw [opening]; split <;> simp), opening]

/-- What the table does to the attempts left: a close and the reset timer grant the
whole budget, an over-current trip takes one. -/
theorem attemptsLeft_transition :
    (machine.transition clock event switch now).1.attemptsLeft =
      if machine.phase = .opened ∧ event = .closeCommand ∨
          machine.phase = .closed ∧ event = .recoveryResetTimerExpired then
        machine.recovery.attemptBudget
      else if machine.phase = .closed ∧ event = .switchOpened ∧
          SwitchDriver.cause switch = .hardwareOvercurrent ∧ 0 < machine.attemptsLeft then
        machine.attemptsLeft - 1
      else machine.attemptsLeft := by
  cases phase : machine.phase with
  | undefined => simp [transition_of_undefined, phase]
  | opened => cases event <;> simp [transition, phase, beginClose]
  | supplyWait =>
      cases event with
      | supplyTimerExpired =>
          obtain ⟨acSupply, filter, reason, same, _⟩ := classifySupply_machine machine switch
          simp [transition, phase, same]
      | _ => simp [transition, phase, abortClose, settleOpened, countCrossing]
  | closeWait => cases event <;> simp [transition, phase, openOnCommand, enterClosed]
  | closed =>
      simp only [transition_of_closed machine clock event switch now phase, modeEvent_fields]
      cases event <;>
        simp [closedTransition, openOnCommand, openOnDuration, replenish,
          attemptsLeft_handleOpening]
  | openWait => cases event <;> simp [transition, phase, settleOpened]

theorem isIgnored_transition {other : Event} (different : other ≠ .zeroCrossing) :
    (machine.transition clock event switch now).1.filter.isIgnored other =
      machine.filter.isIgnored other := by
  cases phase : machine.phase with
  | undefined => simp [transition_of_undefined, phase]
  | opened => cases event <;> simp [transition, phase, beginClose, different]
  | supplyWait =>
      cases event with
      | supplyTimerExpired =>
          obtain ⟨acSupply, filter, reason, same, kept | ignored⟩ :=
            classifySupply_machine machine switch
          · simp [transition, phase, same, kept]
          · simp [transition, phase, same, ignored, different]
      | _ => simp [transition, phase, abortClose, settleOpened, countCrossing, different]
  | closeWait => cases event <;> simp [transition, phase, openOnCommand, enterClosed, different]
  | closed =>
      simp only [transition_of_closed machine clock event switch now phase, modeEvent_fields]
      cases event <;>
        simp [closedTransition, openOnCommand, openOnDuration, replenish, different]
  | openWait => cases event <;> simp [transition, phase, settleOpened, different]

/-!
## Handling
-/

/-- A machine of a session: started, and deaf to no event but the crossing. -/
structure Ready : Prop where
  started : machine.phase ≠ .undefined
  hears : ∀ other, other ≠ .zeroCrossing → machine.filter.isIgnored other = false

variable {machine}

theorem start_phase :
    (machine.start switch).phase =
      if SwitchDriver.isOn switch then .closed else .opened := rfl

theorem start_ready : (machine.start switch).Ready where
  started := by
    rw [start_phase]
    split <;> simp
  hears other different := by
    unfold start
    dsimp only
    split <;> simp [different]

theorem transition_started (started : machine.phase ≠ .undefined) :
    (machine.transition clock event switch now).1.phase ≠ .undefined := by
  rcases transition_phase machine clock event switch now with same | moved
  · rwa [same]
  · intro lost
    rw [lost] at moved
    cases phase : machine.phase <;> simp [phase, Phase.next] at moved

theorem Ready.transition (ready : machine.Ready) :
    (machine.transition clock event switch now).1.Ready where
  started := transition_started clock event switch now ready.started
  hears other different := by
    rw [isIgnored_transition machine clock event switch now different, ready.hears other different]

theorem Ready.handle (ready : machine.Ready) :
    machine.handle clock event switch now =
      if machine.filter.isIgnored event then .ok (machine, switch)
      else .ok (machine.transition clock event switch now) := by
  simp only [Lifecycle.handle, ready.started, ↓reduceIte]

end Transitions

/-!
## What commands keep
-/

section Commanded

variable {σ : Type} [SwitchDriver σ] {Property : σ → Prop}
  (turnedOn : ∀ switch, Property switch → Property (SwitchDriver.turnOn switch).2)
  (turnedOff : ∀ switch, Property switch → Property (SwitchDriver.turnOff switch))
  (machine : Lifecycle) (clock : Clock) (event : Event) {switch : σ} (now : Nat)
  (holds : Property switch)

include turnedOff holds in
private theorem releaseSwitch_keeps : Property (machine.releaseSwitch switch).2 := by
  unfold releaseSwitch
  split
  · dsimp only
    split
    · exact holds
    · exact turnedOff switch holds
  · exact holds

include turnedOn turnedOff holds

private theorem handle_keeps (modulation : Modulation) :
    Property (modulation.handle event switch).2 := by
  unfold Modulation.handle
  split
  · exact holds
  · unfold Modulation.crossingWhileClosed
    dsimp only
    split
    · exact turnedOff switch holds
    · exact holds
  · exact holds
  · exact holds
  · unfold Modulation.crossingWhileOpened
    dsimp only
    split
    · exact turnedOn switch holds
    · exact holds
  · exact holds
  · exact holds

private theorem modeEvent_keeps : Property (machine.modeEvent event switch).2 := by
  unfold modeEvent
  split
  · exact holds
  · split
    · unfold leaveMode
      dsimp only
      split
      · exact holds
      · split
        · exact holds
        · rw [reclose_switch]
          exact turnedOn switch holds
    · split
      · exact handle_keeps turnedOn turnedOff event holds machine.modulation
      · exact holds

/-- What every command to the switch keeps, every event keeps. -/
theorem transition_keeps : Property (machine.transition clock event switch now).2 := by
  cases phase : machine.phase with
  | undefined => simpa [transition_of_undefined, phase] using holds
  | opened => cases event <;> simpa [transition, phase] using holds
  | supplyWait =>
      cases event with
      | supplyTimerExpired =>
          simp only [transition, phase, classifySupply]
          split
          · exact holds
          · rw [reclose_switch]
            exact turnedOn switch holds
      | _ => simpa [transition, phase] using holds
  | closeWait =>
      cases event with
      | openCommand =>
          simp only [transition, phase]
          exact releaseSwitch_keeps turnedOff _ holds
      | recoveryTimerExpired =>
          simp only [transition, phase]
          rw [reclose_switch]
          exact turnedOn switch holds
      | zeroCrossing =>
          simp only [transition, phase]
          rw [reclose_switch]
          exact turnedOn switch holds
      | _ => simpa [transition, phase] using holds
  | closed =>
      rw [transition_of_closed machine clock event switch now phase]
      refine modeEvent_keeps turnedOn turnedOff _ event ?_
      cases event with
      | openCommand => exact releaseSwitch_keeps turnedOff _ holds
      | overCurrentDuration => exact releaseSwitch_keeps turnedOff _ holds
      | _ => exact holds
  | openWait =>
      cases event with
      | zeroCrossing =>
          simp only [transition, phase]
          exact turnedOff switch holds
      | _ => simpa [transition, phase] using holds

end Commanded

end Lifecycle

end CircuitBreaker
