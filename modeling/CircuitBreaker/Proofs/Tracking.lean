import CircuitBreaker.Emulator.Switch
import CircuitBreaker.Proofs.Applied

/-!
# Tracking the simulated switch

The simulated switch moves at once, so that its position and the phase of the lifecycle agree
as soon as its edges have been fed back. At most one edge is waiting at any time.
-/

set_option autoImplicit false

namespace CircuitBreaker.Emulator

/-!
## The switch
-/

/-- A switch that reports its edges, and that only a command has closed. -/
structure Obedient (switch : SimulatedSwitch) : Prop where
  reporting : switch.reporting = true
  commanded : switch.on = true → switch.commanded = true

section Switch

variable {switch : SimulatedSwitch}

theorem setLimit_eq {limit : UInt8} {limited : SimulatedSwitch}
    (accepted : SwitchDriver.setLimit switch limit = .ok limited) : limited = switch := by
  simp only [SwitchDriver.setLimit] at accepted
  split at accepted
  · cases accepted
  · exact (Except.ok.inj accepted).symm

theorem turnOn_of_on (on : switch.on = true) :
    (switch.turnOn).2.on = true ∧ (switch.turnOn).2.edges = switch.edges := by
  unfold SimulatedSwitch.turnOn
  split
  · exact ⟨on, rfl⟩
  · simp [SimulatedSwitch.move, on]

theorem turnOn_of_off (obedient : Obedient switch) (off : switch.on = false)
    (edges : switch.edges = []) :
    (switch.turnOn).2.on = false ∧ (switch.turnOn).2.edges = [] ∨
      (switch.turnOn).2.on = true ∧ (switch.turnOn).2.edges = [.switchChanged true] := by
  unfold SimulatedSwitch.turnOn
  split
  · exact .inl ⟨off, edges⟩
  · right
    simp [SimulatedSwitch.move, off, edges, obedient.reporting]

theorem turnOff_of_on (obedient : Obedient switch) (on : switch.on = true) :
    (switch.turnOff).on = false ∧ (switch.turnOff).cause = .external ∧
      (switch.turnOff).edges = switch.edges ++ [.switchChanged false] := by
  simp [SimulatedSwitch.turnOff, SimulatedSwitch.move, on, obedient.reporting]

theorem Obedient.turnOn (obedient : Obedient switch) : Obedient (switch.turnOn).2 := by
  unfold SimulatedSwitch.turnOn
  split
  · exact ⟨obedient.reporting, obedient.commanded⟩
  · unfold SimulatedSwitch.move
    split
    · exact ⟨obedient.reporting, fun _ => rfl⟩
    · exact ⟨obedient.reporting, fun _ => rfl⟩

theorem Obedient.turnOff (obedient : Obedient switch) : Obedient switch.turnOff := by
  unfold SimulatedSwitch.turnOff SimulatedSwitch.move
  split
  · next off => exact ⟨obedient.reporting, fun on => absurd (on.symm.trans off) (by simp)⟩
  · exact ⟨obedient.reporting, fun on => by cases on⟩

/-- A fault strikes a closed switch only, and never counts as a command. -/
theorem Obedient.strike (obedient : Obedient switch) {fault : Fault} {moved : SimulatedSwitch}
    (struck : switch.strike? fault = some moved) :
    switch.on = true ∧ moved.on = false ∧ moved.edges = switch.edges ++ [.switchChanged false] ∧
      moved.cause ≠ .external ∧ Obedient moved := by
  unfold SimulatedSwitch.strike? at struck
  split at struck
  · next on =>
    have commanded := obedient.commanded on
    rw [← Option.some.inj struck]
    simp only [SimulatedSwitch.move, on, Bool.true_eq_false, if_false, obedient.reporting, if_true]
    exact ⟨trivial, trivial, trivial, FallingEdge.cause_ne_external commanded, rfl,
      fun on => by cases on⟩
  · cases struck

end Switch

/-!
## Positions
-/

/-- The modulation cycle does not hold the switch open. -/
def Conducts (machine : Lifecycle) : Prop :=
  machine.acSupply = true → machine.activeMode = .modulated → machine.modulation.phase ≠ .opened

structure Cycles (machine : Lifecycle) (phase : ModulationPhase) : Prop where
  acSupply : machine.acSupply = true
  activeMode : machine.activeMode = .modulated
  mode : machine.recovery.mode = .modulated
  phase : machine.modulation.phase = phase

/-- Where the switch stands when all its edges have been fed back. -/
inductive Settled (machine : Lifecycle) (switch : SimulatedSwitch) : Prop where
  | opened (phase : machine.phase = .opened) (off : switch.on = false) (edges : switch.edges = [])
  | detecting (phase : machine.phase = .supplyWait) (off : switch.on = false)
      (edges : switch.edges = []) (steady : machine.activeMode = .steady)
  | awaiting (phase : machine.phase = .closeWait) (off : switch.on = false)
      (edges : switch.edges = []) (conducts : Conducts machine)
  | conducting (phase : machine.phase = .closed) (on : switch.on = true)
      (edges : switch.edges = []) (conducts : Conducts machine)
  | interrupted (phase : machine.phase = .closed) (off : switch.on = false)
      (edges : switch.edges = []) (acSupply : machine.acSupply = true)
      (activeMode : machine.activeMode = .modulated)
      (cycle : machine.modulation.phase = .opened)
  | opening (phase : machine.phase = .openWait) (on : switch.on = true)
      (edges : switch.edges = []) (acSupply : machine.acSupply = true)

/-- Where the switch stands while an edge waits to be fed back. -/
inductive Moving (machine : Lifecycle) (switch : SimulatedSwitch) : Prop where
  | closing (phase : machine.phase = .closeWait) (on : switch.on = true)
      (edges : switch.edges = [.switchChanged true]) (conducts : Conducts machine)
  | resuming (phase : machine.phase = .closed) (on : switch.on = true)
      (edges : switch.edges = [.switchChanged true]) (cycle : Cycles machine .opened)
  | opening (phase : machine.phase = .openWait) (on : switch.on = true)
      (edges : switch.edges = [.switchChanged true]) (acSupply : machine.acSupply = true)
  | released (phase : machine.phase = .openWait) (off : switch.on = false)
      (edges : switch.edges = [.switchChanged false])
  | opened (phase : machine.phase = .opened) (off : switch.on = false)
      (edges : switch.edges = [.switchChanged false])
  | interrupting (phase : machine.phase = .closed) (off : switch.on = false)
      (edges : switch.edges = [.switchChanged false]) (cycle : Cycles machine .closed)
      (external : switch.cause = .external)

/-- The switch stands where the lifecycle expects it, an edge that waits apart. -/
def Tracks (machine : Lifecycle) (switch : SimulatedSwitch) : Prop :=
  Settled machine switch ∨ Moving machine switch

/-!
## The modulation cycle
-/

section Modes

variable {machine : Lifecycle} {switch : SimulatedSwitch} {event : Event}

private theorem conducts_of_ne (closed : machine.modulation.phase ≠ .opened) : Conducts machine :=
  fun _ _ => closed

private theorem modeEvent_of_cycles {cycle : ModulationPhase} (phase : machine.phase = .closed)
    (cycles : Cycles machine cycle) :
    machine.modeEvent event switch =
      ({ machine with modulation := (machine.modulation.handle event switch).1 },
        (machine.modulation.handle event switch).2) := by
  simp [Lifecycle.modeEvent, phase, cycles.activeMode, cycles.mode, cycles.acSupply]

private theorem handle_conducting (modulation : Modulation) (conducts : modulation.phase ≠ .opened)
    (unreported : event ≠ .switchOpened) :
    ∃ after : Modulation, after.phase ≠ .opened ∧
      (modulation.handle event switch = (after, switch) ∨
        after.phase = .closed ∧ modulation.handle event switch = (after, switch.turnOff)) := by
  cases cycle : modulation.phase with
  | disabled =>
      refine ⟨modulation.enter, ?_, .inl (by simp [Modulation.handle, cycle])⟩
      unfold Modulation.enter
      dsimp only
      split <;> simp
  | closed =>
      cases event with
      | zeroCrossing =>
          refine ⟨{ modulation with crossings := Modulation.count modulation.crossings },
            conducts, ?_⟩
          by_cases last :
              modulation.settings.whileClosed.toNat ≤ Modulation.count modulation.crossings
          · refine .inr ⟨cycle, ?_⟩
            simp only [Modulation.handle, cycle, Modulation.crossingWhileClosed, if_pos last]
            rfl
          · left
            simp [Modulation.handle, cycle, Modulation.crossingWhileClosed, last]
      | switchOpened => exact absurd rfl unreported
      | _ => exact ⟨modulation, conducts, .inl (by simp [Modulation.handle, cycle])⟩
  | opened => exact absurd cycle conducts

private theorem handle_interrupted (modulation : Modulation) (cycle : modulation.phase = .opened)
    (unreported : event ≠ .switchClosed) :
    ∃ after : Modulation, after.phase = .opened ∧
      (modulation.handle event switch = (after, switch) ∨
        modulation.handle event switch = (after, switch.turnOn.2)) := by
  cases event with
  | zeroCrossing =>
      simp only [Modulation.handle, cycle, Modulation.crossingWhileOpened]
      split
      · exact ⟨{ modulation with phase := .opened, crossings := 0 }, rfl, .inr rfl⟩
      · exact ⟨{ modulation with
          phase := .opened
          crossings := Modulation.count modulation.crossings }, rfl, .inl rfl⟩
  | switchClosed => exact absurd rfl unreported
  | _ => exact ⟨modulation, cycle, .inl (by simp [Modulation.handle, cycle])⟩

private theorem modeEvent_conducting (obedient : Obedient switch) (phase : machine.phase = .closed)
    (on : switch.on = true) (edges : switch.edges = []) (conducts : Conducts machine)
    (unreported : event ≠ .switchOpened) :
    Tracks (machine.modeEvent event switch).1 (machine.modeEvent event switch).2 := by
  have isOn : SwitchDriver.isOn switch = true := on
  by_cases changed : machine.activeMode = machine.recovery.mode
  · by_cases cycling : machine.activeMode = .modulated ∧ machine.acSupply = true
    · obtain ⟨modulated, ac⟩ := cycling
      have mode : machine.recovery.mode = .modulated := changed ▸ modulated
      rw [modeEvent_of_cycles phase ⟨ac, modulated, mode, rfl⟩]
      obtain ⟨modulation, closed, answer | ⟨cycle, answer⟩⟩ :=
        @handle_conducting switch event machine.modulation (conducts ac modulated) unreported
      · rw [answer]
        exact .inl (.conducting phase on edges (conducts_of_ne closed))
      · obtain ⟨off, external, edge⟩ := turnOff_of_on obedient on
        rw [edges, List.nil_append] at edge
        rw [answer]
        exact .inr (.interrupting phase off edge ⟨ac, modulated, mode, cycle⟩ external)
    · have same : machine.modeEvent event switch = (machine, switch) := by
        rw [Lifecycle.modeEvent, if_neg (not_not_intro phase), if_neg (not_not_intro changed),
          if_neg cycling]
      rw [same]
      exact .inl (.conducting phase on edges conducts)
  · have left : machine.modeEvent event switch =
        ({ machine with
          activeMode := machine.recovery.mode
          modulation := machine.modulation.cleanUp }, switch) := by
      simp [Lifecycle.modeEvent, Lifecycle.leaveMode, phase, changed, isOn]
    rw [left]
    exact .inl (.conducting phase on edges (conducts_of_ne (by simp [Modulation.cleanUp])))

private theorem modeEvent_interrupted (obedient : Obedient switch) (phase : machine.phase = .closed)
    (off : switch.on = false) (edges : switch.edges = []) (ac : machine.acSupply = true)
    (modulated : machine.activeMode = .modulated) (cycle : machine.modulation.phase = .opened)
    (unreported : event ≠ .switchClosed) :
    Tracks (machine.modeEvent event switch).1 (machine.modeEvent event switch).2 := by
  have isOff : SwitchDriver.isOn switch = false := off
  by_cases changed : machine.activeMode = machine.recovery.mode
  · have mode : machine.recovery.mode = .modulated := changed ▸ modulated
    rw [modeEvent_of_cycles phase ⟨ac, modulated, mode, rfl⟩]
    obtain ⟨modulation, opened, answer | answer⟩ :=
      @handle_interrupted switch event machine.modulation cycle unreported
    · rw [answer]
      exact .inl (.interrupted phase off edges ac modulated opened)
    · rw [answer]
      rcases turnOn_of_off obedient off edges with ⟨off, edge⟩ | ⟨on, edge⟩
      · exact .inl (.interrupted phase off edge ac modulated opened)
      · exact .inr (.resuming phase on edge ⟨ac, modulated, mode, opened⟩)
  · have left : machine.modeEvent event switch =
        ({ machine with
          activeMode := machine.recovery.mode
          modulation := machine.modulation.cleanUp
          phase := .closeWait }, switch) := by
      simp [Lifecycle.modeEvent, Lifecycle.leaveMode, phase, changed, isOff, ac]
    rw [left]
    exact .inl (.awaiting rfl off edges (conducts_of_ne (by simp [Modulation.cleanUp])))

end Modes

/-!
## Events
-/

section Events

variable {machine : Lifecycle} {switch : SimulatedSwitch} (clock : Clock) (event : Event)
  (now : Nat)

private theorem reclose_tracks (obedient : Obedient switch) (phase : machine.phase = .closeWait)
    (off : switch.on = false) (edges : switch.edges = []) (conducts : Conducts machine) :
    Tracks (machine.reclose switch).1 (machine.reclose switch).2 := by
  obtain ⟨reason, same⟩ := Lifecycle.reclose_machine machine switch
  rw [same, Lifecycle.reclose_switch]
  rcases turnOn_of_off obedient off edges with ⟨off, edge⟩ | ⟨on, edge⟩
  · exact .inl (.awaiting phase off edge conducts)
  · exact .inr (.closing phase on edge conducts)

private theorem releaseSwitch_tracks (obedient : Obedient switch) (on : switch.on = true)
    (edges : switch.edges = []) :
    Tracks (machine.releaseSwitch switch).1 (machine.releaseSwitch switch).2 := by
  have isOn : SwitchDriver.isOn switch = true := on
  rw [Lifecycle.releaseSwitch, if_pos isOn]
  cases ac : machine.acSupply with
  | true => exact .inl (.opening rfl on edges rfl)
  | false =>
      obtain ⟨off, _, edge⟩ := turnOff_of_on obedient on
      rw [edges, List.nil_append] at edge
      exact .inr (.released rfl off edge)

private theorem releaseSwitch_settled (off : switch.on = false) (edges : switch.edges = []) :
    Settled (machine.releaseSwitch switch).1 (machine.releaseSwitch switch).2 := by
  rw [Lifecycle.releaseSwitch_of_off machine switch off]
  exact .opened rfl off edges

private theorem transition_released (phase : machine.phase = .closed)
    (decides : event = .openCommand ∨ event = .overCurrentDuration) :
    ∃ moved : Lifecycle, moved.acSupply = machine.acSupply ∧
      machine.transition clock event switch now = moved.releaseSwitch switch := by
  rcases decides with rfl | rfl
  · have left : (machine.closedTransition clock .openCommand switch now).1.phase ≠ .closed := by
      rcases Lifecycle.openOnCommand_isOpening machine switch with opened | openWait <;>
        simp [Lifecycle.closedTransition, *]
    rw [Lifecycle.transition_of_closed_left machine clock _ switch now phase left]
    exact ⟨{ machine with
      timers := (machine.timers.cancel .recovery).cancel .recoveryReset
      reason := .external }, rfl, rfl⟩
  · have left :
        (machine.closedTransition clock .overCurrentDuration switch now).1.phase ≠ .closed := by
      rcases Lifecycle.openOnDuration_isOpening machine switch with opened | openWait <;>
        simp [Lifecycle.closedTransition, *]
    rw [Lifecycle.transition_of_closed_left machine clock _ switch now phase left]
    exact ⟨{ machine with
      timers := machine.timers.cancel .recoveryReset
      reason := .overCurrentDuration }, rfl, rfl⟩

private theorem transition_moded (phase : machine.phase = .closed)
    (uncommanded : event ≠ .openCommand) (untripped : event ≠ .overCurrentDuration)
    (unopened : event ≠ .switchOpened) :
    ∃ attemptsLeft, machine.transition clock event switch now =
      { machine with attemptsLeft }.modeEvent event switch := by
  rw [Lifecycle.transition_of_closed machine clock event switch now phase]
  cases event with
  | openCommand => exact absurd rfl uncommanded
  | overCurrentDuration => exact absurd rfl untripped
  | switchOpened => exact absurd rfl unopened
  | recoveryResetTimerExpired => exact ⟨machine.recovery.attemptBudget, rfl⟩
  | _ => exact ⟨machine.attemptsLeft, rfl⟩

/-- Every event but a report of the switch keeps track of it. -/
theorem Settled.transition (settled : Settled machine switch) (obedient : Obedient switch)
    (unopened : event ≠ .switchOpened) (unclosed : event ≠ .switchClosed) :
    Tracks (machine.transition clock event switch now).1
      (machine.transition clock event switch now).2 := by
  cases settled with
  | opened phase off edges =>
      cases event with
      | closeCommand =>
          simp only [Lifecycle.transition, phase]
          exact .inl (.detecting rfl off edges rfl)
      | _ =>
          simp only [Lifecycle.transition, phase]
          exact .inl (.opened phase off edges)
  | detecting phase off edges steady =>
      cases event with
      | openCommand =>
          simp only [Lifecycle.transition, phase]
          exact .inl (.opened rfl off edges)
      | zeroCrossing =>
          simp only [Lifecycle.transition, phase]
          exact .inl (.detecting phase off edges steady)
      | supplyTimerExpired =>
          have conducts {classified : Lifecycle} (mode : classified.activeMode = .steady) :
              Conducts classified :=
            fun _ modulated => absurd (mode.symm.trans modulated) (by simp)
          simp only [Lifecycle.transition, phase, Lifecycle.classifySupply]
          split
          · exact .inl (.awaiting rfl off edges (conducts steady))
          · exact reclose_tracks obedient rfl off edges (conducts steady)
      | _ =>
          simp only [Lifecycle.transition, phase]
          exact .inl (.detecting phase off edges steady)
  | awaiting phase off edges conducts =>
      cases event with
      | openCommand =>
          simp only [Lifecycle.transition, phase]
          exact .inl (releaseSwitch_settled off edges)
      | recoveryTimerExpired =>
          simp only [Lifecycle.transition, phase]
          exact reclose_tracks obedient rfl off edges conducts
      | zeroCrossing =>
          simp only [Lifecycle.transition, phase]
          exact reclose_tracks obedient rfl off edges conducts
      | switchClosed => exact absurd rfl unclosed
      | _ =>
          simp only [Lifecycle.transition, phase]
          exact .inl (.awaiting phase off edges conducts)
  | conducting phase on edges conducts =>
      by_cases decides : event = .openCommand ∨ event = .overCurrentDuration
      · obtain ⟨moved, _, answer⟩ := @transition_released _ switch clock event now phase decides
        rw [answer]
        exact releaseSwitch_tracks obedient on edges
      · rw [not_or] at decides
        obtain ⟨attemptsLeft, answer⟩ :=
          @transition_moded _ switch clock event now phase decides.1 decides.2 unopened
        rw [answer]
        exact modeEvent_conducting obedient phase on edges conducts unopened
  | interrupted phase off edges ac modulated cycle =>
      by_cases decides : event = .openCommand ∨ event = .overCurrentDuration
      · obtain ⟨moved, _, answer⟩ := @transition_released _ switch clock event now phase decides
        rw [answer]
        exact .inl (releaseSwitch_settled off edges)
      · rw [not_or] at decides
        obtain ⟨attemptsLeft, answer⟩ :=
          @transition_moded _ switch clock event now phase decides.1 decides.2 unopened
        rw [answer]
        exact modeEvent_interrupted obedient phase off edges ac modulated cycle unclosed
  | opening phase on edges ac =>
      cases event with
      | zeroCrossing =>
          obtain ⟨off, _, edge⟩ := turnOff_of_on obedient on
          rw [edges, List.nil_append] at edge
          simp only [Lifecycle.transition, phase]
          exact .inr (.released phase off edge)
      | switchOpened => exact absurd rfl unopened
      | _ =>
          simp only [Lifecycle.transition, phase]
          exact .inl (.opening phase on edges ac)

/-- A cycle that waits for its switch drops the events of the timers. -/
private theorem transition_waiting {cycle : ModulationPhase} (phase : machine.phase = .closed)
    (cycles : Cycles machine cycle) (running : cycle ≠ .disabled) (timer : TimerId) :
    ∃ attemptsLeft, machine.transition clock timer.event switch now =
      ({ machine with attemptsLeft }, switch) := by
  obtain ⟨attemptsLeft, answer⟩ := @transition_moded machine switch clock timer.event now phase
    (by cases timer <;> simp [TimerId.event]) (by cases timer <;> simp [TimerId.event])
    (by cases timer <;> simp [TimerId.event])
  have closed : { machine with attemptsLeft }.phase = .closed := phase
  have kept : Cycles { machine with attemptsLeft } cycle :=
    ⟨cycles.acSupply, cycles.activeMode, cycles.mode, cycles.phase⟩
  have dropped : machine.modulation.handle timer.event switch = (machine.modulation, switch) := by
    have known := cycles.phase
    cases cycle with
    | disabled => exact absurd rfl running
    | _ => cases timer <;> simp [Modulation.handle, TimerId.event, known]
  refine ⟨attemptsLeft, ?_⟩
  rw [answer, modeEvent_of_cycles closed kept, dropped]

/-- An expired timer or a trip keeps track of a switch whose edge has not been fed back. -/
theorem Moving.transition (moving : Moving machine switch)
    (late : (∃ timer : TimerId, event = timer.event) ∨ event = .overCurrentDuration) :
    Moving (machine.transition clock event switch now).1
      (machine.transition clock event switch now).2 := by
  cases moving with
  | closing phase on edges conducts =>
      rcases late with ⟨timer, rfl⟩ | rfl
      · cases timer with
        | recovery =>
            obtain ⟨still, same⟩ := turnOn_of_on on
            obtain ⟨reason, answer⟩ := Lifecycle.reclose_machine
              { machine with timers := machine.timers.cancel .recovery } switch
            have moved : machine.transition clock TimerId.recovery.event switch now =
                { machine with timers := machine.timers.cancel .recovery }.reclose switch := by
              simp [Lifecycle.transition, TimerId.event, phase]
            rw [moved, Lifecycle.reclose_switch, answer]
            exact .closing phase still (same.trans edges) conducts
        | _ =>
            simp only [Lifecycle.transition, TimerId.event, phase]
            exact .closing phase on edges conducts
      · simp only [Lifecycle.transition, phase]
        exact .closing phase on edges conducts
  | resuming phase on edges cycle =>
      rcases late with ⟨timer, rfl⟩ | rfl
      · obtain ⟨attemptsLeft, answer⟩ :=
          @transition_waiting _ switch clock now _ phase cycle (by simp) timer
        rw [answer]
        exact .resuming phase on edges ⟨cycle.acSupply, cycle.activeMode, cycle.mode, cycle.phase⟩
      -- The switch is on again before its edge is fed back, so the trip waits for a crossing.
      · obtain ⟨moved, ac, answer⟩ :=
          @transition_released _ switch clock _ now phase (.inr rfl)
        have isOn : SwitchDriver.isOn switch = true := on
        rw [cycle.acSupply] at ac
        rw [answer, Lifecycle.releaseSwitch, if_pos isOn, if_pos ac]
        exact .opening rfl on edges ac
  | opening phase on edges ac =>
      rcases late with ⟨timer, rfl⟩ | rfl
      · cases timer <;>
          (simp only [Lifecycle.transition, TimerId.event, phase]; exact .opening phase on edges ac)
      · simp only [Lifecycle.transition, phase]
        exact .opening phase on edges ac
  | released phase off edges =>
      rcases late with ⟨timer, rfl⟩ | rfl
      · cases timer <;>
          (simp only [Lifecycle.transition, TimerId.event, phase]; exact .released phase off edges)
      · simp only [Lifecycle.transition, phase]
        exact .released phase off edges
  | opened phase off edges =>
      have other : event ≠ .closeCommand := by
        rcases late with ⟨timer, rfl⟩ | rfl
        · cases timer <;> simp [TimerId.event]
        · simp
      rw [Lifecycle.transition_of_opened machine clock event switch now phase other]
      exact .opened phase off edges
  | interrupting phase off edges cycle external =>
      rcases late with ⟨timer, rfl⟩ | rfl
      · obtain ⟨attemptsLeft, answer⟩ :=
          @transition_waiting _ switch clock now _ phase cycle (by simp) timer
        rw [answer]
        exact .interrupting phase off edges
          ⟨cycle.acSupply, cycle.activeMode, cycle.mode, cycle.phase⟩ external
      -- The switch is off already, so the trip settles at once and the edge comes too late.
      · obtain ⟨moved, _, answer⟩ := @transition_released _ switch clock _ now phase (.inr rfl)
        rw [answer, Lifecycle.releaseSwitch_of_off moved switch off]
        exact .opened rfl off edges

/-- The edge that waits settles the switch. -/
theorem Moving.settles (moving : Moving machine switch) :
    ∃ closed, switch.edges = [.switchChanged closed] ∧
      Settled
        (machine.transition clock (Input.switchChanged closed).event
          { switch with edges := [] } now).1
        (machine.transition clock (Input.switchChanged closed).event { switch with edges := [] }
          now).2 := by
  cases moving with
  | closing phase on edges conducts =>
      refine ⟨true, edges, ?_⟩
      simp only [Input.event, Lifecycle.transition, phase]
      exact .conducting rfl on rfl conducts
  | resuming phase on edges cycle =>
      refine ⟨true, edges, ?_⟩
      obtain ⟨attemptsLeft, answer⟩ := @transition_moded machine { switch with edges := [] } clock
        .switchClosed now phase (by simp) (by simp) (by simp)
      have closed : { machine with attemptsLeft }.phase = .closed := phase
      have kept : Cycles { machine with attemptsLeft } .opened :=
        ⟨cycle.acSupply, cycle.activeMode, cycle.mode, cycle.phase⟩
      rw [Input.event, answer, modeEvent_of_cycles closed kept]
      simp only [Modulation.handle, cycle.phase]
      exact .conducting phase on rfl (conducts_of_ne (by simp))
  | opening phase on edges ac =>
      refine ⟨true, edges, ?_⟩
      simp only [Input.event, Lifecycle.transition, phase]
      exact .opening phase on rfl ac
  | released phase off edges =>
      refine ⟨false, edges, ?_⟩
      simp only [Input.event, Lifecycle.transition, phase]
      exact .opened rfl off rfl
  | opened phase off edges =>
      refine ⟨false, edges, ?_⟩
      rw [Input.event, Lifecycle.transition_of_opened machine clock _ _ now phase (by simp)]
      exact .opened phase off rfl
  | interrupting phase off edges cycle external =>
      refine ⟨false, edges, ?_⟩
      -- The cycle itself commanded this opening, so it counts as no fault.
      have opening : machine.closedTransition clock .switchOpened { switch with edges := [] } now =
          ({ machine with timers := machine.timers.cancel .recoveryReset },
            { switch with edges := [] }) := by
        have cause : SwitchDriver.cause { switch with edges := [] } = .external := external
        simp only [Lifecycle.closedTransition, Lifecycle.handleOpening, cause]
      have closed :
          { machine with timers := machine.timers.cancel .recoveryReset }.phase = .closed := phase
      have kept : Cycles { machine with timers := machine.timers.cancel .recoveryReset } .closed :=
        ⟨cycle.acSupply, cycle.activeMode, cycle.mode, cycle.phase⟩
      rw [Input.event, Lifecycle.transition_of_closed machine clock _ _ now phase, opening,
        modeEvent_of_cycles closed kept]
      simp only [Modulation.handle, cycle.phase]
      exact .interrupted phase off rfl cycle.acSupply cycle.activeMode rfl

private theorem handleOpening_faulty (conducts : Conducts machine)
    (faulty : switch.cause ≠ .external) :
    (machine.handleOpening clock switch now).phase = .opened ∨
      (machine.handleOpening clock switch now).phase = .closeWait ∧
        Conducts (machine.handleOpening clock switch now) := by
  unfold Lifecycle.handleOpening
  dsimp only
  split
  · next cause => exact absurd cause faulty
  · split
    · exact .inr ⟨rfl, conducts⟩
    · exact .inl rfl
  · exact .inl rfl

/-- The report of a fault that opened the switch settles it. -/
theorem Settled.struck (settled : Settled machine switch) (on : switch.on = true)
    {struck : SimulatedSwitch} (opened : struck.on = false) (fed : struck.edges = [])
    (faulty : struck.cause ≠ .external) :
    Settled (machine.transition clock .switchOpened struck now).1
      (machine.transition clock .switchOpened struck now).2 := by
  cases settled with
  | conducting phase _ edges conducts =>
      -- A fault always leaves `closed`, so the mode does not see this opening.
      have moved := handleOpening_faulty clock now conducts faulty
      have left : (machine.closedTransition clock .switchOpened struck now).1.phase ≠ .closed := by
        rcases moved with opened | ⟨closeWait, _⟩ <;> simp [Lifecycle.closedTransition, *]
      rw [Lifecycle.transition_of_closed_left machine clock _ struck now phase left]
      rcases moved with rests | ⟨closeWait, conducts⟩
      · exact .opened rests opened fed
      · exact .awaiting closeWait opened fed conducts
  | opening phase _ edges ac =>
      simp only [Lifecycle.transition, phase]
      exact .opened rfl opened fed
  | opened _ off | detecting _ off | awaiting _ off | interrupted _ off =>
      cases on.symm.trans off

end Events

end CircuitBreaker.Emulator
