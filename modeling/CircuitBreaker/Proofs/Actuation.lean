import CircuitBreaker.Proofs.Journal

/-!
# Single actuation

Handling an event is a line of effects: the phase is entered, other fields are revised, the switch
is commanded. Every line commands the switch at most once and enters a phase at most once. In
`closed` the line of the table is followed by that of the closed-state mode, which is empty unless
the former has left phase and switch as they were.
-/

set_option autoImplicit false

namespace CircuitBreaker

namespace Lifecycle

/-!
## Effects
-/

inductive Effect where
  | enter (phase : Phase)
  /-- A move, but for the phase. -/
  | revise (move : Lifecycle → Lifecycle)
  /-- A command to close; a refusal gives the reason. -/
  | reclose
  /-- A command to close, whatever the switch answers. -/
  | turnOn
  | turnOff

namespace Effect

def isCommand : Effect → Bool
  | reclose | turnOn | turnOff => true
  | enter _ | revise _ => false

def isEntry : Effect → Bool
  | enter _ => true
  | revise _ | reclose | turnOn | turnOff => false

def perform {σ : Type} [SwitchDriver σ] (state : Lifecycle × σ) : Effect → Lifecycle × σ
  | enter phase => ({ state.1 with phase }, state.2)
  | revise move => ({ move state.1 with phase := state.1.phase }, state.2)
  | reclose => state.1.reclose state.2
  | turnOn => (state.1, (SwitchDriver.turnOn state.2).2)
  | turnOff => (state.1, SwitchDriver.turnOff state.2)

def performAll {σ : Type} [SwitchDriver σ] (state : Lifecycle × σ) (effects : List Effect) :
    Lifecycle × σ :=
  effects.foldl perform state

theorem performAll_append {σ : Type} [SwitchDriver σ] (state : Lifecycle × σ)
    (first second : List Effect) :
    performAll state (first ++ second) = performAll (performAll state first) second :=
  List.foldl_append

/-- One command and one entry at most. -/
structure Single (effects : List Effect) : Prop where
  command : effects.countP isCommand ≤ 1
  entry : effects.countP isEntry ≤ 1

structure Still (effects : List Effect) : Prop where
  command : effects.countP isCommand = 0
  entry : effects.countP isEntry = 0

theorem Still.single {effects : List Effect} (still : Still effects) : Single effects :=
  ⟨Nat.le_trans (Nat.le_of_eq still.command) (Nat.zero_le 1),
    Nat.le_trans (Nat.le_of_eq still.entry) (Nat.zero_le 1)⟩

theorem Still.append {first second : List Effect} (still : Still first) (single : Single second) :
    Single (first ++ second) := by
  refine ⟨?_, ?_⟩
  · rw [List.countP_append, still.command, Nat.zero_add]
    exact single.command
  · rw [List.countP_append, still.entry, Nat.zero_add]
    exact single.entry

theorem still_nil : Still [] := ⟨rfl, rfl⟩

theorem still_revise (move : Lifecycle → Lifecycle) : Still [revise move] := ⟨rfl, rfl⟩

end Effect

open Effect

/-!
## The effects of an event
-/

section Lines

variable {σ : Type} [SwitchDriver σ]

def settling : List Effect := [.revise settleOpened, .enter .opened]

def releasing (machine : Lifecycle) (switch : σ) : List Effect :=
  if SwitchDriver.isOn switch then
    .enter .openWait :: if machine.acSupply then [] else [.turnOff]
  else settling

def openingOnCommand (machine : Lifecycle) (switch : σ) : List Effect :=
  .revise (fun machine =>
    { machine with
      timers := (machine.timers.cancel .recovery).cancel .recoveryReset
      reason := .external }) :: machine.releasing switch

def openingOnDuration (machine : Lifecycle) (switch : σ) : List Effect :=
  .revise (fun machine =>
    { machine with
      timers := machine.timers.cancel .recoveryReset
      reason := .overCurrentDuration }) :: machine.releasing switch

def classifying (machine : Lifecycle) : List Effect :=
  let acSupply : Bool := minAcCrossings ≤ machine.crossings
  .enter .closeWait :: .revise (fun machine => { machine with crossings := 0, acSupply }) ::
    if acSupply then []
    else
      [.revise fun machine => { machine with filter := machine.filter.ignore .zeroCrossing },
        .reclose]

/-- What a closed machine does when the switch reports that it opened. -/
def meetingOpening (machine : Lifecycle) (clock : Clock) (cause : SwitchCause) (now : Nat) :
    List Effect :=
  .revise (fun machine => { machine with timers := machine.timers.cancel .recoveryReset }) ::
    match cause with
    | .external => []
    | .hardwareOvercurrent =>
        if 0 < machine.attemptsLeft then
          [.revise fun machine => machine.beginRecovery clock now, .enter .closeWait]
        else .revise (fun machine => machine.adoptCause .hardwareOvercurrent) :: settling
    | cause => .revise (fun machine => machine.adoptCause cause) :: settling

def closedLine (machine : Lifecycle) (clock : Clock) (event : Event) (switch : σ) (now : Nat) :
    List Effect :=
  match event with
  | .openCommand => machine.openingOnCommand switch
  | .overCurrentDuration => machine.openingOnDuration switch
  | .switchOpened => machine.meetingOpening clock (SwitchDriver.cause switch) now
  | .recoveryResetTimerExpired => [.revise replenish]
  | _ => []

/-- The command that the modulation cycle gives at an event. -/
def cycling (modulation : Modulation) (event : Event) : List Effect :=
  match modulation.phase, event with
  | .closed, .zeroCrossing =>
      if modulation.settings.whileClosed.toNat ≤ Modulation.count modulation.crossings then
        [.turnOff]
      else []
  | .opened, .zeroCrossing =>
      if modulation.settings.period.toNat ≤ Modulation.count modulation.crossings then [.turnOn]
      else []
  | _, _ => []

def bringingBack (machine : Lifecycle) (switch : σ) : List Effect :=
  if SwitchDriver.isOn switch then []
  else .enter .closeWait :: if machine.acSupply then [] else [.reclose]

def leavingMode (machine : Lifecycle) (switch : σ) : List Effect :=
  .revise (fun machine => { machine with modulation := machine.modulation.cleanUp }) ::
    machine.bringingBack switch

def modeLine (machine : Lifecycle) (event : Event) (switch : σ) : List Effect :=
  if machine.phase ≠ .closed then []
  else if machine.activeMode ≠ machine.recovery.mode then
    .revise (fun machine => { machine with activeMode := machine.recovery.mode }) ::
      machine.leavingMode switch
  else if machine.activeMode = .modulated ∧ machine.acSupply then
    .revise (fun machine =>
      { machine with modulation := (machine.modulation.handle event switch).1 }) ::
      cycling machine.modulation event
  else []

def line (machine : Lifecycle) (clock : Clock) (event : Event) (switch : σ) (now : Nat) :
    List Effect :=
  match machine.phase, event with
  | .undefined, _ => []
  | .opened, .closeCommand =>
      [.revise fun machine => machine.beginClose clock now, .enter .supplyWait]
  | .opened, _ => []
  | .supplyWait, .openCommand => [.revise abortClose, .enter .opened]
  | .supplyWait, .zeroCrossing => [.revise countCrossing]
  | .supplyWait, .supplyTimerExpired => machine.classifying
  | .supplyWait, _ => []
  | .closeWait, .openCommand => machine.openingOnCommand switch
  | .closeWait, .recoveryTimerExpired | .closeWait, .zeroCrossing =>
      [.revise fun machine => { machine with timers := machine.timers.cancel .recovery }, .reclose]
  | .closeWait, .switchClosed =>
      [.revise fun machine => machine.enterClosed clock now, .enter .closed]
  | .closeWait, _ => []
  | .closed, event =>
      let first := machine.closedLine clock event switch now
      first ++ (performAll (machine, switch) first).1.modeLine event
        (performAll (machine, switch) first).2
  | .openWait, .zeroCrossing => [.turnOff]
  | .openWait, .switchOpened => settling
  | .openWait, _ => []

end Lines

/-!
## The program performs its effects
-/

section Performed

variable {σ : Type} [SwitchDriver σ]
variable (machine : Lifecycle) (clock : Clock) (event : Event) (switch : σ) (now : Nat)

theorem performAll_releasing :
    performAll (machine, switch) (machine.releasing switch) = machine.releaseSwitch switch := by
  unfold releasing releaseSwitch
  split
  · split <;> rfl
  · rfl

theorem performAll_classifying :
    performAll (machine, switch) machine.classifying = machine.classifySupply switch := by
  unfold classifying classifySupply
  dsimp only
  split <;> rfl

theorem performAll_meetingOpening :
    performAll (machine, switch) (machine.meetingOpening clock (SwitchDriver.cause switch) now) =
      (machine.handleOpening clock switch now, switch) := by
  unfold meetingOpening handleOpening
  cases SwitchDriver.cause switch with
  | hardwareOvercurrent =>
      dsimp only
      split <;> rfl
  | _ => rfl

theorem performAll_closedLine :
    performAll (machine, switch) (machine.closedLine clock event switch now) =
      machine.closedTransition clock event switch now := by
  cases event with
  | openCommand => exact performAll_releasing _ switch
  | overCurrentDuration => exact performAll_releasing _ switch
  | switchOpened => exact performAll_meetingOpening machine clock switch now
  | _ => rfl

theorem performAll_leavingMode :
    performAll (machine, switch) (machine.leavingMode switch) = machine.leaveMode switch := by
  unfold leavingMode bringingBack leaveMode
  dsimp only
  split
  · rfl
  · split <;> rfl

theorem performAll_cycling (modulation : Modulation) :
    performAll (machine, switch) (cycling modulation event) =
      (machine, (modulation.handle event switch).2) := by
  unfold cycling Modulation.handle
  cases modulation.phase with
  | disabled => rfl
  | closed =>
      cases event with
      | zeroCrossing =>
          dsimp only [Modulation.crossingWhileClosed]
          split <;> rfl
      | _ => rfl
  | opened =>
      cases event with
      | zeroCrossing =>
          dsimp only [Modulation.crossingWhileOpened]
          split <;> rfl
      | _ => rfl

theorem performAll_modeLine :
    performAll (machine, switch) (machine.modeLine event switch) =
      machine.modeEvent event switch := by
  unfold modeLine modeEvent
  split
  · rfl
  · split
    · exact performAll_leavingMode _ switch
    · split
      · exact performAll_cycling _ event switch machine.modulation
      · rfl

/-- The table is what its lines are. -/
theorem performAll_line :
    performAll (machine, switch) (machine.line clock event switch now) =
      machine.transition clock event switch now := by
  cases phase : machine.phase with
  | undefined => simp only [line, transition, phase]; rfl
  | opened =>
      simp only [line, transition, phase]
      cases event <;> rfl
  | supplyWait =>
      simp only [line, transition, phase]
      cases event with
      | supplyTimerExpired => exact performAll_classifying machine switch
      | _ => rfl
  | closeWait =>
      simp only [line, transition, phase]
      cases event with
      | openCommand => exact performAll_releasing _ switch
      | recoveryTimerExpired | zeroCrossing =>
          simp only [performAll, List.foldl_cons, List.foldl_nil, perform, phase]
      | _ => rfl
  | closed =>
      rw [transition_of_closed machine clock event switch now phase]
      simp only [line, phase]
      rw [performAll_append, performAll_modeLine, performAll_closedLine]
  | openWait =>
      simp only [line, transition, phase]
      cases event <;> rfl

end Performed

/-!
## Counting commands and entries
-/

section Counted

variable {σ : Type} [SwitchDriver σ]
variable (machine : Lifecycle) (clock : Clock) (event : Event) (switch : σ) (now : Nat)

theorem single_settling : Single settling := ⟨Nat.zero_le 1, Nat.le_refl 1⟩

theorem single_releasing : Single (machine.releasing switch) := by
  unfold releasing
  split
  · split
    · exact ⟨Nat.zero_le 1, Nat.le_refl 1⟩
    · exact ⟨Nat.le_refl 1, Nat.le_refl 1⟩
  · exact single_settling

theorem single_openingOnCommand : Single (machine.openingOnCommand switch) :=
  (still_revise _).append (single_releasing machine switch)

theorem single_openingOnDuration : Single (machine.openingOnDuration switch) :=
  (still_revise _).append (single_releasing machine switch)

theorem single_classifying : Single machine.classifying := by
  unfold classifying
  dsimp only
  split
  · exact ⟨Nat.zero_le 1, Nat.le_refl 1⟩
  · exact ⟨Nat.le_refl 1, Nat.le_refl 1⟩

theorem single_leavingMode : Single (machine.leavingMode switch) := by
  unfold leavingMode bringingBack
  split
  · exact (still_revise _).single
  · split
    · exact ⟨Nat.zero_le 1, Nat.le_refl 1⟩
    · exact ⟨Nat.le_refl 1, Nat.le_refl 1⟩

theorem single_cycling (modulation : Modulation) : Single (cycling modulation event) := by
  unfold cycling
  split
  · split
    · exact ⟨Nat.le_refl 1, Nat.zero_le 1⟩
    · exact still_nil.single
  · split
    · exact ⟨Nat.le_refl 1, Nat.zero_le 1⟩
    · exact still_nil.single
  · exact still_nil.single

theorem single_modeLine : Single (machine.modeLine event switch) := by
  unfold modeLine
  split
  · exact still_nil.single
  · split
    · exact (still_revise _).append (single_leavingMode _ switch)
    · split
      · exact (still_revise _).append (single_cycling event machine.modulation)
      · exact still_nil.single

theorem modeLine_of_ne (left : machine.phase ≠ .closed) :
    machine.modeLine event switch = [] :=
  if_pos left

private theorem meetingOpening_still_or_left :
    Still (machine.meetingOpening clock (SwitchDriver.cause switch) now) ∨
      Single (machine.meetingOpening clock (SwitchDriver.cause switch) now) ∧
        (machine.handleOpening clock switch now).phase ≠ .closed := by
  unfold meetingOpening handleOpening
  cases SwitchDriver.cause switch with
  | external => exact .inl (still_revise _)
  | hardwareOvercurrent =>
      dsimp only
      split
      · exact .inr ⟨⟨Nat.zero_le 1, Nat.le_refl 1⟩, nofun⟩
      · exact .inr ⟨⟨Nat.zero_le 1, Nat.le_refl 1⟩, nofun⟩
  | _ => exact .inr ⟨⟨Nat.zero_le 1, Nat.le_refl 1⟩, nofun⟩

/-- In `closed` the table has done nothing to phase and switch, or the mode has nothing to do. -/
theorem closedLine_still_or_left :
    Still (machine.closedLine clock event switch now) ∨
      Single (machine.closedLine clock event switch now) ∧
        (machine.closedTransition clock event switch now).1.phase ≠ .closed := by
  cases event with
  | openCommand =>
      exact .inr ⟨single_openingOnCommand machine switch,
        (machine.openOnCommand_isOpening switch).ne_closed⟩
  | overCurrentDuration =>
      exact .inr ⟨single_openingOnDuration machine switch,
        (machine.openOnDuration_isOpening switch).ne_closed⟩
  | switchOpened => exact meetingOpening_still_or_left machine clock switch now
  | recoveryResetTimerExpired => exact .inl (still_revise _)
  | _ => exact .inl still_nil

theorem single_line : Single (machine.line clock event switch now) := by
  cases phase : machine.phase with
  | undefined => simp only [line, phase]; exact still_nil.single
  | opened =>
      simp only [line, phase]
      cases event with
      | closeCommand => exact ⟨Nat.zero_le 1, Nat.le_refl 1⟩
      | _ => exact still_nil.single
  | supplyWait =>
      simp only [line, phase]
      cases event with
      | openCommand => exact ⟨Nat.zero_le 1, Nat.le_refl 1⟩
      | zeroCrossing => exact (still_revise _).single
      | supplyTimerExpired => exact single_classifying machine
      | _ => exact still_nil.single
  | closeWait =>
      simp only [line, phase]
      cases event with
      | openCommand => exact single_openingOnCommand machine switch
      | recoveryTimerExpired | zeroCrossing => exact ⟨Nat.le_refl 1, Nat.zero_le 1⟩
      | switchClosed => exact ⟨Nat.zero_le 1, Nat.le_refl 1⟩
      | _ => exact still_nil.single
  | closed =>
      simp only [line, phase]
      -- The mode sees the machine that the table leaves, so what it adds hangs on that.
      rcases closedLine_still_or_left machine clock event switch now with still | ⟨single, left⟩
      · exact still.append (single_modeLine _ event _)
      · rw [performAll_closedLine, modeLine_of_ne _ _ _ left, List.append_nil]
        exact single
  | openWait =>
      simp only [line, phase]
      cases event with
      | zeroCrossing => exact ⟨Nat.le_refl 1, Nat.zero_le 1⟩
      | switchOpened => exact single_settling
      | _ => exact still_nil.single

end Counted

/-!
## What the driver sees
-/

section Seen

variable {σ : Type} [SwitchDriver σ]

variable (state : Lifecycle × σ)

theorem switch_perform {effect : Effect} (quiet : effect.isCommand = false) :
    (perform state effect).2 = state.2 := by
  cases effect with
  | enter | revise => rfl
  | reclose | turnOn | turnOff => cases quiet

theorem switch_perform_command {effect : Effect} (command : effect.isCommand = true) :
    (perform state effect).2 = SwitchDriver.turnOff state.2 ∨
      (perform state effect).2 = (SwitchDriver.turnOn state.2).2 := by
  cases effect with
  | enter | revise => cases command
  | reclose => exact .inr (reclose_switch state.1 state.2)
  | turnOn => exact .inr rfl
  | turnOff => exact .inl rfl

theorem phase_perform {effect : Effect} (stays : effect.isEntry = false) :
    (perform state effect).1.phase = state.1.phase := by
  cases effect with
  | enter => cases stays
  | revise | turnOn | turnOff => rfl
  | reclose => exact phase_reclose state.1 state.2

theorem switch_of_no_command {effects : List Effect} (none : effects.countP isCommand = 0) :
    (performAll state effects).2 = state.2 := by
  induction effects generalizing state with
  | nil => rfl
  | cons effect rest ih =>
      simp only [List.countP_eq_zero, List.forall_mem_cons, Bool.not_eq_true] at none ih
      exact (ih (perform state effect) none.2).trans (switch_perform state none.1)

theorem phase_of_no_entry {effects : List Effect} (none : effects.countP isEntry = 0) :
    (performAll state effects).1.phase = state.1.phase := by
  induction effects generalizing state with
  | nil => rfl
  | cons effect rest ih =>
      simp only [List.countP_eq_zero, List.forall_mem_cons, Bool.not_eq_true] at none ih
      exact (ih (perform state effect) none.2).trans (phase_perform state none.1)

/-- At most one command reaches the driver. -/
theorem Effect.Single.switch {effects : List Effect} (single : Single effects) :
    (performAll state effects).2 = state.2 ∨
      (performAll state effects).2 = SwitchDriver.turnOff state.2 ∨
      (performAll state effects).2 = (SwitchDriver.turnOn state.2).2 := by
  have once := single.command
  clear single
  induction effects generalizing state with
  | nil => exact .inl rfl
  | cons effect rest ih =>
      cases command : effect.isCommand with
      | false =>
          have later := ih (perform state effect) (by simpa [command] using once)
          rw [switch_perform state command] at later
          exact later
      | true =>
          -- This is the one command, so nothing after it touches the switch.
          have after : (performAll state (effect :: rest)).2 = (perform state effect).2 :=
            switch_of_no_command _ (by simpa [command] using once)
          rw [after]
          exact .inr (switch_perform_command state command)

/-- The phases on the way are those at the two ends. -/
theorem Effect.Single.phase {effects : List Effect} (single : Single effects) (count : Nat) :
    (performAll state (effects.take count)).1.phase = state.1.phase ∨
      (performAll state (effects.take count)).1.phase = (performAll state effects).1.phase := by
  have parts := effects.take_append_drop count
  have once : (effects.take count).countP isEntry + (effects.drop count).countP isEntry ≤ 1 := by
    rw [← List.countP_append, parts]
    exact single.entry
  by_cases none : (effects.take count).countP isEntry = 0
  · exact .inl (phase_of_no_entry state none)
  · have still : (performAll (performAll state (effects.take count)) (effects.drop count)).1.phase =
        (performAll state (effects.take count)).1.phase :=
      phase_of_no_entry _ (by omega)
    rw [← performAll_append, parts] at still
    exact .inr still.symm

end Seen

/-!
## Handling an event
-/

section Handled

variable {σ : Type} [SwitchDriver σ]
variable (machine : Lifecycle) (clock : Clock) (event : Event) (switch : σ) (now : Nat)

def effects : List Effect :=
  if machine.filter.isIgnored event then [] else machine.line clock event switch now

/-- The machine and its switch after the first effects of an event. -/
def underway (count : Nat) : Lifecycle × σ :=
  performAll (machine, switch) ((machine.effects clock event switch now).take count)

def commands : List JournalEntry :=
  match machine.handle clock event ({ driver := switch } : Journaled σ) now with
  | .ok (_, switch) => switch.journal
  | .error _ => []

theorem single_effects : Single (machine.effects clock event switch now) := by
  unfold effects
  split
  · exact still_nil.single
  · exact single_line machine clock event switch now

theorem handle_eq_performAll :
    machine.handle clock event switch now =
      if machine.filter.isIgnored event = false ∧ machine.phase = .undefined then
        .error .notStarted
      else .ok (performAll (machine, switch) (machine.effects clock event switch now)) := by
  unfold handle effects
  cases machine.filter.isIgnored event with
  | true => rfl
  | false => simp only [Bool.false_eq_true, if_false, true_and, performAll_line]

theorem commands_cases :
    machine.commands clock event switch now = [] ∨
      machine.commands clock event switch now = [.turnedOff] ∨
      machine.commands clock event switch now = [.turnedOn (SwitchDriver.turnOn switch).1] := by
  unfold commands
  rw [handle_eq_performAll]
  by_cases refused : machine.filter.isIgnored event = false ∧ machine.phase = .undefined
  · rw [if_pos refused]
    exact .inl rfl
  · rw [if_neg refused]
    have single := single_effects machine clock event ({ driver := switch } : Journaled σ) now
    rcases single.switch (machine, ({ driver := switch } : Journaled σ)) with
      same | turnedOff | turnedOn
    · exact .inl (congrArg Journaled.journal same)
    · exact .inr (.inl (congrArg Journaled.journal turnedOff))
    · exact .inr (.inr (congrArg Journaled.journal turnedOn))

/-- In `closed` either the table leaves phase and switch alone, or the mode does nothing. -/
theorem closedTransition_or_modeEvent :
    (machine.closedTransition clock event switch now).1.phase = machine.phase ∧
        (machine.closedTransition clock event switch now).2 = switch ∨
      (machine.closedTransition clock event switch now).1.modeEvent event
          (machine.closedTransition clock event switch now).2 =
        machine.closedTransition clock event switch now := by
  rcases closedLine_still_or_left machine clock event switch now with still | ⟨_, left⟩
  · rw [← performAll_closedLine]
    exact .inl ⟨phase_of_no_entry _ still.entry, switch_of_no_command _ still.command⟩
  · exact .inr (modeEvent_of_ne _ _ event left)

/-- What the handling of one event comes to. -/
structure ActsOnce : Prop where
  /-- Handling the event is to have its effects, one after the other. -/
  performs : machine.handle clock event switch now =
    if machine.filter.isIgnored event = false ∧ machine.phase = .undefined then
      .error .notStarted
    else .ok (performAll (machine, switch) (machine.effects clock event switch now))
  /-- At most one of them is a command, and at most one enters a phase. -/
  single : Single (machine.effects clock event switch now)
  /-- On the way there is no third phase. -/
  phases : ∀ count,
    (machine.underway clock event switch now count).1.phase = machine.phase ∨
      (machine.underway clock event switch now count).1.phase =
        (performAll (machine, switch) (machine.effects clock event switch now)).1.phase
  /-- In `closed` either the table leaves phase and switch alone, or the mode does nothing. -/
  relayed :
    (machine.closedTransition clock event switch now).1.phase = machine.phase ∧
        (machine.closedTransition clock event switch now).2 = switch ∨
      (machine.closedTransition clock event switch now).1.modeEvent event
          (machine.closedTransition clock event switch now).2 =
        machine.closedTransition clock event switch now
  /-- A refused command to turn on is not given again. -/
  commands : machine.commands clock event switch now = [] ∨
    machine.commands clock event switch now = [.turnedOff] ∨
    machine.commands clock event switch now = [.turnedOn (SwitchDriver.turnOn switch).1]

/-- One event commands the switch once at most, and it changes the phase once at most. -/
theorem acts_once : machine.ActsOnce clock event switch now where
  performs := handle_eq_performAll machine clock event switch now
  single := single_effects machine clock event switch now
  phases := (single_effects machine clock event switch now).phase (machine, switch)
  relayed := closedTransition_or_modeEvent machine clock event switch now
  commands := commands_cases machine clock event switch now

end Handled

end Lifecycle

end CircuitBreaker
