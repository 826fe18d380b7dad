import CircuitBreaker.Proofs.Journal

/-!
# The pace of the modulation cycle

The cycle counts every crossing once, whatever the switch makes of its commands and whatever it
reports, and it starts to count again only with a command to turn on. So a whole period lies between
two of these commands, and the closed part of a period before each command to turn off.
-/

set_option autoImplicit false

namespace CircuitBreaker

/-- An event that comes after the switch has changed on its own in any way. -/
structure Encounter (σ : Type) where
  event : Event
  drift : σ → σ := id

def Encounter.isCrossing {σ : Type} (encounter : Encounter σ) : Bool :=
  encounter.event = .zeroCrossing

namespace Modulation

variable {σ : Type} [SwitchDriver σ]

/-!
## Single events
-/

def commands (modulation : Modulation) (event : Event) (switch : σ) : List JournalEntry :=
  (modulation.handle event ({ driver := switch } : Journaled σ)).2.journal

/-- The switch is commanded off from the last crossing of the closed part on, and on at the last
crossing of the period. -/
theorem commands_eq (modulation : Modulation) (event : Event) (switch : σ) :
    modulation.commands event switch =
      if modulation.phase = .closed ∧ event = .zeroCrossing ∧
          modulation.settings.whileClosed.toNat ≤ count modulation.crossings then [.turnedOff]
      else if modulation.phase = .opened ∧ event = .zeroCrossing ∧
          modulation.settings.period.toNat ≤ count modulation.crossings then
        [.turnedOn (SwitchDriver.turnOn switch).1]
      else [] := by
  unfold commands handle
  cases phase : modulation.phase with
  | disabled => simp
  | closed =>
      cases event with
      | zeroCrossing =>
          simp only [crossingWhileClosed, reduceCtorEq, true_and, false_and, if_false]
          split <;> rfl
      | _ => simp
  | opened =>
      cases event with
      | zeroCrossing =>
          simp only [crossingWhileOpened, reduceCtorEq, true_and, false_and, if_false]
          split <;> rfl
      | _ => simp

theorem commands_of_ne {event : Event} (other : event ≠ .zeroCrossing) (modulation : Modulation)
    (switch : σ) : modulation.commands event switch = [] := by
  simp [commands_eq, other]

variable {modulation : Modulation} {event : Event} {switch : σ}

theorem turnedOn_of_commands {refusal : Option SwitchCause}
    (turned : .turnedOn refusal ∈ modulation.commands event switch) :
    modulation.phase = .opened ∧ event = .zeroCrossing ∧
      modulation.settings.period.toNat ≤ count modulation.crossings := by
  rw [commands_eq] at turned
  split at turned
  · simp at turned
  · split at turned
    · assumption
    · simp at turned

theorem turnedOff_of_commands (turned : .turnedOff ∈ modulation.commands event switch) :
    modulation.phase = .closed ∧ event = .zeroCrossing ∧
      modulation.settings.whileClosed.toNat ≤ count modulation.crossings := by
  rw [commands_eq] at turned
  split at turned
  · assumption
  · split at turned <;> simp at turned

theorem crossings_of_turnedOn {refusal : Option SwitchCause}
    (turned : .turnedOn refusal ∈ modulation.commands event switch) :
    (modulation.handle event switch).1.crossings = 0 := by
  obtain ⟨phase, rfl, last⟩ := turnedOn_of_commands turned
  simp [handle, phase, crossingWhileOpened, last]

/-- A crossing is counted once at most, and nothing else is. -/
theorem crossings_handle_le (modulation : Modulation) (event : Event) (switch : σ) :
    (modulation.handle event switch).1.crossings ≤
      modulation.crossings + if event = .zeroCrossing then 1 else 0 := by
  unfold handle
  split
  · exact Nat.zero_le _
  · exact Nat.min_le_right _ _
  · exact Nat.le_add_right _ _
  · exact Nat.le_add_right _ _
  · unfold crossingWhileOpened
    dsimp only
    split
    · exact Nat.zero_le _
    · exact Nat.min_le_right _ _
  · exact Nat.le_add_right _ _
  · exact Nat.le_add_right _ _

/-- A cycle with invalid settings does not start. -/
theorem disabled_handle (invalid : ¬ modulation.settings.Valid)
    (disabled : modulation.phase = .disabled) :
    (modulation.handle event switch).1.phase = .disabled := by
  simp [handle, disabled, enter, invalid]

/-!
## Runs of events
-/

def meet (state : Modulation × σ) (encounter : Encounter σ) : Modulation × σ :=
  state.1.handle encounter.event (encounter.drift state.2)

def course (start : Modulation × σ) (encounters : List (Encounter σ)) : Modulation × σ :=
  encounters.foldl meet start

def commandsAt (state : Modulation × σ) (encounter : Encounter σ) : List JournalEntry :=
  state.1.commands encounter.event (encounter.drift state.2)

/-- The cycle starts, or it commands the switch on. -/
def Restarts (state : Modulation × σ) (encounter : Encounter σ) : Prop :=
  state.1.phase = .disabled ∨ ∃ refusal, .turnedOn refusal ∈ commandsAt state encounter

theorem settings_course (start : Modulation × σ) (encounters : List (Encounter σ)) :
    (course start encounters).1.settings = start.1.settings := by
  induction encounters generalizing start with
  | nil => rfl
  | cons encounter rest ih => exact (ih (meet start encounter)).trans (settings_handle _ _ _)

theorem crossings_course_le (start : Modulation × σ) (encounters : List (Encounter σ)) :
    (course start encounters).1.crossings ≤
      start.1.crossings + encounters.countP Encounter.isCrossing := by
  induction encounters generalizing start with
  | nil => exact Nat.le_refl _
  | cons encounter rest ih =>
      have later := ih (meet start encounter)
      have counted := crossings_handle_le start.1 encounter.event (encounter.drift start.2)
      rw [List.countP_cons, Encounter.isCrossing]
      simp only [decide_eq_true_eq]
      exact Nat.le_trans later (by rw [meet]; omega)

theorem crossings_of_restarts {state : Modulation × σ} {encounter : Encounter σ}
    (restarts : Restarts state encounter) : (meet state encounter).1.crossings = 0 := by
  rcases restarts with disabled | ⟨refusal, turned⟩
  · simp [meet, handle, disabled, enter]
  · exact crossings_of_turnedOn turned

/-- All that the cycle has counted came after every restart. -/
theorem counted_since_restart {start : Modulation × σ} {earlier between : List (Encounter σ)}
    {restart : Encounter σ} (restarts : Restarts (course start earlier) restart) :
    (course start (earlier ++ restart :: between)).1.crossings ≤
      between.countP Encounter.isCrossing := by
  have counted := crossings_course_le (meet (course start earlier) restart) between
  rw [crossings_of_restarts restarts, Nat.zero_add] at counted
  rw [course, List.foldl_append]
  exact counted

/-- A command that takes `bound` counted crossings comes after as many since every restart. -/
theorem crossings_since_restart {start : Modulation × σ} {earlier between : List (Encounter σ)}
    {restart last : Encounter σ} {bound : Nat} (crossing : last.event = .zeroCrossing)
    (reached : bound ≤ count (course start (earlier ++ restart :: between)).1.crossings)
    (restarts : Restarts (course start earlier) restart) :
    bound ≤ (between ++ [last]).countP Encounter.isCrossing := by
  have counted := @counted_since_restart _ _ start earlier between restart restarts
  rw [List.countP_append, List.countP_singleton, Encounter.isCrossing, crossing]
  unfold count at reached
  simp only [decide_true, ↓reduceIte]
  omega

theorem disabled_course {start : Modulation × σ} (invalid : ¬ start.1.settings.Valid)
    (disabled : start.1.phase = .disabled) (encounters : List (Encounter σ)) :
    (course start encounters).1.phase = .disabled := by
  induction encounters generalizing start with
  | nil => exact disabled
  | cons encounter rest ih =>
      refine @ih (meet start encounter) ?_ (disabled_handle invalid disabled)
      rw [meet, settings_handle]
      exact invalid

/-- At least a period of crossings is handled from a restart to the next command to turn on. The
switch is commanded off in the closed phase only, and with the crossings of the closed part handled
since every restart. A cycle that is to start with invalid settings never commands it. -/
theorem keeps_pace (start : Modulation × σ) :
    (∀ earlier restart between last refusal, Restarts (course start earlier) restart →
      .turnedOn refusal ∈ commandsAt (course start (earlier ++ restart :: between)) last →
      start.1.settings.period.toNat ≤ (between ++ [last]).countP Encounter.isCrossing) ∧
    (∀ earlier last, .turnedOff ∈ commandsAt (course start earlier) last →
      (course start earlier).1.phase = .closed ∧
      ∀ before restart between, earlier = before ++ restart :: between →
        Restarts (course start before) restart →
        start.1.settings.whileClosed.toNat ≤ (between ++ [last]).countP Encounter.isCrossing) ∧
    (¬ start.1.settings.Valid → start.1.phase = .disabled →
      ∀ earlier last, commandsAt (course start earlier) last = []) := by
  refine ⟨?_, ?_, ?_⟩
  · intro earlier restart between last refusal restarts turned
    obtain ⟨_, crossing, reached⟩ := turnedOn_of_commands turned
    rw [settings_course] at reached
    exact crossings_since_restart crossing reached restarts
  · intro earlier last turned
    obtain ⟨closed, crossing, reached⟩ := turnedOff_of_commands turned
    rw [settings_course] at reached
    refine ⟨closed, ?_⟩
    rintro before restart between rfl restarts
    exact crossings_since_restart crossing reached restarts
  · intro invalid disabled earlier last
    have still := disabled_course invalid disabled earlier
    simp [commandsAt, commands_eq, still]

open Bench

/-- The switch is to conduct for one crossing of two, and refuses to close again. -/
def refusedCycle : Modulation × ScriptedSwitch :=
  ({ settings := { whileClosed := 1, period := 2 } },
    { on := true, refusal := some .overTemperature })

def crossing : Encounter ScriptedSwitch := { event := .zeroCrossing }

/-- The first crossing starts the cycle and the second one turns off. The opening is reported late,
so that the crossing after the report turns on. -/
def firstPeriod : List (Encounter ScriptedSwitch) :=
  [crossing, crossing, { event := .switchOpened }]

/-- A command to turn on that is refused is given again after a period. -/
theorem keeps_pace_refused :
    (Restarts (course refusedCycle firstPeriod) crossing ∧
      .turnedOn (some .overTemperature) ∈
        commandsAt (course refusedCycle (firstPeriod ++ crossing :: [crossing])) crossing ∧
      2 ≤ ([crossing] ++ [crossing]).countP Encounter.isCrossing) ∧
    (.turnedOff ∈ commandsAt (course refusedCycle [crossing]) crossing ∧
      1 ≤ ([] ++ [crossing]).countP Encounter.isCrossing) ∧
    commandsAt (course (({}, {}) : Modulation × ScriptedSwitch) firstPeriod) crossing = [] := by
  obtain ⟨periods, closedParts, _⟩ := keeps_pace refusedCycle
  have restarts : Restarts (course refusedCycle firstPeriod) crossing :=
    .inr ⟨some .overTemperature, by decide +kernel⟩
  have turnedOn : .turnedOn (some .overTemperature) ∈
      commandsAt (course refusedCycle (firstPeriod ++ crossing :: [crossing])) crossing := by
    decide +kernel
  have turnedOff : .turnedOff ∈ commandsAt (course refusedCycle [crossing]) crossing := by
    decide +kernel
  refine ⟨⟨restarts, turnedOn, periods _ _ _ _ _ restarts turnedOn⟩, ⟨turnedOff, ?_⟩, ?_⟩
  · exact (closedParts _ _ turnedOff).2 [] crossing [] rfl (.inl rfl)
  · exact (keeps_pace _).2.2 (by decide) rfl firstPeriod crossing

end Modulation

end CircuitBreaker
