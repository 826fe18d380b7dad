import CircuitBreaker.Proofs.Announcements
import CircuitBreaker.Proofs.ModulationPace
import CircuitBreaker.Proofs.Redriven
import CircuitBreaker.Proofs.Waiting

/-!
# The modulation cycle over a prompt switch

A switch that obeys at once, and whose reports come before the next crossing, conducts for the
closed part of every period and for no more. The breaker stays closed meanwhile: what the cycle
does to the switch is neither a trip nor an attempt, and nobody is told.
-/

set_option autoImplicit false

namespace CircuitBreaker

/-- States of a switch in which it takes every position it is commanded to at once, and gives the
command as the cause when it opens. -/
structure Prompt {σ : Type} [SwitchDriver σ] (Obeys : σ → Prop) : Prop where
  turnOn : ∀ switch, Obeys switch →
    SwitchDriver.isOn (SwitchDriver.turnOn switch).2 = true ∧ Obeys (SwitchDriver.turnOn switch).2
  turnOff : ∀ switch, Obeys switch →
    SwitchDriver.isOn (SwitchDriver.turnOff switch) = false ∧
      SwitchDriver.cause (SwitchDriver.turnOff switch) = .external ∧
      Obeys (SwitchDriver.turnOff switch)

def JournalEntry.isTurnedOn : JournalEntry → Bool
  | turnedOn _ => true
  | _ => false

def JournalEntry.isTurnedOff : JournalEntry → Bool
  | turnedOff => true
  | _ => false

/-!
## The cycle by itself
-/

namespace ModulationSettings

theorem Valid.whileClosed_pos {settings : ModulationSettings} (valid : settings.Valid) :
    0 < settings.whileClosed.toNat :=
  Nat.pos_of_ne_zero fun zero => valid.1 (UInt8.toNat_inj.mp zero)

theorem Valid.whileClosed_lt {settings : ModulationSettings} (valid : settings.Valid) :
    settings.whileClosed.toNat < settings.period.toNat :=
  UInt8.lt_iff_toNat_lt.mp valid.2

theorem period_le (settings : ModulationSettings) : settings.period.toNat ≤ 255 :=
  Nat.le_of_lt_succ settings.period.toNat_lt

end ModulationSettings

namespace Modulation

variable {σ : Type} [SwitchDriver σ] {Obeys : σ → Prop}

theorem count_of_lt {crossings : Nat} (room : crossings < 255) : count crossings = crossings + 1 :=
  Nat.min_eq_right room

/-- So many crossings of the period are over, and the switch has been told what follows. -/
structure StandsAt (Obeys : σ → Prop) (position : Nat) (modulation : Modulation) (switch : σ) :
    Prop where
  crossings : modulation.crossings = position
  phase : modulation.phase =
    if position < modulation.settings.whileClosed.toNat then .closed else .opened
  isOn : SwitchDriver.isOn switch = decide (position < modulation.settings.whileClosed.toNat)
  obeys : Obeys switch

namespace StandsAt

variable {position : Nat} {modulation : Modulation} {switch : σ}

/-- The report of the opening, not the command, begins the open part. -/
theorem turnsOff (stands : modulation.StandsAt Obeys position switch) (prompt : Prompt Obeys)
    (last : position + 1 = modulation.settings.whileClosed.toNat) :
    let crossed := modulation.handle .zeroCrossing switch
    modulation.commands .zeroCrossing switch = [.turnedOff] ∧
      SwitchDriver.isOn crossed.2 = false ∧ SwitchDriver.cause crossed.2 = .external ∧
      (crossed.1.handle .switchOpened crossed.2).1.StandsAt Obeys (position + 1) crossed.2 := by
  obtain ⟨rfl, phase, _, obeys⟩ := stands
  have bounded := modulation.settings.whileClosed.toNat_lt
  have counted := count_of_lt (show modulation.crossings < 255 by omega)
  rw [if_pos (by omega)] at phase
  have crossed : modulation.handle .zeroCrossing switch =
      ({ modulation with crossings := modulation.crossings + 1 },
        SwitchDriver.turnOff switch) := by
    simp only [handle, phase, crossingWhileClosed, counted]
    rw [if_pos (Nat.le_of_eq last.symm)]
  obtain ⟨off, external, obeys⟩ := prompt.turnOff switch obeys
  rw [crossed, commands_eq, if_pos ⟨phase, rfl, by omega⟩]
  refine ⟨rfl, off, external, ?_⟩
  simp only [handle, phase]
  exact ⟨rfl, by simp [last], by simp [off, last], obeys⟩

theorem turnsOn (stands : modulation.StandsAt Obeys position switch) (prompt : Prompt Obeys)
    (valid : modulation.settings.Valid) (last : position + 1 = modulation.settings.period.toNat) :
    let crossed := modulation.handle .zeroCrossing switch
    (∃ refusal, modulation.commands .zeroCrossing switch = [.turnedOn refusal]) ∧
      SwitchDriver.isOn crossed.2 = true ∧
      (crossed.1.handle .switchClosed crossed.2).1.StandsAt Obeys 0 crossed.2 := by
  obtain ⟨rfl, phase, _, obeys⟩ := stands
  have positive := valid.whileClosed_pos
  have less := valid.whileClosed_lt
  -- A period of 255 is the longest one, so that its last crossing is still counted.
  have bounded := modulation.settings.period_le
  have counted := count_of_lt (show modulation.crossings < 255 by omega)
  rw [if_neg (by omega)] at phase
  have crossed : modulation.handle .zeroCrossing switch =
      ({ modulation with crossings := 0 }, (SwitchDriver.turnOn switch).2) := by
    simp only [handle, phase, crossingWhileOpened, counted]
    rw [if_pos (Nat.le_of_eq last.symm)]
  obtain ⟨on, obeys⟩ := prompt.turnOn switch obeys
  rw [crossed, commands_eq, if_neg (by simp [phase]), if_pos ⟨phase, rfl, by omega⟩]
  refine ⟨⟨_, rfl⟩, on, ?_⟩
  simp only [handle, phase]
  exact ⟨rfl, by simp [positive], by simp [on, positive], obeys⟩

theorem counts (stands : modulation.StandsAt Obeys position switch)
    (inside : position < modulation.settings.period.toNat)
    (unopened : position + 1 ≠ modulation.settings.whileClosed.toNat)
    (unclosed : position + 1 ≠ modulation.settings.period.toNat) :
    modulation.commands .zeroCrossing switch = [] ∧
      (modulation.handle .zeroCrossing switch).2 = switch ∧
      (modulation.handle .zeroCrossing switch).1.StandsAt Obeys (position + 1) switch := by
  obtain ⟨rfl, phase, on, obeys⟩ := stands
  have bounded := modulation.settings.period_le
  have counted := count_of_lt (show modulation.crossings < 255 by omega)
  have same : modulation.crossings + 1 < modulation.settings.whileClosed.toNat ↔
      modulation.crossings < modulation.settings.whileClosed.toNat := by omega
  have crossed : modulation.handle .zeroCrossing switch =
      ({ modulation with crossings := modulation.crossings + 1 }, switch) := by
    by_cases closed : modulation.crossings < modulation.settings.whileClosed.toNat
    · rw [if_pos closed] at phase
      simp only [handle, phase, crossingWhileClosed, counted]
      rw [if_neg (by omega)]
    · rw [if_neg closed] at phase
      simp only [handle, phase, crossingWhileOpened, counted]
      rw [if_neg (by omega)]
  rw [crossed]
  refine ⟨?_, rfl, rfl, ?_, ?_, obeys⟩
  · rw [commands_eq, if_neg, if_neg]
    · rintro ⟨_, _, reached⟩
      omega
    · rintro ⟨closed, _, reached⟩
      split at phase
      · omega
      · cases closed.symm.trans phase
  · simp only [same]
    exact phase
  · simp only [same]
    exact on

end StandsAt

end Modulation

/-!
## The cycle in a breaker
-/

namespace Lifecycle

structure Modulates (machine : Lifecycle) : Prop where
  closed : machine.phase = .closed
  acSupply : machine.acSupply = true
  activeMode : machine.activeMode = .modulated
  mode : machine.recovery.mode = .modulated

/-- Crossings, and edges that the cycle has commanded, go to the cycle alone. -/
theorem Modulates.transition {machine : Lifecycle} (modulates : machine.Modulates) {σ : Type}
    [SwitchDriver σ] (clock : Clock) {event : Event} {switch : σ} (now : Nat)
    (cycles : event = .zeroCrossing ∨ event = .switchClosed ∨
      event = .switchOpened ∧ SwitchDriver.cause switch = .external) :
    ∃ timers, machine.transition clock event switch now =
      ({ machine with timers, modulation := (machine.modulation.handle event switch).1 },
        (machine.modulation.handle event switch).2) := by
  obtain ⟨closed, acSupply, activeMode, mode⟩ := modulates
  rw [transition_of_closed machine clock event switch now closed]
  rcases cycles with rfl | rfl | ⟨rfl, external⟩
  · exact ⟨machine.timers, by
      simp [closedTransition, modeEvent, closed, acSupply, activeMode, mode]⟩
  · exact ⟨machine.timers, by
      simp [closedTransition, modeEvent, closed, acSupply, activeMode, mode]⟩
  -- An opening gives up the wait for the reset timeout before the mode takes it.
  · exact ⟨machine.timers.cancel .recoveryReset, by
      simp [closedTransition, handleOpening, modeEvent, closed, acSupply, activeMode, mode,
        external]⟩

end Lifecycle

namespace Breaker

variable {σ ζ μ κ : Type}

structure Modulating (breaker : Breaker σ ζ μ κ) : Prop where
  session : breaker.InSession
  modulates : breaker.lifecycle.Modulates
  hears : breaker.lifecycle.filter.isIgnored .zeroCrossing = false
  silent : breaker.lifecycle.noticePending = false

/-- The breaker is closed as before, with the same attempts left and for the same reason, and there
is nothing new to tell. -/
structure Unmoved (before after : Breaker σ ζ μ κ) : Prop where
  closed : after.lifecycle.phase = .closed
  attemptsLeft : after.lifecycle.attemptsLeft = before.lifecycle.attemptsLeft
  reason : after.lifecycle.reason = before.lifecycle.reason
  noticePending : after.lifecycle.noticePending = before.lifecycle.noticePending
  pending : after.pending = before.pending
  log : after.log = before.log

theorem Unmoved.trans {first second third : Breaker σ ζ μ κ} (start : first.Unmoved second)
    (rest : second.Unmoved third) : first.Unmoved third :=
  ⟨rest.closed, rest.attemptsLeft.trans start.attemptsLeft, rest.reason.trans start.reason,
    rest.noticePending.trans start.noticePending, rest.pending.trans start.pending,
    rest.log.trans start.log⟩

/-- The cycle has come to an answer, and the breaker has not moved. -/
structure CyclesTo (before : Breaker σ ζ μ κ) (answer : Modulation × σ)
    (after : Breaker σ ζ μ κ) : Prop where
  modulating : after.Modulating
  unmoved : before.Unmoved after
  modulation : after.lifecycle.modulation = answer.1
  switch : after.switch = answer.2

variable [SwitchDriver σ] [Mains ζ] [Meter μ] [RecordStore κ]

/-- What a crossing does, or a report of what the cycle has commanded. -/
theorem Modulating.act {breaker : Breaker σ ζ μ κ} (modulating : breaker.Modulating) {input : Input}
    (cycles : input.event = .zeroCrossing ∨ input.event = .switchClosed ∨
      input.event = .switchOpened ∧ SwitchDriver.cause breaker.switch = .external) (now : Nat) :
    breaker.CyclesTo (breaker.lifecycle.modulation.handle input.event breaker.switch)
        (breaker.act (.input input now)) ∧
      breaker.commandsIn (.act (.input input now)) =
        breaker.lifecycle.modulation.commands input.event breaker.switch := by
  obtain ⟨session, modulates, hears, silent⟩ := modulating
  have heard : breaker.lifecycle.filter.isIgnored input.event = false := by
    rcases cycles with crossing | closing | ⟨opening, _⟩
    · rw [crossing]
      exact hears
    · exact session.ready.hears _ (by simp [closing])
    · exact session.ready.hears _ (by simp [opening])
  have same : breaker.handleInput input now = breaker.apply input.event now := by
    cases input with
    | zeroCrossing => rfl
    | switchChanged closed => cases closed <;> rfl
    | openRequest | closeRequest => simp [Input.event] at cycles
  have taken : input = .closeRequest → breaker.lifecycle.phase ≠ .closed := by
    rintro rfl
    simp [Input.event] at cycles
  constructor
  · obtain ⟨timers, moved⟩ := modulates.transition breaker.clock now cycles
    obtain ⟨after, applied, reacts, _⟩ := session.apply input.event now
    have lifecycle : after.lifecycle = { breaker.lifecycle with
        timers, modulation := (breaker.lifecycle.modulation.handle input.event breaker.switch).1,
        noticePending := false } := by
      rw [reacts.lifecycle, Lifecycle.respond, heard, if_neg Bool.false_ne_true, moved]
    have switch : after.switch =
        (breaker.lifecycle.modulation.handle input.event breaker.switch).2 := by
      rw [reacts.switch, Lifecycle.respond, heard, if_neg Bool.false_ne_true, moved]
    obtain ⟨pending, log⟩ := session.apply_recorded silent applied
    have untold : Application.notice? ⟨breaker, input.event, now, after⟩ = none := by
      simp [Application.notice?, Lifecycle.Trips, lifecycle, modulates.closed]
    have unrecorded : Application.records ⟨breaker, input.event, now, after⟩ = [] := by
      simp [Application.records, untold, lifecycle]
    rw [untold] at pending
    rw [unrecorded] at log
    rw [Breaker.act, same, applied, afterCall]
    refine ⟨⟨reacts.inSession session, ?_, ?_, ?_⟩, ⟨?_, ?_, ?_, ?_, pending, log⟩, ?_, switch⟩
    all_goals rw [lifecycle]
    · exact ⟨modulates.closed, modulates.acSupply, modulates.activeMode, modulates.mode⟩
    · exact hears
    · exact modulates.closed
    · exact silent.symm
  · obtain ⟨timers, moved⟩ := @Lifecycle.Modulates.transition _ modulates _ _ breaker.clock _
      breaker.journaled.switch now cycles
    rw [(session.comesTo_input input taken now).commands, consequence]
    dsimp only
    rw [Lifecycle.respond, heard, if_neg Bool.false_ne_true, moved]
    rfl

/-!
## Runs of crossings
-/

/-- A crossing, and the report of the switch if it has changed its position. The instants are that
of the crossing and that of the report. -/
def reportedCrossing (breaker : Breaker σ ζ μ κ) (instants : Nat × Nat) : List (Action σ ζ μ κ) :=
  let crossed := breaker.act (.input .zeroCrossing instants.1)
  .input .zeroCrossing instants.1 ::
    if SwitchDriver.isOn crossed.switch = SwitchDriver.isOn breaker.switch then []
    else [.input (.switchChanged (SwitchDriver.isOn crossed.switch)) instants.2]

/-- Crossings, with every change of position reported before the next one. -/
def reportedCrossings (breaker : Breaker σ ζ μ κ) (instants : List (Nat × Nat)) :
    List (Action σ ζ μ κ) :=
  instants.foldl (fun actions pair => actions ++ (breaker.run actions).reportedCrossing pair) []

omit [Mains ζ] in
theorem reportedCrossings_concat (breaker : Breaker σ ζ μ κ) (instants : List (Nat × Nat))
    (pair : Nat × Nat) :
    breaker.reportedCrossings (instants ++ [pair]) =
      breaker.reportedCrossings instants ++
        (breaker.run (breaker.reportedCrossings instants)).reportedCrossing pair :=
  List.foldl_concat ..

/-- A run in which nothing but the modulation cycle goes on. -/
structure Proceeds (start : Breaker σ ζ μ κ) (actions : List (Action σ ζ μ κ)) : Prop where
  modulating : (start.run actions).Modulating
  settings : (start.run actions).lifecycle.modulation.settings =
    start.lifecycle.modulation.settings
  unmoved : ∀ earlier, earlier <+: actions → start.Unmoved (start.run earlier)

/-- Such a run goes on to an answer of the cycle, with some commands to the switch. -/
structure Advances (start : Breaker σ ζ μ κ) (actions extended : List (Action σ ζ μ κ))
    (answer : Modulation × σ) (commands : List JournalEntry) : Prop where
  proceeds : start.Proceeds extended
  modulation : (start.run extended).lifecycle.modulation = answer.1
  switch : (start.run extended).switch = answer.2
  journal : ∀ counted : JournalEntry → Bool, (∀ input, counted (.input input) = false) →
    (start.journal extended).countP counted =
      commands.countP counted + (start.journal actions).countP counted

/-- What the cycle and the switch make of the next crossing. -/
def crossed (breaker : Breaker σ ζ μ κ) : Modulation × σ :=
  breaker.lifecycle.modulation.handle .zeroCrossing breaker.switch

def commandsNext (breaker : Breaker σ ζ μ κ) : List JournalEntry :=
  breaker.lifecycle.modulation.commands .zeroCrossing breaker.switch

section Crossing

variable {start : Breaker σ ζ μ κ} {actions : List (Action σ ζ μ κ)}
  (proceeds : start.Proceeds actions) (pair : Nat × Nat)
include proceeds

theorem Proceeds.input (input : Input) (now : Nat)
    (cycles : input.event = .zeroCrossing ∨ input.event = .switchClosed ∨
      input.event = .switchOpened ∧ SwitchDriver.cause (start.run actions).switch = .external) :
    start.Advances actions (actions ++ [.input input now])
      ((start.run actions).lifecycle.modulation.handle input.event (start.run actions).switch)
      ((start.run actions).lifecycle.modulation.commands input.event
        (start.run actions).switch) := by
  obtain ⟨modulating, settings, unmoved⟩ := proceeds
  obtain ⟨⟨still, moved, modulation, switch⟩, commands⟩ := modulating.act cycles now
  rw [← run_concat] at still moved modulation switch
  refine ⟨⟨still, ?_, ?_⟩, modulation, switch, ?_⟩
  · rw [modulation, Modulation.settings_handle, settings]
  · intro earlier before
    rcases List.prefix_concat_iff.mp before with rfl | before
    · exact (unmoved actions List.prefix_rfl).trans moved
    · exact unmoved earlier before
  · intro counted uncounted
    rw [journal_input, commands, List.countP_append, List.countP_cons_of_neg (by simp [uncounted])]

/-- A crossing that leaves the switch where it is. -/
theorem Proceeds.stays
    (still : SwitchDriver.isOn (start.run actions).crossed.2 =
      SwitchDriver.isOn (start.run actions).switch) :
    start.Advances actions (actions ++ (start.run actions).reportedCrossing pair)
      (start.run actions).crossed (start.run actions).commandsNext := by
  have crossing := proceeds.input .zeroCrossing pair.1 (.inl rfl)
  have alone : (start.run actions).reportedCrossing pair = [.input .zeroCrossing pair.1] := by
    rw [reportedCrossing, ← run_concat, crossing.switch]
    exact congrArg _ (if_pos still)
  rw [alone]
  exact crossing

/-- A crossing that moves the switch, and the report of it. -/
theorem Proceeds.moves (position : Bool)
    (moved : SwitchDriver.isOn (start.run actions).crossed.2 = position)
    (other : SwitchDriver.isOn (start.run actions).switch = !position)
    (external : position = false →
      SwitchDriver.cause (start.run actions).crossed.2 = .external) :
    start.Advances actions (actions ++ (start.run actions).reportedCrossing pair)
      (((start.run actions).crossed.1.handle (Input.event (.switchChanged position))
        (start.run actions).crossed.2).1, (start.run actions).crossed.2)
      (start.run actions).commandsNext := by
  obtain ⟨crossing, modulation, switch, journal⟩ := proceeds.input .zeroCrossing pair.1 (.inl rfl)
  change _ = (start.run actions).crossed.1 at modulation
  change _ = (start.run actions).crossed.2 at switch
  have reporting := crossing.input (.switchChanged position) pair.2 (by
    rw [switch]
    cases position with
    | true => exact .inr (.inl rfl)
    | false => exact .inr (.inr ⟨rfl, external rfl⟩))
  have uncrossed : Input.event (.switchChanged position) ≠ .zeroCrossing := by
    cases position <;> simp [Input.event]
  have reported : (start.run actions).reportedCrossing pair =
      [.input .zeroCrossing pair.1] ++ [.input (.switchChanged position) pair.2] := by
    rw [reportedCrossing, ← run_concat, switch, moved, other, if_neg (by cases position <;> simp)]
    rfl
  rw [reported, ← List.append_assoc]
  refine ⟨reporting.proceeds, ?_, ?_, ?_⟩
  · rw [reporting.modulation, modulation, switch]
  · rw [reporting.switch, Modulation.handle_switch_of_ne uncrossed, switch]
  · intro counted uncounted
    rw [reporting.journal counted uncounted, Modulation.commands_of_ne uncrossed,
      List.countP_nil, Nat.zero_add, journal counted uncounted]
    rfl

end Crossing

/-- A run of crossings over so many whole periods and the beginning of another one. -/
structure Turned (Obeys : σ → Prop) (start : Breaker σ ζ μ κ) (actions : List (Action σ ζ μ κ))
    (periods position : Nat) : Prop where
  proceeds : start.Proceeds actions
  stands : (start.run actions).lifecycle.modulation.StandsAt Obeys position
    (start.run actions).switch
  inside : position < start.lifecycle.modulation.settings.period.toNat
  turnedOn : (start.journal actions).countP JournalEntry.isTurnedOn = periods
  turnedOff : (start.journal actions).countP JournalEntry.isTurnedOff =
    periods + if start.lifecycle.modulation.settings.whileClosed.toNat ≤ position then 1 else 0

section Turned

variable {Obeys : σ → Prop} {start : Breaker σ ζ μ κ} {actions : List (Action σ ζ μ κ)}
  {periods position : Nat} (turned : start.Turned Obeys actions periods position)
  (pair : Nat × Nat)
include turned

omit [Mains ζ] in
theorem Turned.isOn :
    SwitchDriver.isOn (start.run actions).switch =
      decide (position < start.lifecycle.modulation.settings.whileClosed.toNat) := by
  rw [turned.stands.isOn, turned.proceeds.settings]

theorem Turned.turnsOn (prompt : Prompt Obeys)
    (valid : start.lifecycle.modulation.settings.Valid)
    (last : position + 1 = start.lifecycle.modulation.settings.period.toNat) :
    start.Turned Obeys (actions ++ (start.run actions).reportedCrossing pair) (periods + 1) 0 := by
  have positive := valid.whileClosed_pos
  have less := valid.whileClosed_lt
  have off : SwitchDriver.isOn (start.run actions).switch = !true := by
    rw [turned.isOn]
    exact decide_eq_false (by omega)
  obtain ⟨proceeds, stands, inside, turnedOn, turnedOff⟩ := turned
  obtain ⟨⟨refusal, commands⟩, on, next⟩ := stands.turnsOn prompt (by rwa [proceeds.settings])
    (by rwa [proceeds.settings])
  obtain ⟨proceeded, modulation, switch, journal⟩ := proceeds.moves pair true on off (by simp)
  rw [commandsNext, commands] at journal
  refine ⟨proceeded, ?_, by omega, ?_, ?_⟩
  · rw [modulation, switch]
    exact next
  · rw [journal _ fun _ => rfl, turnedOn]
    exact Nat.add_comm 1 periods
  · rw [journal _ fun _ => rfl, turnedOff, if_pos (by omega), if_neg (by omega)]
    exact Nat.zero_add (periods + 1)

theorem Turned.turnsOff (prompt : Prompt Obeys)
    (valid : start.lifecycle.modulation.settings.Valid)
    (last : position + 1 = start.lifecycle.modulation.settings.whileClosed.toNat) :
    start.Turned Obeys (actions ++ (start.run actions).reportedCrossing pair)
      periods (position + 1) := by
  have less := valid.whileClosed_lt
  have on : SwitchDriver.isOn (start.run actions).switch = !false := by
    rw [turned.isOn]
    exact decide_eq_true (by omega)
  obtain ⟨proceeds, stands, inside, turnedOn, turnedOff⟩ := turned
  obtain ⟨commands, off, external, next⟩ := stands.turnsOff prompt (by rwa [proceeds.settings])
  obtain ⟨proceeded, modulation, switch, journal⟩ :=
    proceeds.moves pair false off on fun _ => external
  rw [commandsNext, commands] at journal
  refine ⟨proceeded, ?_, by omega, ?_, ?_⟩
  · rw [modulation, switch]
    exact next
  · rw [journal _ fun _ => rfl, turnedOn]
    exact Nat.zero_add periods
  · rw [journal _ fun _ => rfl, turnedOff, if_neg (by omega), if_pos (by omega)]
    exact Nat.add_comm 1 periods

theorem Turned.counts
    (unopened : position + 1 ≠ start.lifecycle.modulation.settings.whileClosed.toNat)
    (unclosed : position + 1 ≠ start.lifecycle.modulation.settings.period.toNat) :
    start.Turned Obeys (actions ++ (start.run actions).reportedCrossing pair)
      periods (position + 1) := by
  obtain ⟨proceeds, stands, inside, turnedOn, turnedOff⟩ := turned
  have sided : start.lifecycle.modulation.settings.whileClosed.toNat ≤ position + 1 ↔
      start.lifecycle.modulation.settings.whileClosed.toNat ≤ position := by omega
  have beyond : position + 1 < start.lifecycle.modulation.settings.period.toNat := by omega
  rw [← proceeds.settings] at inside unopened unclosed
  obtain ⟨commands, still, next⟩ := stands.counts inside unopened unclosed
  obtain ⟨proceeded, modulation, switch, journal⟩ :=
    proceeds.stays pair (congrArg SwitchDriver.isOn still)
  rw [commandsNext, commands] at journal
  refine ⟨proceeded, ?_, beyond, ?_, ?_⟩
  · rw [modulation, switch, crossed, still]
    exact next
  · rw [journal _ fun _ => rfl, turnedOn]
    exact Nat.zero_add periods
  · rw [journal _ fun _ => rfl, turnedOff]
    simp only [sided]
    exact Nat.zero_add _

end Turned

/-- Every number of crossings is so many periods and the beginning of another one. -/
theorem turned_reportedCrossings {Obeys : σ → Prop} (prompt : Prompt Obeys)
    {start : Breaker σ ζ μ κ} (valid : start.lifecycle.modulation.settings.Valid)
    (modulating : start.Modulating)
    (stands : start.lifecycle.modulation.StandsAt Obeys 0 start.switch)
    (instants : List (Nat × Nat)) :
    ∃ periods position,
      instants.length = start.lifecycle.modulation.settings.period.toNat * periods + position ∧
        start.Turned Obeys (start.reportedCrossings instants) periods position := by
  induction instants using List.reverseRecOn with
  | nil =>
      have positive := valid.whileClosed_pos
      have less := valid.whileClosed_lt
      refine ⟨0, 0, rfl, ⟨modulating, rfl, ?_⟩, stands, by omega, rfl, ?_⟩
      · intro earlier before
        rw [List.prefix_nil.mp before]
        exact ⟨modulating.modulates.closed, rfl, rfl, rfl, rfl, rfl⟩
      · rw [if_neg (by omega)]
        rfl
  | append_singleton instants pair ih =>
      obtain ⟨periods, position, length, turned⟩ := ih
      rw [reportedCrossings_concat, List.length_append, List.length_singleton, length]
      by_cases closes : position + 1 = start.lifecycle.modulation.settings.period.toNat
      · exact ⟨periods + 1, 0, by rw [Nat.mul_succ]; omega,
          turned.turnsOn pair prompt valid closes⟩
      · refine ⟨periods, position + 1, Nat.add_assoc .., ?_⟩
        by_cases opens : position + 1 = start.lifecycle.modulation.settings.whileClosed.toNat
        · exact turned.turnsOff pair prompt valid opens
        · exact turned.counts pair opens closes

/-- A cycle that starts over a prompt switch stands, after any number of reported crossings, where
the remainder of this number says. It has turned the switch on once in every period, and off at
the end of every closed part. The breaker has not moved at any point of the run. -/
theorem cycles_exactly {Obeys : σ → Prop} (prompt : Prompt Obeys) {breaker : Breaker σ ζ μ κ}
    (reachable : breaker.Reachable) (modulates : breaker.lifecycle.Modulates)
    (valid : breaker.lifecycle.modulation.settings.Valid)
    (closed : breaker.lifecycle.modulation.phase = .closed)
    (fresh : breaker.lifecycle.modulation.crossings = 0)
    (on : SwitchDriver.isOn breaker.switch = true) (obeys : Obeys breaker.switch)
    (instants : List (Nat × Nat)) :
    let whileClosed := breaker.lifecycle.modulation.settings.whileClosed.toNat
    let period := breaker.lifecycle.modulation.settings.period.toNat
    let actions := breaker.reportedCrossings instants
    let after := breaker.run actions
    after.lifecycle.modulation.crossings = instants.length % period ∧
      after.lifecycle.modulation.phase =
        (if instants.length % period < whileClosed then .closed else .opened) ∧
      SwitchDriver.isOn after.switch = decide (instants.length % period < whileClosed) ∧
      (breaker.journal actions).countP JournalEntry.isTurnedOn = instants.length / period ∧
      (breaker.journal actions).countP JournalEntry.isTurnedOff =
        (instants.length + period - whileClosed) / period ∧
      ∀ earlier, earlier <+: actions → breaker.Unmoved (breaker.run earlier) := by
  intro whileClosed period actions after
  have hears : breaker.lifecycle.filter.isIgnored .zeroCrossing = false := by
    obtain ⟨_, clock, switch, mains, meter, store, steps, rfl⟩ := reachable
    exact (followed_history clock switch mains meter store steps).hears
      (.inr ⟨modulates.acSupply, by simp [modulates.closed], by simp [modulates.closed]⟩)
  have positive : 0 < whileClosed := valid.whileClosed_pos
  have less : whileClosed < period := valid.whileClosed_lt
  obtain ⟨periods, position, length, turned⟩ := turned_reportedCrossings prompt valid
    ⟨reachable.inSession, modulates, hears, reachable.silent⟩
    ⟨fresh, by rw [if_pos positive, closed], by rw [on, decide_eq_true positive], obeys⟩ instants
  obtain ⟨proceeds, stands, inside, turnedOn, turnedOff⟩ := turned
  change position < period at inside
  change instants.length = period * periods + position at length
  have remainder : instants.length % period = position := by
    rw [length, Nat.mul_add_mod, Nat.mod_eq_of_lt inside]
  have quotient : instants.length / period = periods := by
    rw [length, Nat.mul_add_div (by omega), Nat.div_eq_of_lt inside, Nat.add_zero]
  -- The closed part of the last period is over from its crossing on.
  have openings : (instants.length + period - whileClosed) / period =
      periods + if whileClosed ≤ position then 1 else 0 := by
    have beyond : instants.length + period - whileClosed =
        period * periods + (position + (period - whileClosed)) := by omega
    rw [beyond, Nat.mul_add_div (by omega)]
    congr 1
    split
    · exact Nat.div_eq_of_lt_le (by omega) (by omega)
    · exact Nat.div_eq_of_lt (by omega)
  rw [remainder, quotient, openings]
  refine ⟨stands.crossings, ?_, ?_, turnedOn, turnedOff, proceeds.unmoved⟩
  · rw [stands.phase, proceeds.settings]
  · rw [stands.isOn, proceeds.settings]

open Bench

/-- A close on an AC supply, with two of five crossings to conduct. The first crossing after it
takes up the mode, and the second one starts the cycle. -/
def cycleStarted : BenchBreaker :=
  (bench {} {}).history (session (.adjust (.modulation { whileClosed := 2, period := 5 }) ::
    .adjust (.recovery { mode := .modulated }) :: detectedAc ++
    [.input .zeroCrossing 210000, .input (.switchChanged true) 211000,
      .input .zeroCrossing 220000, .input .zeroCrossing 230000]))

def sevenCrossings : List (Nat × Nat) :=
  (List.range 7).map fun count => (240000 + 10000 * count, 241000 + 10000 * count)

theorem prompt_scripted :
    Prompt fun switch : ScriptedSwitch => switch.refusal = none ∧ switch.stuck = false where
  turnOn switch obeys := by
    simp [SwitchDriver.turnOn, SwitchDriver.isOn, ScriptedSwitch.turnOn, obeys]
  turnOff switch obeys := by
    simp [SwitchDriver.turnOff, SwitchDriver.isOn, SwitchDriver.cause, ScriptedSwitch.turnOff,
      obeys]

/-- Seven crossings are a period, and the closed part of the next one. -/
theorem cycles_exactly_seven :
    let actions := cycleStarted.reportedCrossings sevenCrossings
    (cycleStarted.run actions).lifecycle.modulation.crossings = 2 ∧
      (cycleStarted.run actions).lifecycle.modulation.phase = .opened ∧
      SwitchDriver.isOn (cycleStarted.run actions).switch = false ∧
      (cycleStarted.journal actions).countP JournalEntry.isTurnedOn = 1 ∧
      (cycleStarted.journal actions).countP JournalEntry.isTurnedOff = 2 ∧
      cycleStarted.Unmoved (cycleStarted.run actions) := by
  have reachable : cycleStarted.Reachable := ⟨by decide +kernel, _, _, _, _, _, _, rfl⟩
  have modulates : cycleStarted.lifecycle.Modulates :=
    ⟨by decide +kernel, by decide +kernel, by decide +kernel, by decide +kernel⟩
  have started : cycleStarted.lifecycle.modulation =
      { settings := { whileClosed := 2, period := 5 }, phase := .closed, crossings := 0 } := by
    decide +kernel
  have cycles := cycles_exactly prompt_scripted reachable modulates (by rw [started]; decide)
    (by rw [started]) (by rw [started]) (by decide +kernel)
    ⟨by decide +kernel, by decide +kernel⟩ sevenCrossings
  rw [started, show sevenCrossings.length = 7 from rfl] at cycles
  obtain ⟨crossings, phase, isOn, turnedOn, turnedOff, unmoved⟩ := cycles
  exact ⟨crossings, phase, isOn, turnedOn, turnedOff, unmoved _ List.prefix_rfl⟩

end Breaker

end CircuitBreaker
