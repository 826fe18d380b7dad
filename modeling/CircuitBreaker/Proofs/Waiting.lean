import CircuitBreaker.Proofs.Polling

/-!
# Waiting for a timer

What one action comes to in a breaker that is not closed. An input is its event. A poll is the
event of the timer that is due, and nothing where none is.
-/

set_option autoImplicit false

namespace CircuitBreaker

namespace TimerBank

def only (timer : TimerId) (deadline : Nat) : TimerBank := empty.set timer (some deadline)

theorem cancel_only (timer : TimerId) (deadline : Nat) :
    (only timer deadline).cancel timer = empty := by
  cases timer <;> rfl

theorem firstDue_only (timer : TimerId) (deadline now : Nat) :
    (only timer deadline).firstDue now = if deadline ≤ now then some timer else none := by
  by_cases due : deadline ≤ now <;> cases timer <;>
    simp [firstDue, TimerId.all, isDue, only, set, empty, TimerBank.deadline, due]

theorem dueCount_only (timer : TimerId) (deadline now : Nat) :
    (only timer deadline).dueCount now ≤ 1 := by
  by_cases due : deadline ≤ now <;> cases timer <;>
    simp [dueCount, TimerId.all, isDue, only, set, empty, TimerBank.deadline, due]

end TimerBank

theorem Lifecycle.reclose_of_silent {σ : Type} [SwitchDriver σ] (machine : Lifecycle)
    {switch : Journaled σ} (silent : switch.journal = []) :
    ∃ reason refusal, (machine.reclose switch).1 = { machine with reason } ∧
      (machine.reclose switch).2.journal = [.turnedOn refusal] := by
  obtain ⟨reason, same⟩ := reclose_machine machine switch
  refine ⟨reason, (SwitchDriver.turnOn switch.driver).1, same, ?_⟩
  rw [reclose_switch]
  simp only [SwitchDriver.turnOn, Journaled.note, silent]

namespace Breaker

variable {σ ζ μ κ : Type} [SwitchDriver σ] [Meter μ]

/-!
## Actions outside `closed`
-/

omit [SwitchDriver σ] in
theorem dueTicks_of_unclosed {breaker : Breaker σ ζ μ κ}
    (unclosed : breaker.lifecycle.phase ≠ .closed) (now : Nat) :
    (breaker.dueTicks now).1 = none := by
  cases found : (breaker.dueTicks now).1 with
  | none => rfl
  | some point => exact absurd (closed_of_dueTicks found) unclosed

theorem runMonitor_of_unclosed {breaker : Breaker σ ζ μ κ}
    (unclosed : breaker.lifecycle.phase ≠ .closed) (now : Nat) :
    breaker.runMonitor now = .ok { breaker with monitor := (breaker.dueTicks now).2 } := by
  have untripped := dueTicks_of_unclosed unclosed now
  cases ticks : breaker.dueTicks now with
  | mk found monitor =>
      rw [ticks] at untripped
      cases untripped
      unfold dueTicks at ticks
      rw [runMonitor, ticks]

section Sessions

variable {breaker : Breaker σ ζ μ κ} (session : breaker.InSession) {now : Nat}
include session

variable [RecordStore κ]

/-- Every input is its event, but for a close request that meets the breaker closed. -/
theorem InSession.act_input (input : Input)
    (taken : input = .closeRequest → breaker.lifecycle.phase ≠ .closed) (now : Nat) :
    breaker.Reacts input.event now (breaker.act (.input input now)) := by
  obtain ⟨after, accepted, ⟨_, close, closed⟩ | ⟨reacts, _⟩⟩ := session.handleInput input now
  · exact absurd closed (taken close)
  · rw [Breaker.act, accepted]
    exact reacts

theorem InSession.act_undue (unclosed : breaker.lifecycle.phase ≠ .closed)
    (undue : breaker.lifecycle.timers.firstDue now = none) :
    breaker.act (.poll now) =
      { breaker.told now with monitor := (breaker.dueTicks now).2 } := by
  have unclosed : (breaker.told now).lifecycle.phase ≠ .closed := unclosed
  rw [Breaker.act, session.poll_of_undue undue, runMonitor_of_unclosed unclosed, afterCall]
  rfl

/-- A poll that finds one timer due is the event of this timer. -/
theorem InSession.act_expiry {timer : TimerId}
    (due : breaker.lifecycle.timers.firstDue now = some timer)
    (single : breaker.lifecycle.timers.dueCount now ≤ 1)
    (unclosed : (((breaker.disarm timer).lifecycle.respond breaker.clock timer.event breaker.switch
      now).1).phase ≠ .closed) :
    (breaker.disarm timer).Reacts timer.event now (breaker.act (.poll now)) := by
  have told := session.told now
  rcases told.fireTimers_succ now 2 with
    ⟨undue, _⟩ | ⟨other, after, found, applied, firing, _⟩
  · cases due.symm.trans undue
  · obtain rfl : timer = other := Option.some.inj (due.symm.trans found)
    have reacts := (told.disarm timer).reacts applied
    have fewer := told.dueCount_lt found applied
    -- The one timer that was due has fired, so that the next round finds none.
    have none : after.lifecycle.timers.firstDue now = none := by
      refine TimerBank.firstDue_of_dueCount (Nat.lt_one_iff.mp ?_)
      exact Nat.lt_of_lt_of_le fewer single
    have rested : after.fireTimers now 2 = .ok after := by
      rcases ((told.disarm timer).applied applied).fireTimers_succ now 1 with
        ⟨_, rested, _⟩ | ⟨_, _, found, _⟩
      · exact rested
      · cases none.symm.trans found
    have still : after.lifecycle.phase ≠ .closed := by
      rw [reacts.phase]
      exact unclosed
    rw [Breaker.act, session.poll_of_fired (firing.trans rested), runMonitor_of_unclosed still,
      afterCall]
    exact ⟨reacts.clock, reacts.initialized, reacts.meter, reacts.curve, reacts.lifecycle,
      reacts.switch⟩

end Sessions

/-!
## Commands outside `closed`
-/

section Commands

variable [Mains ζ] [RecordStore κ]

/-- The answer of the lifecycle to an event, with the commands that go with it. -/
def consequence (breaker : Breaker σ ζ μ κ) (event : Event) (now : Nat) :
    Lifecycle × List JournalEntry :=
  let answered := breaker.lifecycle.respond breaker.clock event breaker.journaled.switch now
  ({ answered.1 with noticePending := false }, answered.2.journal)

/-- What an action leaves of the lifecycle, and the commands that it gives. -/
structure ComesTo (breaker : Breaker σ ζ μ κ) (action : Action σ ζ μ κ)
    (answer : Lifecycle × List JournalEntry) : Prop where
  lifecycle : (breaker.act action).lifecycle = answer.1
  commands : breaker.commandsIn (.act action) = answer.2

omit [Mains ζ] in
theorem mapSwitch_act_journaled (breaker : Breaker σ ζ μ κ) (action : Action σ ζ μ κ) :
    (breaker.journaled.act action.journaled).mapSwitch Journaled.driver = breaker.act action := by
  cases action with
  | input input now =>
      have handled := Journaled.switchMap_driver.handleInput breaker.journaled now input
      rw [show breaker.journaled.mapSwitch Journaled.driver = breaker from rfl] at handled
      rw [Action.journaled, Breaker.act, Breaker.act, handled]
      cases breaker.journaled.handleInput input now <;> rfl
  | poll now => exact mapSwitch_actJournaled breaker.journaled (.poll now)
  | adjust adjustment => exact mapSwitch_actJournaled breaker.journaled (.adjust adjustment)

private theorem comesTo_of_journaled {breaker : Breaker σ ζ μ κ} {action : Action σ ζ μ κ}
    {answer : Lifecycle × List JournalEntry}
    (lifecycle : (breaker.journaled.act action.journaled).lifecycle = answer.1)
    (commands : (breaker.journaled.act action.journaled).switch.journal = answer.2) :
    breaker.ComesTo action answer := by
  refine ⟨?_, commands⟩
  rw [← mapSwitch_act_journaled]
  exact lifecycle

theorem commandsIn_adjust (breaker : Breaker σ ζ μ κ) (adjustment : Adjustment σ ζ μ κ) :
    breaker.commandsIn (.act (.adjust adjustment)) = [] :=
  journal_adjust breaker.journaled adjustment

omit [SwitchDriver σ] [Meter μ] [Mains ζ] [RecordStore κ] in
theorem InSession.journaled {breaker : Breaker σ ζ μ κ} (session : breaker.InSession) :
    breaker.journaled.InSession :=
  ⟨session.initialized, session.ready⟩

variable {breaker : Breaker σ ζ μ κ} (session : breaker.InSession) {now : Nat}
include session

theorem InSession.comesTo_input (input : Input)
    (taken : input = .closeRequest → breaker.lifecycle.phase ≠ .closed) (now : Nat) :
    breaker.ComesTo (.input input now) (breaker.consequence input.event now) := by
  have reacts := session.journaled.act_input input taken now
  refine comesTo_of_journaled reacts.lifecycle ?_
  rw [Action.journaled, reacts.switch]
  rfl

theorem InSession.comesTo_undue (unclosed : breaker.lifecycle.phase ≠ .closed)
    (undue : breaker.lifecycle.timers.firstDue now = none) :
    breaker.ComesTo (.poll now) (breaker.lifecycle, []) := by
  have same := session.journaled.act_undue unclosed undue
  refine comesTo_of_journaled ?_ ?_ <;> rw [Action.journaled, same] <;> rfl

/-- A poll that finds the only timer due. -/
theorem InSession.comesTo_expiry {timer : TimerId} {deadline : Nat}
    (only : breaker.lifecycle.timers = .only timer deadline) (due : deadline ≤ now)
    {answer : Lifecycle × List JournalEntry}
    (answered : (breaker.disarm timer).consequence timer.event now = answer)
    (unclosed : answer.1.phase ≠ .closed) : breaker.ComesTo (.poll now) answer := by
  subst answered
  have first : breaker.lifecycle.timers.firstDue now = some timer := by
    rw [only, TimerBank.firstDue_only, if_pos due]
  have single : breaker.lifecycle.timers.dueCount now ≤ 1 := by
    rw [only]
    exact TimerBank.dueCount_only timer deadline now
  have reacts := session.journaled.act_expiry first single unclosed
  refine comesTo_of_journaled reacts.lifecycle ?_
  rw [Action.journaled, reacts.switch]
  rfl

end Commands

/-!
## Waiting in `closeWait`
-/

omit [Meter μ] in
/-- The recovery timer and a crossing that is heard command the switch on, once. -/
theorem InSession.consequence_of_reclose {breaker : Breaker σ ζ μ κ} (session : breaker.InSession)
    (waiting : breaker.lifecycle.phase = .closeWait) {event : Event}
    (recloses : event = .recoveryTimerExpired ∨
      event = .zeroCrossing ∧ breaker.lifecycle.filter.isIgnored .zeroCrossing = false)
    (now : Nat) :
    ∃ reason refusal, breaker.consequence event now =
      ({ breaker.lifecycle with
          timers := breaker.lifecycle.timers.cancel .recovery
          reason
          noticePending := false },
        [.turnedOn refusal]) := by
  have heard : breaker.lifecycle.filter.isIgnored event = false := by
    rcases recloses with rfl | ⟨rfl, hears⟩
    · exact session.ready.hears _ (by simp)
    · exact hears
  have moved : breaker.lifecycle.transition breaker.clock event breaker.journaled.switch now =
      { breaker.lifecycle with
        timers := breaker.lifecycle.timers.cancel .recovery }.reclose breaker.journaled.switch := by
    rcases recloses with rfl | ⟨rfl, _⟩ <;> simp [Lifecycle.transition, waiting]
  obtain ⟨reason, refusal, same, commanded⟩ := Lifecycle.reclose_of_silent
    { breaker.lifecycle with timers := breaker.lifecycle.timers.cancel .recovery }
    (show breaker.journaled.switch.journal = [] from rfl)
  refine ⟨reason, refusal, ?_⟩
  rw [Breaker.consequence, Lifecycle.respond, heard, if_neg Bool.false_ne_true, moved]
  dsimp only
  rw [same, commanded]

section CloseWait

variable [Mains ζ] [RecordStore κ]

/-- The breaker waits for the switch to close, with these timers, and drops crossings or not. -/
structure Holds (timers : TimerBank) (deaf : Bool) (breaker : Breaker σ ζ μ κ) : Prop where
  session : breaker.InSession
  phase : breaker.lifecycle.phase = .closeWait
  timers : breaker.lifecycle.timers = timers
  crossings : breaker.lifecycle.filter.isIgnored .zeroCrossing = deaf

/-- An action that such a wait outlasts: none of its timers is due, and a crossing is dropped. -/
def Spares (timers : TimerBank) (deaf : Bool) : Action σ ζ μ κ → Prop
  | .input .zeroCrossing _ => deaf = true
  | .input (.switchChanged closed) _ => closed = false
  | .input .openRequest _ => False
  | .input .closeRequest _ | .adjust _ => True
  | .poll now => timers.firstDue now = none

/-- Nothing in it asks to open, nor reports that the switch closed. -/
def Unended (actions : List (Action σ ζ μ κ)) : Prop :=
  ∀ now, .input .openRequest now ∉ actions ∧ .input (.switchChanged true) now ∉ actions

omit [SwitchDriver σ] [Meter μ] [Mains ζ] [RecordStore κ] in
theorem Unended.spares {timers : TimerBank} {deaf : Bool} {actions : List (Action σ ζ μ κ)}
    (unended : Unended actions)
    (dropped : ∀ now, .input .zeroCrossing now ∈ actions → deaf = true)
    (undue : ∀ now, .poll now ∈ actions → timers.firstDue now = none) :
    ∀ action ∈ actions, Spares timers deaf action := by
  intro action member
  cases action with
  | input input now =>
      obtain ⟨unopened, unclosed⟩ := unended now
      cases input with
      | zeroCrossing => exact dropped now member
      | switchChanged closed =>
          cases closed with
          | false => rfl
          | true => exact absurd member unclosed
      | openRequest => exact absurd member unopened
      | closeRequest => trivial
  | poll now => exact undue now member
  | adjust adjustment => trivial

def Silent (breaker : Breaker σ ζ μ κ) (actions : List (Action σ ζ μ κ)) : Prop :=
  Throughout act (fun breaker action => breaker.commandsIn (.act action) = []) breaker actions

omit [SwitchDriver σ] [Meter μ] [Mains ζ] [RecordStore κ] in
theorem Adjusted.frame {before after : Breaker σ ζ μ κ} (adjusted : before.Adjusted after) :
    after.lifecycle.timers = before.lifecycle.timers ∧
      after.lifecycle.filter = before.lifecycle.filter ∧
      after.lifecycle.acSupply = before.lifecycle.acSupply ∧
      after.lifecycle.crossings = before.lifecycle.crossings := by
  obtain ⟨recovery, attemptsLeft, modulation, same, _⟩ := adjusted.lifecycle
  rw [same]
  exact ⟨rfl, rfl, rfl, rfl⟩

variable {timers : TimerBank} {deaf : Bool} {breaker : Breaker σ ζ μ κ}

theorem Holds.act (holds : breaker.Holds timers deaf) {action : Action σ ζ μ κ}
    (spares : Spares timers deaf action) :
    (breaker.act action).Holds timers deaf ∧ breaker.commandsIn (.act action) = [] := by
  have session := holds.session.act action
  have unclosed : breaker.lifecycle.phase ≠ .closed := by simp [holds.phase]
  -- Whatever the action is, it leaves the lifecycle as it was, but for a notice.
  have still {answer : Lifecycle × List JournalEntry} (comesTo : breaker.ComesTo action answer)
      (lifecycle : answer.1 = { breaker.lifecycle with noticePending := answer.1.noticePending })
      (silent : answer.2 = []) :
      (breaker.act action).Holds timers deaf ∧ breaker.commandsIn (.act action) = [] := by
    have same := comesTo.lifecycle.trans lifecycle
    refine ⟨⟨session, ?_, ?_, ?_⟩, comesTo.commands.trans silent⟩ <;> rw [same]
    · exact holds.phase
    · exact holds.timers
    · exact holds.crossings
  cases action with
  | input input now =>
      have comesTo := holds.session.comesTo_input input (fun _ => unclosed) now
      cases input with
      | zeroCrossing =>
          have dropped : breaker.lifecycle.filter.isIgnored .zeroCrossing = true :=
            holds.crossings.trans spares
          refine still comesTo ?_ ?_ <;>
            simp [Breaker.consequence, Lifecycle.respond, Input.event, dropped, journaled,
              mapSwitch]
      | switchChanged closed =>
          cases spares
          refine still comesTo ?_ ?_ <;>
            simp [Breaker.consequence, Lifecycle.respond, Input.event, Lifecycle.transition,
              holds.phase, holds.session.ready.hears, journaled, mapSwitch]
      | openRequest => cases spares
      | closeRequest =>
          refine still comesTo ?_ ?_ <;>
            simp [Breaker.consequence, Lifecycle.respond, Input.event, Lifecycle.transition,
              holds.phase, holds.session.ready.hears, journaled, mapSwitch]
  | poll now =>
      have undue : breaker.lifecycle.timers.firstDue now = none := by
        rw [holds.timers]
        exact spares
      exact still (holds.session.comesTo_undue unclosed undue) rfl rfl
  | adjust adjustment =>
      have adjusted := adjust_adjusted adjustment breaker
      obtain ⟨kept, filter, _⟩ := adjusted.frame
      refine ⟨⟨session, adjusted.phase.trans holds.phase, kept.trans holds.timers, ?_⟩,
        commandsIn_adjust breaker adjustment⟩
      rw [← holds.crossings, ← filter]
      rfl

theorem Holds.run (holds : breaker.Holds timers deaf) {actions : List (Action σ ζ μ κ)}
    (spares : ∀ action ∈ actions, Spares timers deaf action) :
    (breaker.run actions).Holds timers deaf ∧ breaker.Silent actions := by
  induction actions generalizing breaker with
  | nil => exact ⟨holds, trivial⟩
  | cons action rest ih =>
      obtain ⟨first, later⟩ := List.forall_mem_cons.mp spares
      obtain ⟨still, silent⟩ := holds.act first
      obtain ⟨final, quiet⟩ := ih still later
      exact ⟨final, silent, quiet⟩

end CloseWait

end Breaker

end CircuitBreaker
