import CircuitBreaker.Proofs.Journal

/-!
# Releasing the switch

Whether an opened breaker has taken back its last command to close. It has, unless it
decided to open while the switch still read off although it had been commanded on.
-/

set_option autoImplicit false

namespace CircuitBreaker

/-- Whether the latest command to close that the switch accepted still stands: no command
to open and no report of an opening came after it. -/
def closingStands : List JournalEntry → Bool
  | [] => false
  | .turnedOn none :: _ => true
  | .turnedOff :: _ => false
  | .input (.switchChanged false) :: _ => false
  | _ :: earlier => closingStands earlier

/-- An input takes a command to close back or leaves it. -/
theorem closingStands_of_input {input : Input} {journal : List JournalEntry}
    (stands : closingStands (.input input :: journal) = true) :
    input ≠ .switchChanged false ∧ closingStands journal = true := by
  cases input with
  | switchChanged closed =>
      cases closed with
      | false => cases stands
      | true => exact ⟨by simp, stands⟩
  | _ => exact ⟨by simp, stands⟩

namespace Breaker

variable {τ σ ζ μ κ : Type} [SwitchDriver τ] [SwitchDriver σ]

/-- Whether an action makes the breaker open a switch that it has closed or closes. -/
def DecidesToOpen [Meter μ] (breaker : Breaker τ ζ μ κ) : Action σ ζ μ κ → Prop
  | .input .openRequest _ =>
      breaker.lifecycle.phase = .closeWait ∨ breaker.lifecycle.phase = .closed
  | .poll now => breaker.raisesTrip now = true
  | _ => False

section Runs

variable [Meter μ] [RecordStore κ] (start : Breaker σ ζ μ κ) (run : List (Action σ ζ μ κ))

/-- After a run, an opened breaker has taken back its last command to close. -/
def Released : Prop :=
  (start.run run).lifecycle.phase = .opened → closingStands (start.journal run) = false

/-- After a run, an action decides to open while the switch reads off, although the last
command to close stands. -/
def OpensUnconfirmed (action : Action σ ζ μ κ) : Prop :=
  (start.run run).DecidesToOpen action ∧ SwitchDriver.isOn (start.run run).switch = false ∧
    closingStands (start.journal run) = true

end Runs

/-!
## One event
-/

theorem Reacts.isResting {before after : Breaker σ ζ μ κ} {event : Event} {now : Nat}
    (reacts : before.Reacts event now after) (resting : after.lifecycle.phase.IsResting) :
    after.switch = before.switch ∧
      (before.lifecycle.phase.IsResting ∨ event = .switchOpened ∨
        before.lifecycle.DecidesToOpen event ∧ SwitchDriver.isOn before.switch = false) := by
  rw [reacts.phase] at resting
  rw [reacts.switch]
  exact Lifecycle.respond_isResting before.clock event before.switch now resting

/-- While a breaker rests, no command to close stands. A close that is given up in
`supplyWait` comes back to `opened`, so this has to hold there as well. -/
def Rested (breaker : Breaker (Journaled σ) ζ μ κ) : Prop :=
  breaker.lifecycle.phase.IsResting → closingStands breaker.switch.journal = false

omit [SwitchDriver σ] in
theorem rested_of_eq {before after : Breaker (Journaled σ) ζ μ κ} (rested : before.Rested)
    (phase : after.lifecycle.phase = before.lifecycle.phase)
    (journal : after.switch.journal = before.switch.journal) : after.Rested := by
  intro resting
  rw [journal]
  rw [phase] at resting
  exact rested resting

/-!
## One action
-/

section Actions

variable [Meter μ] [RecordStore κ] {breaker : Breaker (Journaled σ) ζ μ κ}

private theorem rested_input (session : breaker.InSession) (rested : breaker.Rested)
    (input : Input) (now : Nat)
    (confirmed : ¬ (breaker.DecidesToOpen (.input input now : Action σ ζ μ κ) ∧
      SwitchDriver.isOn breaker.switch = false ∧ closingStands breaker.switch.journal = true)) :
    (breaker.actJournaled (.input input now)).Rested := by
  have session : (breaker.noted input).InSession := ⟨session.initialized, session.ready⟩
  obtain ⟨after, accepted, ⟨same, _, closed⟩ | ⟨reacts, _⟩⟩ := session.handleInput input now
  · simp only [actJournaled, act, accepted, afterCall]
    intro resting
    rw [same] at resting
    simp [closed, Phase.IsResting] at resting
  · simp only [actJournaled, act, accepted, afterCall]
    intro resting
    obtain ⟨same, why⟩ := reacts.isResting resting
    rw [same, ← Bool.not_eq_true]
    intro stands
    obtain ⟨other, stands⟩ := closingStands_of_input stands
    rcases why with before | reported | ⟨decides, off⟩
    · simp [rested before] at stands
    · cases input with
      | switchChanged closed => cases closed <;> simp [Input.event] at reported other
      | _ => simp [Input.event] at reported
    · apply confirmed
      refine ⟨?_, off, stands⟩
      cases input with
      | openRequest =>
          rcases decides with ⟨_, opens⟩ | ⟨other, _⟩
          · exact opens
          · cases other
      | switchChanged closed =>
          cases closed <;> simp [Lifecycle.DecidesToOpen, Input.event] at decides
      | _ => simp [Lifecycle.DecidesToOpen, Input.event] at decides

omit [Meter μ] [RecordStore κ] in
private theorem rested_of_timer {before after : Breaker (Journaled σ) ζ μ κ} {timer : TimerId}
    {now : Nat} (rested : before.Rested)
    (reacts : (before.disarm timer).Reacts timer.event now after) : after.Rested := by
  intro resting
  obtain ⟨same, before | reported | ⟨decides, _⟩⟩ := reacts.isResting resting
  · rw [same]
    exact rested before
  · cases timer <;> simp [TimerId.event] at reported
  · cases timer <;> simp [Lifecycle.DecidesToOpen, TimerId.event] at decides

omit [RecordStore κ] in
/-- The timers of a poll keep a breaker rested, and command nothing if it is closed when
the ticks come. -/
private theorem poll_spec (session : breaker.InSession) (now : Nat) :
    ∃ fired after : Breaker (Journaled σ) ζ μ κ, breaker.poll now = .ok after ∧ fired.InSession ∧
      (breaker.Rested → fired.Rested) ∧
      (fired.lifecycle.phase = .closed → fired.switch = breaker.switch) ∧
      (breaker.raisesTrip now = false ∧ after.lifecycle = fired.lifecycle ∧
          after.switch = fired.switch ∨
        breaker.raisesTrip now = true ∧ fired.lifecycle.phase = .closed ∧
          fired.Reacts .overCurrentDuration now after) := by
  obtain ⟨fired, after, accepted, kept, ⟨rested, unchanged⟩, raises, outcome⟩ :=
    @InSession.poll _ _ _ _ _ _ _ session now
      (fun middle => (breaker.Rested → middle.Rested) ∧
        (middle.lifecycle.phase = .closed → middle.switch = breaker.switch))
      ⟨id, fun _ => rfl⟩
      (by
        intro before after timer _ held _ reacts _
        refine ⟨fun rested => rested_of_timer (held.1 rested) reacts, fun still => ?_⟩
        rw [reacts.phase] at still
        obtain ⟨closed, same⟩ := Lifecycle.respond_timer_of_closed _ _ now timer still
        rw [reacts.switch, same]
        exact held.2 closed)
  refine ⟨fired, after, accepted, kept, rested, unchanged, ?_⟩
  rcases outcome with ⟨quiet, same⟩ | ⟨found, closed, reacts, _⟩
  · left
    rw [raises, quiet, same]
    exact ⟨rfl, rfl, rfl⟩
  · right
    rw [raises, found]
    exact ⟨rfl, closed, reacts⟩

private theorem rested_poll (session : breaker.InSession) (rested : breaker.Rested) (now : Nat)
    (confirmed : ¬ (breaker.DecidesToOpen (.poll now : Action σ ζ μ κ) ∧
      SwitchDriver.isOn breaker.switch = false ∧ closingStands breaker.switch.journal = true)) :
    (breaker.actJournaled (.poll now)).Rested := by
  obtain ⟨fired, after, accepted, _, held, unchanged, outcome⟩ := poll_spec session now
  simp only [actJournaled, act, accepted, afterCall]
  rcases outcome with ⟨_, lifecycle, switch⟩ | ⟨raises, closed, reacts⟩
  · exact rested_of_eq (held rested) (by rw [lifecycle]) (by rw [switch])
  · intro resting
    obtain ⟨same, before | reported | ⟨_, off⟩⟩ := reacts.isResting resting
    · simp [closed, Phase.IsResting] at before
    · cases reported
    · -- The timers left the switch alone, so the decision was taken on what the poll found.
      rw [unchanged closed] at same off
      rw [same, ← Bool.not_eq_true]
      intro stands
      exact confirmed ⟨raises, off, stands⟩

theorem Rested.actJournaled (rested : breaker.Rested) (session : breaker.InSession)
    (action : Action σ ζ μ κ)
    (confirmed : ¬ (breaker.DecidesToOpen action ∧ SwitchDriver.isOn breaker.switch = false ∧
      closingStands breaker.switch.journal = true)) :
    (breaker.actJournaled action).Rested := by
  cases action with
  | input input now => exact rested_input session rested input now confirmed
  | poll now => exact rested_poll session rested now confirmed
  | adjust adjustment =>
      have adjusted := adjust_adjusted adjustment.journaled breaker
      exact rested_of_eq rested adjusted.phase (journal_adjust breaker adjustment)

/-- A decision to open that finds the switch off opens the breaker at once and leaves the
command to close as it stands. -/
theorem actJournaled_of_decidesToOpen (session : breaker.InSession) {action : Action σ ζ μ κ}
    (decides : breaker.DecidesToOpen action) (off : SwitchDriver.isOn breaker.switch = false) :
    (breaker.actJournaled action).lifecycle.phase = .opened ∧
      closingStands (breaker.actJournaled action).switch.journal =
        closingStands breaker.switch.journal := by
  cases action with
  | input input now =>
      cases input with
      | openRequest =>
          have noted : (breaker.noted .openRequest).InSession :=
            ⟨session.initialized, session.ready⟩
          obtain ⟨after, accepted, ⟨_, other, _⟩ | ⟨reacts, _⟩⟩ :=
            noted.handleInput .openRequest now
          · cases other
          · simp only [Breaker.actJournaled, act, accepted, afterCall]
            rw [reacts.phase, reacts.switch, Input.event,
              noted.ready.respond_of_ne _ _ _ _ (by simp)]
            obtain ⟨opened, same⟩ := Lifecycle.transition_of_decidesToOpen
              (breaker.noted .openRequest).lifecycle (breaker.noted .openRequest).clock
              .openCommand (breaker.noted .openRequest).switch now (.inl ⟨rfl, decides⟩) off
            rw [same]
            exact ⟨opened, rfl⟩
      | _ => cases decides
  | poll now =>
      obtain ⟨fired, after, accepted, kept, _, unchanged, ⟨quiet, _⟩ | ⟨_, closed, reacts⟩⟩ :=
        poll_spec session now
      · simp [DecidesToOpen, quiet] at decides
      · simp only [Breaker.actJournaled, act, accepted, afterCall]
        rw [reacts.phase, reacts.switch, kept.ready.respond_of_ne _ _ _ _ (by simp)]
        obtain ⟨opened, same⟩ := Lifecycle.transition_of_decidesToOpen fired.lifecycle fired.clock
          .overCurrentDuration fired.switch now (.inr ⟨rfl, closed⟩)
          (by rw [unchanged closed]; exact off)
        refine ⟨opened, ?_⟩
        rw [same, unchanged closed]
  | adjust adjustment => cases decides

end Actions

/-!
## Runs
-/

section Runs

variable [Meter μ] [RecordStore κ]

omit [SwitchDriver τ] in
theorem decidesToOpen_runJournaled (start : Breaker σ ζ μ κ) (run : List (Action σ ζ μ κ))
    (action : Action σ ζ μ κ) :
    (start.runJournaled run).DecidesToOpen action ↔ (start.run run).DecidesToOpen action := by
  rw [← mapSwitch_runJournaled]
  cases action with
  | poll now =>
      have fired := Journaled.switchMap_driver.fireTimers ((start.runJournaled run).told now) now
        TimerId.all.length
      have raises : ((start.runJournaled run).mapSwitch Journaled.driver).raisesTrip now =
          (start.runJournaled run).raisesTrip now := by
        unfold raisesTrip
        rw [show ((start.runJournaled run).mapSwitch Journaled.driver).told now =
          ((start.runJournaled run).told now).mapSwitch Journaled.driver from rfl, fired]
        cases ((start.runJournaled run).told now).fireTimers now TimerId.all.length <;> rfl
      simp only [DecidesToOpen, raises]
  | input input now => cases input <;> exact Iff.rfl
  | adjust adjustment => exact Iff.rfl

/-- An opened breaker has taken back its last command to close, all through a session,
exactly as long as no action decides to open while that command is not confirmed. -/
theorem opened_released_iff [Mains ζ] {breaker : Breaker σ ζ μ κ}
    (fresh : breaker.initialized = false) (now : Nat) (actions : List (Action σ ζ μ κ)) :
    (∀ run, run <+: actions → (breaker.init now).Released run) ↔
      ∀ run action, run ++ [action] <+: actions →
        ¬ (breaker.init now).OpensUnconfirmed run action := by
  have session := (init_of_fresh fresh now).1
  generalize breaker.init now = start at session ⊢
  have switch (run : List (Action σ ζ μ κ)) :
      SwitchDriver.isOn (start.runJournaled run).switch =
        SwitchDriver.isOn (start.run run).switch := by
    rw [← mapSwitch_runJournaled]
    rfl
  constructor
  · intro released run action before unconfirmed
    obtain ⟨decides, off, stands⟩ := unconfirmed
    rw [← decidesToOpen_runJournaled] at decides
    rw [← switch] at off
    obtain ⟨opened, same⟩ :=
      actJournaled_of_decidesToOpen (session.runJournaled run) decides off
    rw [← runJournaled_concat] at opened same
    rw [lifecycle_runJournaled] at opened
    have taken : closingStands (start.journal (run ++ [action])) = false :=
      released (run ++ [action]) before opened
    rw [journal, same] at taken
    rw [journal, taken] at stands
    cases stands
  · intro confirmed
    have rested (run : List (Action σ ζ μ κ)) (before : run <+: actions) :
        (start.runJournaled run).Rested := by
      induction run using List.reverseRecOn with
      | nil =>
          intro _
          rfl
      | append_singleton run action ih =>
          rw [runJournaled_concat]
          apply (ih ((List.prefix_append run [action]).trans before)).actJournaled
            (session.runJournaled run)
          intro unconfirmed
          apply confirmed run action before
          rw [decidesToOpen_runJournaled, switch] at unconfirmed
          exact unconfirmed
    intro run before opened
    apply rested run before
    rw [lifecycle_runJournaled]
    exact .inl opened

open Bench

/-- A switch that lags behind for long: the breaker is opened, and the command to close
stands. -/
theorem unreleased_of_lagging :
    SwitchDriver.isOn ((bench { stuck := true } {}).init 0).switch = false ∧
      ((bench { stuck := true } {}).init 0).OpensUnconfirmed closing
        (.input .openRequest 300000) ∧
      ¬ ((bench { stuck := true } {}).init 0).Released
        (closing ++ [.input .openRequest 300000]) := by
  refine ⟨by decide +kernel, ⟨?_, by decide +kernel, by decide +kernel⟩, fun released => ?_⟩
  · exact .inl (by decide +kernel)
  · have taken := released (by decide +kernel)
    revert taken
    decide +kernel

/-- A close that the switch has reported, and an opening that it reports. -/
def closedAndOpened : List BenchAction :=
  closed ++ [.input .openRequest 300000, .input (.switchChanged false) 300000]

/-- A switch that follows at once confirms the close before the open request comes. -/
theorem released_of_following :
    (((bench {} {}).init 0).run closedAndOpened).lifecycle.phase = .opened ∧
      ((bench {} {}).init 0).Released closedAndOpened := by
  have confirmed : ∀ length < 5,
      SwitchDriver.isOn (((bench {} {}).init 0).run (closedAndOpened.take length)).switch = true ∨
        closingStands (((bench {} {}).init 0).journal (closedAndOpened.take length)) = false := by
    decide +kernel
  refine ⟨by decide +kernel,
    (opened_released_iff rfl 0 closedAndOpened).2 ?_ closedAndOpened (List.prefix_refl _)⟩
  intro run action before unconfirmed
  obtain ⟨_, off, stands⟩ := unconfirmed
  have short : run.length < 5 := by
    have shorter := before.length_le
    simp only [List.length_append, List.length_singleton] at shorter
    exact shorter
  have taken := List.prefix_iff_eq_take.mp ((List.prefix_append run [action]).trans before)
  rcases confirmed run.length short with on | released
  · rw [← taken, off] at on
    cases on
  · rw [← taken, stands] at released
    cases released

end Runs

end Breaker

end CircuitBreaker
