import CircuitBreaker.Proofs.Journal

/-!
# Opening wins

Once a request or the curve has opened a breaker, nothing but a close request that meets
it opened closes it again: no input, timer, adjustment or report commands the switch on.
-/

set_option autoImplicit false

namespace CircuitBreaker.Breaker

open Bench

variable {σ ζ μ κ : Type}

variable [SwitchDriver σ]

/-- The breaker is open or opens, and so it stays, without a command to close, until a
close request meets it opened. -/
def StaysOpen [Meter μ] [RecordStore κ] (breaker : Breaker σ ζ μ κ) : Prop :=
  breaker.lifecycle.phase.IsOpening ∧
    ∀ actions, Throughout act (fun breaker action => ¬ breaker.AsksToClose action) breaker actions →
      (breaker.run actions).lifecycle.phase.IsOpening ∧
        ∀ refusal, .turnedOn refusal ∉ breaker.journal actions

/-!
## One event
-/

/-- What holds from the opening on. -/
structure Unclosed (breaker : Breaker (Journaled σ) ζ μ κ) : Prop where
  opening : breaker.lifecycle.phase.IsOpening
  uncommanded : ∀ refusal, .turnedOn refusal ∉ breaker.switch.journal

theorem Unclosed.reacts {before after : Breaker (Journaled σ) ζ μ κ} {event : Event} {now : Nat}
    (unclosed : before.Unclosed) (reacts : before.Reacts event now after)
    (unasked : before.lifecycle.phase = .opened → event ≠ .closeCommand) : after.Unclosed := by
  obtain ⟨opening, commanded⟩ := Lifecycle.respond_of_isOpening before.clock event before.switch
    now unclosed.opening unasked
  constructor
  · rw [reacts.phase]
    exact opening
  · rw [reacts.switch]
    rcases commanded with same | turnedOff
    · rw [same]
      exact unclosed.uncommanded
    · rw [turnedOff]
      intro refusal member
      simp only [SwitchDriver.turnOff, Journaled.note, List.mem_cons, reduceCtorEq,
        false_or] at member
      exact unclosed.uncommanded refusal member

/-!
## One action
-/

variable [Meter μ] [RecordStore κ]

theorem Unclosed.actJournaled {breaker : Breaker (Journaled σ) ζ μ κ} (session : breaker.InSession)
    (unclosed : breaker.Unclosed) (action : Action σ ζ μ κ)
    (unasked : ¬ (breaker.mapSwitch Journaled.driver).AsksToClose action) :
    (breaker.actJournaled action).Unclosed := by
  cases action with
  | input input now =>
      have noted : (breaker.noted input).Unclosed :=
        ⟨unclosed.opening, by simpa [Breaker.noted, Journaled.note] using unclosed.uncommanded⟩
      have session : (breaker.noted input).InSession := ⟨session.initialized, session.ready⟩
      obtain ⟨after, accepted, ⟨same, _⟩ | ⟨reacts, _⟩⟩ := session.handleInput input now
      · simp only [Breaker.actJournaled, act, accepted, afterCall]
        rw [same]
        exact noted
      · simp only [Breaker.actJournaled, act, accepted, afterCall]
        exact noted.reacts reacts fun opened => event_ne_of_not_asksToClose unasked opened
  | poll now =>
      obtain ⟨fired, after, accepted, _, unclosed, _, ⟨_, same⟩ | ⟨_, _, reacts, _⟩⟩ :=
        @InSession.poll _ _ _ _ _ _ _ session now Unclosed ⟨unclosed.opening, unclosed.uncommanded⟩
          (fun before after timer _ unclosed _ reacts _ =>
            (⟨unclosed.opening, unclosed.uncommanded⟩ :
              (before.disarm timer).Unclosed).reacts reacts
              fun _ => by cases timer <;> simp [TimerId.event])
      · simp only [Breaker.actJournaled, act, accepted, afterCall]
        rw [same]
        exact ⟨unclosed.opening, unclosed.uncommanded⟩
      · simp only [Breaker.actJournaled, act, accepted, afterCall]
        exact unclosed.reacts reacts (by simp)
  | adjust adjustment =>
      constructor
      · have adjusted := adjust_adjusted adjustment.journaled breaker
        rw [Breaker.actJournaled, adjusted.phase]
        exact unclosed.opening
      · rw [Breaker.actJournaled, journal_adjust]
        exact unclosed.uncommanded

/-!
## Runs
-/

/-- Every breaker of a session that is open or opens stays so. -/
theorem InSession.staysOpen {breaker : Breaker σ ζ μ κ} (session : breaker.InSession)
    (opening : breaker.lifecycle.phase.IsOpening) : breaker.StaysOpen := by
  refine ⟨opening, fun actions within => ?_⟩
  have held := @runJournaled_keeps σ ζ μ κ _ _ _ _
    (fun breaker => breaker.InSession ∧ breaker.Unclosed)
    (fun breaker action unasked holds =>
      ⟨holds.1.actJournaled action, holds.2.actJournaled holds.1 action unasked⟩)
    breaker actions within
    ⟨⟨session.initialized, session.ready⟩, ⟨opening, by simp [journaled, mapSwitch]⟩⟩
  constructor
  · rw [← lifecycle_runJournaled]
    exact held.2.opening
  · exact held.2.uncommanded

/-- Whatever was done to a breaker before, it accepts an open request, and from then on it
stays open until it is asked to close. The same holds of a poll that trips it. -/
theorem open_wins [Mains ζ] {breaker : Breaker σ ζ μ κ} (reachable : breaker.Reachable)
    (now : Nat) :
    (∃ after, breaker.requestOpen now = .ok after ∧
      breaker.handleInput .openRequest now = .ok after ∧ after.StaysOpen) ∧
    (breaker.raisesTrip now = true →
      ∃ after, breaker.poll now = .ok after ∧ after.StaysOpen) := by
  have session := reachable.inSession
  constructor
  · obtain ⟨after, accepted, ⟨_, other, _⟩ | ⟨reacts, _⟩⟩ := session.handleInput .openRequest now
    · cases other
    · refine ⟨after, accepted, accepted, (reacts.inSession session).staysOpen ?_⟩
      rw [reacts.phase, Input.event, session.ready.respond_of_ne _ _ _ _ (by simp)]
      exact Lifecycle.transition_openCommand_isOpening _ _ _ _ session.ready.started
  · intro raises
    obtain ⟨fired, after, accepted, kept, _, found, ⟨quiet, _⟩ | ⟨_, closed, reacts, _⟩⟩ :=
      @InSession.poll _ _ _ _ _ _ _ session now (fun _ => True) trivial
        (fun _ _ _ _ _ _ _ _ => trivial)
    · simp [quiet, raises] at found
    · refine ⟨after, accepted, (reacts.inSession kept).staysOpen ?_⟩
      rw [reacts.phase, kept.ready.respond_of_ne _ _ _ _ (by simp)]
      exact Lifecycle.transition_overCurrent_isOpening _ _ _ _ closed

theorem open_wins_closed :
    (∃ after, ((bench {} { current := 50000 }).history (session closed)).requestOpen 1300000 =
      .ok after ∧ after.StaysOpen) ∧
    ∃ after, ((bench {} { current := 50000 }).history (session closed)).poll 1300000 = .ok after ∧
      after.StaysOpen := by
  have reachable : ((bench {} { current := 50000 }).history (session closed)).Reachable :=
    ⟨by decide +kernel, _, _, _, _, _, session closed, rfl⟩
  obtain ⟨⟨opened, accepted, _, stays⟩, tripped⟩ := open_wins reachable 1300000
  exact ⟨⟨opened, accepted, stays⟩, tripped (by decide +kernel)⟩

end CircuitBreaker.Breaker
