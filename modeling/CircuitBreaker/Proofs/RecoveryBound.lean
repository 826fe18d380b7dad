import CircuitBreaker.Proofs.Journal

/-!
# The recovery bound

How many hardware over-current trips a breaker survives after one close. Only trips that
meet it closed are counted: one that is reported before the close is, passes by.
-/

set_option autoImplicit false

namespace CircuitBreaker.Breaker

variable {σ ζ μ κ : Type} [SwitchDriver σ]

/-- A hardware over-current trip that meets a closed breaker. -/
def meetsTrip (breaker : Breaker σ ζ μ κ) : Action σ ζ μ κ → Bool
  | .input (.switchChanged false) _ =>
      breaker.lifecycle.phase = .closed ∧
        SwitchDriver.cause breaker.switch = .hardwareOvercurrent
  | _ => false

theorem input_of_meetsTrip {breaker : Breaker σ ζ μ κ} {input : Input} {now : Nat}
    (met : breaker.meetsTrip (.input input now) = true) :
    input = .switchChanged false ∧ breaker.lifecycle.phase = .closed ∧
      SwitchDriver.cause breaker.switch = .hardwareOvercurrent := by
  cases input with
  | switchChanged closed =>
      cases closed with
      | false => exact ⟨rfl, by simpa [meetsTrip] using met⟩
      | true => simp [meetsTrip] at met
  | _ => simp [meetsTrip] at met

/-- A poll in which the reset timer gives the attempts back. -/
def replenishes (breaker : Breaker σ ζ μ κ) : Action σ ζ μ κ → Bool
  | .poll now =>
      (.closed, .recoveryResetTimerExpired) ∈
        (breaker.told now).timerEvents now TimerId.all.length
  | _ => false

def Unaided (breaker : Breaker σ ζ μ κ) (action : Action σ ζ μ κ) : Prop :=
  ¬ breaker.AsksToClose action ∧ breaker.replenishes action = false

instance (breaker : Breaker σ ζ μ κ) (action : Action σ ζ μ κ) :
    Decidable (breaker.Unaided action) :=
  inferInstanceAs (Decidable (_ ∧ _))

/-!
## One action
-/

theorem toNat_sub_one {attempts : UInt16} (left : 0 < attempts) :
    (attempts - 1).toNat + 1 = attempts.toNat := by
  have positive : 0 < attempts.toNat := by simpa [UInt16.lt_iff_toNat_lt] using left
  have one : (1 : UInt16) ≤ attempts := by
    rw [UInt16.le_iff_toNat_le]
    exact positive
  rw [UInt16.toNat_sub_of_le _ _ one, UInt16.toNat_one]
  omega

/-- Nothing but a close and the reset timer gives attempts back. -/
private theorem attempts_of_event {before after : Breaker σ ζ μ κ} {event : Event} {now : Nat}
    (session : before.InSession) (reacts : before.Reacts event now after)
    (unasked : before.lifecycle.phase = .opened → event ≠ .closeCommand)
    (kept : before.lifecycle.phase = .closed → event ≠ .recoveryResetTimerExpired) :
    after.lifecycle.attemptsLeft.toNat ≤ before.lifecycle.attemptsLeft.toNat := by
  rw [reacts.attemptsLeft session, Lifecycle.attemptsLeft_transition]
  split
  · next granted =>
    rcases granted with ⟨opened, closing⟩ | ⟨closed, reset⟩
    · exact absurd closing (unasked opened)
    · exact absurd reset (kept closed)
  · split
    · next taken =>
      have fewer := toNat_sub_one taken.2.2.2
      omega
    · exact Nat.le_refl _

/-- A trip that meets a closed breaker takes an attempt, or opens the breaker for good. -/
private theorem attempts_of_trip {before after : Breaker σ ζ μ κ} {now : Nat}
    (session : before.InSession) (reacts : before.Reacts .switchOpened now after)
    (closed : before.lifecycle.phase = .closed)
    (tripped : SwitchDriver.cause before.switch = .hardwareOvercurrent) :
    after.lifecycle.attemptsLeft.toNat + 1 = before.lifecycle.attemptsLeft.toNat ∨
      after.lifecycle.phase = .opened := by
  rw [reacts.attemptsLeft session, reacts.phase, session.ready.respond_of_ne _ _ _ _ (by simp),
    Lifecycle.transition_trip_of_closed _ _ _ _ closed tripped, Lifecycle.attemptsLeft_transition]
  by_cases left : 0 < before.lifecycle.attemptsLeft
  · left
    simp [closed, tripped, left, toNat_sub_one]
  · right
    rw [if_neg left]

variable [Meter μ]

private theorem attempts_of_poll {breaker : Breaker σ ζ μ κ} (session : breaker.InSession)
    (now : Nat) (kept : (.closed, .recoveryResetTimerExpired) ∉
      (breaker.told now).timerEvents now TimerId.all.length) :
    ∃ after, breaker.poll now = .ok after ∧
      after.lifecycle.attemptsLeft.toNat ≤ breaker.lifecycle.attemptsLeft.toNat := by
  obtain ⟨fired, after, accepted, inSession, fewer, _, ⟨_, same⟩ | ⟨_, closed, reacts, _⟩⟩ :=
    @InSession.poll _ _ _ _ _ _ _ session now
      (fun middle => middle.lifecycle.attemptsLeft.toNat ≤ breaker.lifecycle.attemptsLeft.toNat)
      (Nat.le_refl _)
      (by
        intro before after timer session fewer member reacts _
        have disarmed : (before.disarm timer).InSession :=
          ⟨session.initialized, session.ready.started, session.ready.hears⟩
        refine Nat.le_trans (attempts_of_event disarmed reacts ?_ ?_) fewer
        · intro _
          cases timer <;> simp [TimerId.event]
        · intro closed reset
          rw [reset, show before.lifecycle.phase = .closed from closed] at member
          exact kept member)
  · refine ⟨after, accepted, ?_⟩
    rw [same]
    exact fewer
  · refine ⟨after, accepted, Nat.le_trans (attempts_of_event inSession reacts ?_ ?_) fewer⟩ <;>
      simp

variable [RecordStore κ]

private theorem attempts_of_act {breaker : Breaker σ ζ μ κ} (session : breaker.InSession)
    (action : Action σ ζ μ κ) (unaided : breaker.Unaided action) :
    (breaker.act action).lifecycle.phase = .opened ∨
      (breaker.meetsTrip action).toNat + (breaker.act action).lifecycle.attemptsLeft.toNat ≤
        breaker.lifecycle.attemptsLeft.toNat := by
  cases action with
  | input input now =>
      obtain ⟨after, accepted, ⟨same, closing, _⟩ | ⟨reacts, _⟩⟩ := session.handleInput input now
      · right
        subst closing
        simp [act, accepted, afterCall, meetsTrip, same]
      · simp only [act, accepted, afterCall]
        cases met : breaker.meetsTrip (.input input now) with
        | true =>
            obtain ⟨rfl, closed, tripped⟩ := input_of_meetsTrip met
            rcases attempts_of_trip session reacts closed tripped with taken | opened
            · right
              rw [Bool.toNat_true]
              omega
            · exact .inl opened
        | false =>
            right
            rw [Bool.toNat_false, Nat.zero_add]
            apply attempts_of_event session reacts (event_ne_of_not_asksToClose unaided.1)
            intro _
            cases input with
            | switchChanged closed => cases closed <;> simp [Input.event]
            | _ => simp [Input.event]
  | poll now =>
      obtain ⟨after, accepted, fewer⟩ := attempts_of_poll session now
        (by simpa [replenishes] using unaided.2)
      right
      simpa [act, accepted, afterCall, meetsTrip] using fewer
  | adjust adjustment =>
      have fewer := (adjust_adjusted adjustment breaker).attemptsLeft
      right
      simpa [act, meetsTrip] using UInt16.le_iff_toNat_le.mp fewer

private theorem opened_act {breaker : Breaker σ ζ μ κ} (session : breaker.InSession)
    (opened : breaker.lifecycle.phase = .opened) (action : Action σ ζ μ κ)
    (unaided : breaker.Unaided action) : (breaker.act action).lifecycle.phase = .opened := by
  cases action with
  | input input now =>
      obtain ⟨after, accepted, ⟨same, _⟩ | ⟨reacts, _⟩⟩ := session.handleInput input now
      · simpa [act, accepted, afterCall, same] using opened
      · simp only [act, accepted, afterCall]
        rw [reacts.phase, Lifecycle.respond_of_opened _ _ _ _ opened
          (event_ne_of_not_asksToClose unaided.1 opened)]
        exact opened
  | poll now =>
      obtain ⟨fired, after, accepted, _, still, _, ⟨_, same⟩ | ⟨_, closed, _⟩⟩ :=
        @InSession.poll _ _ _ _ _ _ _ session now
          (fun middle => middle.lifecycle.phase = .opened) opened
          (by
            intro before after timer _ opened _ reacts _
            have disarmed : (before.disarm timer).lifecycle.phase = .opened := opened
            rw [reacts.phase, Lifecycle.respond_of_opened _ _ _ _ disarmed
              (by cases timer <;> simp [TimerId.event])]
            exact opened)
      · simpa [act, accepted, afterCall, same] using still
      · simp [closed] at still
  | adjust adjustment =>
      rw [← opened]
      exact (adjust_adjusted adjustment breaker).phase

/-!
## Runs
-/

/-- Trips and attempts left never add up to more than the attempts at the start, until
the breaker opens. -/
theorem attempts_of_run {breaker : Breaker σ ζ μ κ} (session : breaker.InSession)
    (actions : List (Action σ ζ μ κ)) (unaided : Throughout act Unaided breaker actions) :
    (breaker.run actions).lifecycle.phase = .opened ∨
      tally act meetsTrip breaker actions + (breaker.run actions).lifecycle.attemptsLeft.toNat ≤
        breaker.lifecycle.attemptsLeft.toNat := by
  induction actions generalizing breaker with
  | nil =>
      right
      simp [tally, run]
  | cons action rest ih =>
      rcases ih (session.act action) unaided.2 with opened | bounded
      · exact .inl opened
      · rcases attempts_of_act session action unaided.1 with opened | taken
        · -- Nothing in the rest of the run leads out of `opened`.
          left
          exact (@foldl_keeps _ _ act Unaided
            (fun breaker => breaker.InSession ∧ breaker.lifecycle.phase = .opened)
            (fun breaker action unaided held =>
              ⟨held.1.act action, opened_act held.1 held.2 action unaided⟩)
            (breaker.act action) rest unaided.2 ⟨session.act action, opened⟩).2
        · right
          simp only [tally, run, List.foldl_cons] at bounded ⊢
          omega

/-- A hardware trip that meets a breaker while it closes or is closed takes an attempt or
opens it, exactly if the breaker is closed. After a close with a budget of attempts, one
more trip that meets it closed leaves it opened. -/
theorem recovery_bound [Mains ζ] {breaker : Breaker σ ζ μ κ} (reachable : breaker.Reachable)
    (now : Nat) :
    ((breaker.lifecycle.phase = .closeWait ∨ breaker.lifecycle.phase = .closed) →
      SwitchDriver.cause breaker.switch = .hardwareOvercurrent →
      ∃ after, breaker.handleInput (.switchChanged false) now = .ok after ∧
        (after.lifecycle.attemptsLeft.toNat + 1 = breaker.lifecycle.attemptsLeft.toNat ∨
            after.lifecycle.phase = .opened ↔
          breaker.lifecycle.phase = .closed)) ∧
    (breaker.lifecycle.phase = .opened →
      ∃ after, breaker.requestClose now = .ok after ∧
        ∀ actions, Throughout act Unaided after actions →
          breaker.lifecycle.recovery.attemptBudget.toNat < tally act meetsTrip after actions →
          (after.run actions).lifecycle.phase = .opened) := by
  have session := reachable.inSession
  constructor
  · intro closing tripped
    obtain ⟨after, accepted, ⟨_, other, _⟩ | ⟨reacts, _⟩⟩ :=
      session.handleInput (.switchChanged false) now
    · cases other
    refine ⟨after, accepted, ?_⟩
    constructor
    · intro taken
      rcases closing with closeWait | closed
      · -- The table drops the report: the machine is as it was.
        have dropped : breaker.lifecycle.transition breaker.clock .switchOpened breaker.switch now =
            (breaker.lifecycle, breaker.switch) := by
          simp [Lifecycle.transition, closeWait]
        rw [reacts.attemptsLeft session, reacts.phase, Input.event,
          session.ready.respond_of_ne _ _ _ _ (by simp), dropped, closeWait] at taken
        rcases taken with fewer | opened
        · simp at fewer
        · cases opened
      · exact closed
    · intro closed
      exact attempts_of_trip session reacts closed tripped
  · intro opened
    obtain ⟨after, accepted, ⟨_, _, closed⟩ | ⟨reacts, _⟩⟩ := session.handleInput .closeRequest now
    · simp [opened] at closed
    refine ⟨after, accepted, fun actions unaided more => ?_⟩
    have granted : after.lifecycle.attemptsLeft = breaker.lifecycle.recovery.attemptBudget := by
      rw [reacts.attemptsLeft session, Input.event, Lifecycle.attemptsLeft_transition,
        if_pos (.inl ⟨opened, rfl⟩)]
    rcases attempts_of_run (reacts.inSession session) actions unaided with opened | bounded
    · exact opened
    · rw [granted] at bounded
      omega

open Bench

def trip : BenchAction := .adjust (.surroundings (·.trip .hardwareOvercurrent) id id id)

def oneAttempt (actions : List BenchAction) : BenchBreaker :=
  (bench {} {}).history
    (session (.adjust (.recovery { enabled := true, attempts := 1 }) :: actions))

/-- A close on an AC supply, up to the crossing that commands the switch. -/
def closingOnAc : List BenchAction :=
  [.input .closeRequest 0, .input .zeroCrossing 20000, .input .zeroCrossing 30000,
    .input .zeroCrossing 40000, .input .zeroCrossing 50000, .poll 200000,
    .input .zeroCrossing 210000]

/-- A trip reported before the close is, and the crossing that commands the switch again. -/
def earlyTrip : List BenchAction :=
  [trip, .input (.switchChanged false) 211000, .input .zeroCrossing 220000]

/-- One attempt is granted, and two trips follow, each on an accepted command. Neither
takes the attempt, and the breaker is not opened. -/
theorem bound_escaped :
    (oneAttempt []).lifecycle.phase = .opened ∧
      (oneAttempt []).lifecycle.recovery.attemptBudget = 1 ∧
      ((oneAttempt []).journal closingOnAc).head? = some (.turnedOn none) ∧
      ((oneAttempt []).journal (closingOnAc ++ earlyTrip)).head? = some (.turnedOn none) ∧
      ((oneAttempt []).run (closingOnAc ++ earlyTrip ++ earlyTrip)).lifecycle.phase =
        .closeWait ∧
      ((oneAttempt []).run (closingOnAc ++ earlyTrip ++ earlyTrip)).lifecycle.attemptsLeft =
        1 := by
  decide +kernel

/-- A trip of a closed breaker that grants one attempt, and two such trips after one close. -/
theorem recovery_bound_closed :
    (∃ after, (oneAttempt (closed ++ [trip])).handleInput (.switchChanged false) 300000 =
        .ok after ∧
      (after.lifecycle.attemptsLeft.toNat + 1 = 1 ∨ after.lifecycle.phase = .opened)) ∧
    ∃ after, (oneAttempt []).requestClose 0 = .ok after ∧
      (after.run [.poll 200000, .input (.switchChanged true) 200000, trip,
        .input (.switchChanged false) 300000, .poll 1300000,
        .input (.switchChanged true) 1300000, trip,
        .input (.switchChanged false) 1400000]).lifecycle.phase = .opened := by
  have tripped : (oneAttempt (closed ++ [trip])).Reachable :=
    ⟨by decide +kernel, _, _, _, _, _, _, rfl⟩
  have opened : (oneAttempt []).Reachable := ⟨by decide +kernel, _, _, _, _, _, _, rfl⟩
  constructor
  · obtain ⟨after, accepted, taken⟩ := (recovery_bound tripped 300000).1
      (.inr (by decide +kernel)) (by decide +kernel)
    refine ⟨after, accepted, ?_⟩
    have left : (oneAttempt (closed ++ [trip])).lifecycle.attemptsLeft.toNat = 1 := by
      decide +kernel
    rw [left] at taken
    exact taken.2 (by decide +kernel)
  · obtain ⟨after, accepted, opens⟩ := (recovery_bound opened 0).2 (by decide +kernel)
    refine ⟨after, accepted, ?_⟩
    have same : after = (oneAttempt []).act (.input .closeRequest 0) := by
      simp [act, handleInput, accepted, afterCall]
    rw [same] at opens ⊢
    exact opens _ (by decide +kernel) (by decide +kernel)

end CircuitBreaker.Breaker
