import CircuitBreaker.Proofs.Announcements
import CircuitBreaker.Proofs.LifecycleRun
import CircuitBreaker.Proofs.RecoveryBound

/-!
# The ledger of attempts

The attempts left never exceed the budget in force. Between two grants every reclose after an
over-current trip is paid for with one of them, and a trip that finds none left is final.
-/

set_option autoImplicit false

namespace CircuitBreaker

namespace Lifecycle

variable (machine : Lifecycle) {σ : Type} [SwitchDriver σ] (clock : Clock) (event : Event)
  (switch : σ) (now : Nat)

/-!
## The budget in force
-/

/-- No event changes the settings of the recovery. -/
theorem recovery_transition :
    (machine.transition clock event switch now).1.recovery = machine.recovery := by
  cases phase : machine.phase with
  | undefined => simp [transition_of_undefined, phase]
  | opened => cases event <;> simp [transition, phase, beginClose]
  | supplyWait =>
      cases event with
      | supplyTimerExpired =>
          obtain ⟨acSupply, filter, reason, same, _⟩ := classifySupply_machine machine switch
          simp [transition, phase, same]
      | _ => simp [transition, phase, abortClose, settleOpened, countCrossing]
  | closeWait => cases event <;> simp [transition, phase, openOnCommand, enterClosed]
  | closed =>
      simp only [transition_of_closed machine clock event switch now phase, modeEvent_fields]
      cases event <;> simp [closedTransition, openOnCommand, openOnDuration, replenish]
  | openWait => cases event <;> simp [transition, phase, settleOpened]

theorem recovery_respond :
    (machine.respond clock event switch now).1.recovery = machine.recovery := by
  unfold respond
  split
  · rfl
  · exact recovery_transition machine clock event switch now

def WithinBudget : Prop := machine.attemptsLeft ≤ machine.recovery.attemptBudget

variable {machine}

theorem WithinBudget.transition (within : machine.WithinBudget) :
    (machine.transition clock event switch now).1.WithinBudget := by
  unfold WithinBudget at within ⊢
  rw [recovery_transition, attemptsLeft_transition]
  split
  · exact UInt16.le_refl _
  · split
    · next taken =>
      have fewer := Breaker.toNat_sub_one taken.2.2.2
      rw [UInt16.le_iff_toNat_le] at within ⊢
      omega
    · exact within

theorem Reachable.withinBudget {clock : Clock} (reachable : machine.Reachable σ clock) :
    machine.WithinBudget := by
  refine reachable.keeps ?_ (fun recovery modulation => UInt16.zero_le)
  intro machine call other within
  cases call with
  | start switch => exact UInt16.le_refl _
  | stop => exact within
  | handle event switch now =>
      rcases step_handle machine event switch now with same | ⟨_, moved⟩
      · rw [same]
        exact within
      · rw [moved]
        exact within.transition clock event switch now
  | pollTimers switch now => exact absurd rfl (other switch now)
  | takeExpired now => exact within
  | takeNotice => exact within
  | configure settings =>
      simp only [Lifecycle.step, configure]
      cases settings.validate with
      | error error => exact within
      | ok settings =>
          unfold WithinBudget
          dsimp only
          split
          · exact UInt16.le_refl _
          · next smaller => exact UInt16.not_lt.mp smaller
  | configureModulation settings =>
      simp only [Lifecycle.step, configureModulation]
      cases machine.modulation.configure settings <;> exact within

/-- An over-current trip that finds no attempt left comes to rest open. -/
theorem transition_last_trip (closed : machine.phase = .closed)
    (tripped : SwitchDriver.cause switch = .hardwareOvercurrent)
    (spent : machine.attemptsLeft = 0) :
    (machine.transition clock .switchOpened switch now).1.phase = .opened ∧
      (machine.transition clock .switchOpened switch now).1.reason = .overCurrentHardware := by
  have opening : machine.closedTransition clock .switchOpened switch now =
      (({ machine with timers := machine.timers.cancel .recoveryReset }.adoptCause
        .hardwareOvercurrent).settleOpened, switch) := by
    simp [closedTransition, handleOpening, tripped, spent]
  have left : (machine.closedTransition clock .switchOpened switch now).1.phase ≠ .closed := by
    rw [opening]
    simp
  rw [transition_of_closed_left machine clock _ switch now closed left, opening]
  exact ⟨rfl, rfl⟩

end Lifecycle

namespace Application

variable {σ ζ μ κ : Type}

/-- The event gives the whole budget: a close that is accepted, or the end of the reset timer
while closed. -/
def Grants (application : Application σ ζ μ κ) : Prop :=
  application.before.lifecycle.phase = .opened ∧ application.event = .closeCommand ∨
    application.before.lifecycle.phase = .closed ∧
      application.event = .recoveryResetTimerExpired

instance (application : Application σ ζ μ κ) : Decidable application.Grants :=
  inferInstanceAs (Decidable (_ ∨ _))

/-- The event is an over-current trip of a closed breaker, which goes back to closing. -/
def recloses [SwitchDriver σ] (application : Application σ ζ μ κ) : Bool :=
  application.event = .switchOpened ∧
    SwitchDriver.cause application.before.switch = .hardwareOvercurrent ∧
    application.before.lifecycle.phase = .closed ∧
    application.after.lifecycle.phase = .closeWait

end Application

namespace Breaker

variable {σ ζ μ κ : Type} [SwitchDriver σ]

theorem Reacts.recovery {before after : Breaker σ ζ μ κ} {event : Event} {now : Nat}
    (reacts : before.Reacts event now after) :
    after.lifecycle.recovery = before.lifecycle.recovery := by
  rw [reacts.lifecycle]
  exact Lifecycle.recovery_respond before.lifecycle before.clock event before.switch now

/-!
## Paying for recloses
-/

theorem ledger_of_event {application : Application σ ζ μ κ}
    (session : application.before.InSession)
    (applied : application.before.apply application.event application.now = .ok application.after)
    (ungranted : ¬ application.Grants) :
    application.recloses.toNat + application.after.lifecycle.attemptsLeft.toNat =
      application.before.lifecycle.attemptsLeft.toNat := by
  obtain ⟨before, event, now, after⟩ := application
  unfold Application.Grants at ungranted
  dsimp only at session applied ungranted ⊢
  have reacts := session.reacts applied
  rw [reacts.attemptsLeft session, Lifecycle.attemptsLeft_transition, if_neg ungranted]
  by_cases trip : before.lifecycle.phase = .closed ∧ event = .switchOpened ∧
      SwitchDriver.cause before.switch = .hardwareOvercurrent
  · obtain ⟨closed, rfl, tripped⟩ := trip
    have moved : after.lifecycle.phase =
        if 0 < before.lifecycle.attemptsLeft then .closeWait else .opened := by
      rw [reacts.phase, session.ready.respond_of_ne _ _ _ _ (by simp),
        Lifecycle.transition_trip_of_closed _ _ _ _ closed tripped]
    by_cases left : 0 < before.lifecycle.attemptsLeft
    · have paid := toNat_sub_one left
      simp [Application.recloses, closed, tripped, moved, left]
      omega
    · simp [Application.recloses, closed, tripped, moved, left]
  · have stays : Application.recloses ⟨before, event, now, after⟩ = false := by
      rw [← Bool.not_eq_true]
      intro recloses
      simp only [Application.recloses, decide_eq_true_eq] at recloses
      exact trip ⟨recloses.2.2.1, recloses.1, recloses.2.1⟩
    have untaken : ¬ (before.lifecycle.phase = .closed ∧ event = .switchOpened ∧
        SwitchDriver.cause before.switch = .hardwareOvercurrent ∧
          0 < before.lifecycle.attemptsLeft) :=
      fun taken => trip ⟨taken.1, taken.2.1, taken.2.2.1⟩
    rw [stays, if_neg untaken, Bool.toNat_false, Nat.zero_add]

private theorem countP_cons_toNat (application : Application σ ζ μ κ)
    (trail : List (Application σ ζ μ κ)) :
    (application :: trail).countP Application.recloses =
      application.recloses.toNat + trail.countP Application.recloses := by
  rw [List.countP_cons, Nat.add_comm]
  cases application.recloses <;> rfl

private theorem ledger_of_course {action : Action σ ζ μ κ} {now : Nat}
    {breaker final : Breaker σ ζ μ κ} {trail : List (Application σ ζ μ κ)}
    (course : Course action now breaker trail final) (session : breaker.InSession)
    (ungranted : ∀ application ∈ trail, ¬ application.Grants) :
    trail.countP Application.recloses + final.lifecycle.attemptsLeft.toNat =
      breaker.lifecycle.attemptsLeft.toNat := by
  induction course with
  | rest breaker => simp
  | aside monitor lastSeen later ih => exact ih ⟨session.initialized, session.ready⟩ ungranted
  | raise raised applied later ih =>
      obtain ⟨first, ungranted⟩ := List.forall_mem_cons.mp ungranted
      have paid := ledger_of_event session applied first
      have rest := ih (session.applied applied) ungranted
      rw [countP_cons_toNat]
      dsimp only at paid
      omega
  | @expire before after final trail timer polling due applied later ih =>
      have inside := session.disarm timer
      obtain ⟨first, ungranted⟩ := List.forall_mem_cons.mp ungranted
      have paid := ledger_of_event inside applied first
      have rest := ih (inside.applied applied) ungranted
      have same :
          (before.disarm timer).lifecycle.attemptsLeft = before.lifecycle.attemptsLeft := rfl
      rw [countP_cons_toNat]
      dsimp only at paid
      rw [same] at paid
      omega

private theorem attempts_of_adjust [RecordStore κ] (breaker : Breaker σ ζ μ κ)
    (adjustment : Adjustment σ ζ μ κ) (other : ∀ settings, adjustment ≠ .recovery settings) :
    (breaker.adjust adjustment).lifecycle.attemptsLeft = breaker.lifecycle.attemptsLeft := by
  obtain ⟨modulation, same⟩ := lifecycle_adjust_of_ne adjustment breaker other
  rw [same]

variable [Mains ζ] [Meter μ] [RecordStore κ]

private theorem ledger_of_step {breaker : Breaker σ ζ μ κ}
    (known : breaker.initialized = true → breaker.InSession) (step : Step σ ζ μ κ)
    (going : ∀ now, step ≠ .init now)
    (ungranted : ∀ application ∈ breaker.applied step, ¬ application.Grants) :
    (breaker.applied step).countP Application.recloses +
        (breaker.step step).lifecycle.attemptsLeft.toNat ≤
          breaker.lifecycle.attemptsLeft.toNat ∧
      ((∀ settings, step ≠ .act (.adjust (.recovery settings))) →
        (breaker.applied step).countP Application.recloses +
            (breaker.step step).lifecycle.attemptsLeft.toNat =
          breaker.lifecycle.attemptsLeft.toNat) := by
  have taken := step_taken known step
  generalize breaker.applied step = trail at taken ungranted ⊢
  generalize breaker.step step = after at taken ⊢
  cases taken with
  | idle => simp
  | adjust adjustment =>
      have fewer := (adjust_adjusted adjustment breaker).attemptsLeft
      rw [List.countP_nil, Nat.zero_add]
      refine ⟨UInt16.le_iff_toNat_le.mp fewer, fun unset => ?_⟩
      rw [attempts_of_adjust breaker adjustment]
      rintro settings rfl
      exact unset settings rfl
  | begun now fresh => exact absurd rfl (going now)
  | ended session => simp [ended, Lifecycle.stop]
  | course session action now events =>
      have paid := ledger_of_course events session ungranted
      exact ⟨Nat.le_of_eq paid, fun _ => paid⟩

private theorem ledger_along {breaker : Breaker σ ζ μ κ}
    (known : breaker.initialized = true → breaker.InSession) (steps : List (Step σ ζ μ κ))
    (going : ∀ step ∈ steps, ∀ now, step ≠ .init now)
    (ungranted : ∀ application ∈ breaker.appliedAlong steps, ¬ application.Grants) :
    (breaker.appliedAlong steps).countP Application.recloses +
        (breaker.history steps).lifecycle.attemptsLeft.toNat ≤
          breaker.lifecycle.attemptsLeft.toNat ∧
      ((∀ settings, .act (.adjust (.recovery settings)) ∉ steps) →
        (breaker.appliedAlong steps).countP Application.recloses +
            (breaker.history steps).lifecycle.attemptsLeft.toNat =
          breaker.lifecycle.attemptsLeft.toNat) := by
  induction steps generalizing breaker with
  | nil => simp [appliedAlong, history]
  | cons step rest ih =>
      rw [appliedAlong] at ungranted ⊢
      obtain ⟨now, later⟩ := List.forall_mem_append.mp ungranted
      obtain ⟨begins, going⟩ := List.forall_mem_cons.mp going
      obtain ⟨fewer, same⟩ := ledger_of_step known step begins now
      obtain ⟨fewerLater, sameLater⟩ := ih (step_inSession known step) going later
      rw [List.countP_append]
      rw [history, List.foldl_cons]
      rw [history] at fewerLater sameLater
      refine ⟨by omega, fun unset => ?_⟩
      have first := same fun settings recovers =>
        unset settings (recovers ▸ List.mem_cons_self)
      have others := sameLater fun settings member =>
        unset settings (List.mem_cons_of_mem _ member)
      omega

/-- What a trip does that finds a closed breaker without attempts. -/
private theorem last_trip {breaker : Breaker σ ζ μ κ} (reachable : breaker.Reachable) (now : Nat)
    (closed : breaker.lifecycle.phase = .closed) (spent : breaker.lifecycle.attemptsLeft = 0)
    (tripped : SwitchDriver.cause breaker.switch = .hardwareOvercurrent) :
    ∃ after, breaker.handleInput (.switchChanged false) now = .ok after ∧
      after.lifecycle.phase = .opened ∧ after.lifecycle.reason = .overCurrentHardware ∧
      announced (breaker.applied (.act (.input (.switchChanged false) now))) =
        [⟨.opened, .overCurrentHardware⟩] ∧
      after.pending = some ⟨.opened, .overCurrentHardware⟩ ∧
      breaker.log.Grew after.log [.overCurrentHardware] := by
  have session := reachable.inSession
  obtain ⟨after, applied, reacts, _⟩ := session.apply .switchOpened now
  obtain ⟨opened, reason⟩ := Lifecycle.transition_last_trip breaker.clock breaker.switch now closed
    tripped spent
  have answer := session.ready.respond_of_ne breaker.clock .switchOpened breaker.switch now
    (by simp)
  have phase : after.lifecycle.phase = .opened := by rw [reacts.lifecycle, answer, opened]
  have found : after.lifecycle.reason = .overCurrentHardware := by
    rw [reacts.lifecycle, answer, reason]
  have trail : breaker.applied (.act (.input (.switchChanged false) now)) =
      [⟨breaker, .switchOpened, now, after⟩] := by
    simp [Breaker.applied, appliedInput, appliedEvent, Input.event, applied]
  have noticed : Application.notice? ⟨breaker, .switchOpened, now, after⟩ =
      some ⟨.opened, .overCurrentHardware⟩ := by
    have trips : breaker.lifecycle.Trips after.lifecycle :=
      ⟨by simp [closed], phase, by simp [found, Reason.isProtective]⟩
    have cause : after.cause = .overCurrentHardware := by
      simp [Breaker.cause, reacts.initialized, session.initialized, found]
    simp [Application.notice?, trips, cause]
  have told : announced (breaker.applied (.act (.input (.switchChanged false) now))) =
      [⟨.opened, .overCurrentHardware⟩] := by
    rw [trail]
    simp [announced, noticed]
  have stepped : breaker.step (.act (.input (.switchChanged false) now)) = after := by
    simp [Breaker.step, act, handleInput, applied, afterCall]
  obtain ⟨_, _, log, pending⟩ := step_announces (fun _ => session) reachable.silent
    (.act (.input (.switchChanged false) now))
  rw [told, stepped] at log pending
  exact ⟨after, applied, phase, found, told, pending trivial, log⟩

/-- In every state of a lifecycle the attempts left are within the budget in force. Until a close
or the reset timer grants the budget again, the recloses of a breaker and the attempts left
never add up to more than the attempts at the start, and to no less unless the recovery is set.
A trip that finds no attempt left opens the breaker and is announced once. -/
theorem recovery_ledger {breaker : Breaker σ ζ μ κ} (reachable : breaker.Reachable)
    (steps : List (Step σ ζ μ κ)) (now : Nat) :
    (∀ clock (machine : Lifecycle), machine.Reachable σ clock → machine.WithinBudget) ∧
    breaker.lifecycle.WithinBudget ∧
    ((∀ step ∈ steps, ∀ now, step ≠ .init now) →
      (∀ application ∈ breaker.appliedAlong steps, ¬ application.Grants) →
      (breaker.appliedAlong steps).countP Application.recloses +
          (breaker.history steps).lifecycle.attemptsLeft.toNat ≤
            breaker.lifecycle.attemptsLeft.toNat ∧
        ((∀ settings, .act (.adjust (.recovery settings)) ∉ steps) →
          (breaker.appliedAlong steps).countP Application.recloses +
              (breaker.history steps).lifecycle.attemptsLeft.toNat =
            breaker.lifecycle.attemptsLeft.toNat)) ∧
    (breaker.lifecycle.phase = .closed → breaker.lifecycle.attemptsLeft = 0 →
      SwitchDriver.cause breaker.switch = .hardwareOvercurrent →
      ∃ after, breaker.handleInput (.switchChanged false) now = .ok after ∧
        after.lifecycle.phase = .opened ∧ after.lifecycle.reason = .overCurrentHardware ∧
        announced (breaker.applied (.act (.input (.switchChanged false) now))) =
          [⟨.opened, .overCurrentHardware⟩] ∧
        after.pending = some ⟨.opened, .overCurrentHardware⟩ ∧
        breaker.log.Grew after.log [.overCurrentHardware]) := by
  have owned : ∃ clock, breaker.lifecycle.Reachable σ clock := by
    obtain ⟨_, clock, switch, mains, meter, store, earlier, rfl⟩ := reachable
    exact ⟨clock, (owns_history clock switch mains meter store earlier).reachable⟩
  obtain ⟨clock, machine⟩ := owned
  refine ⟨fun _ _ reached => reached.withinBudget, machine.withinBudget, ?_, ?_⟩
  · intro going ungranted
    exact ledger_along (fun _ => reachable.inSession) steps going ungranted
  · intro closed spent tripped
    exact last_trip reachable now closed spent tripped

open Bench

/-- Two over-current trips of a breaker that has been closed with one attempt: the first one is
reported and the switch closes again, the second one is not reported yet. -/
def spending : List BenchStep :=
  [.act trip, .act (.input (.switchChanged false) 300000), .act (.poll 1300000),
    .act (.input (.switchChanged true) 1300000), .act trip]

/-- The first trip is paid for with the attempt; the second one opens the breaker. -/
theorem recovery_ledger_spending :
    ((oneAttempt closed).appliedAlong spending).countP Application.recloses +
        ((oneAttempt closed).history spending).lifecycle.attemptsLeft.toNat = 1 ∧
      ∃ after, ((oneAttempt closed).history spending).handleInput (.switchChanged false) 1400000 =
          .ok after ∧
        after.lifecycle.phase = .opened ∧
        after.pending = some ⟨.opened, .overCurrentHardware⟩ := by
  have start : (oneAttempt closed).Reachable := ⟨by decide +kernel, _, _, _, _, _, _, rfl⟩
  have spent : ((oneAttempt closed).history spending).Reachable :=
    start.history spending (by decide +kernel)
  constructor
  · have paid := ((recovery_ledger start spending 0).2.2.1 (by simp [spending, trip])
      (by decide +kernel)).2 (by simp [spending, trip])
    rw [paid]
    decide +kernel
  · obtain ⟨after, accepted, opened, _, _, pending, _⟩ := (recovery_ledger spent [] 1400000).2.2.2
      (by decide +kernel) (by decide +kernel) (by decide +kernel)
    exact ⟨after, accepted, opened, pending⟩

end Breaker

end CircuitBreaker
