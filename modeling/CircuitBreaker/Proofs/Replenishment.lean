import CircuitBreaker.Proofs.Crossings
import CircuitBreaker.Proofs.Ledger
import Mathlib.Data.List.Perm.Subperm

/-!
# The way back of spent attempts

A breaker that closes with spent attempts arms the reset timer, which gives them back. An opening
that the closed breaker ignores, as it does with those of the modulation cycle, disarms the timer
all the same. Where that happens the attempts stay away; nothing else keeps them.
-/

set_option autoImplicit false

namespace CircuitBreaker

namespace TimerBank

def dueCount (bank : TimerBank) (now : Nat) : Nat := TimerId.all.countP (bank.isDue now)

theorem isDue_of_deadline {before after : TimerBank} {now : Nat} {timer : TimerId}
    (kept : after.deadline timer = none ∨ after.deadline timer = before.deadline timer)
    (due : after.isDue now timer = true) : before.isDue now timer = true := by
  unfold isDue at due ⊢
  rcases kept with disarmed | same
  · rw [disarmed] at due
    cases due
  · rw [same] at due
    exact due

theorem dueCount_of_firstDue {bank : TimerBank} {now : Nat} (none : bank.firstDue now = .none) :
    bank.dueCount now = 0 := by
  unfold firstDue at none
  split at none
  · next due => rw [dueCount, List.countP_eq_length_filter, due, List.length_nil]
  · cases none

/-- A timer that fires leaves fewer timers due, if its event arms none. -/
theorem dueCount_lt {before after : TimerBank} {now : Nat} {timer : TimerId}
    (kept : ∀ other, after.deadline other = none ∨
      after.deadline other = (before.cancel timer).deadline other)
    (due : before.isDue now timer = true) : after.dueCount now < before.dueCount now := by
  have member : timer ∈ TimerId.all.filter (before.isDue now) :=
    List.mem_filter.mpr ⟨timer.mem_all, due⟩
  have fewer : TimerId.all.filter (after.isDue now) ⊆
      (TimerId.all.filter (before.isDue now)).erase timer := by
    intro other still
    have cancelled := isDue_of_deadline (kept other) (List.mem_filter.mp still).2
    have different : other ≠ timer := by
      rintro rfl
      simp [isDue] at cancelled
    have waiting : before.isDue now other = true := by
      refine isDue_of_deadline (.inr ?_) cancelled
      rw [deadline_cancel, if_neg different]
    exact (List.mem_erase_of_ne different).mpr (List.mem_filter.mpr ⟨other.mem_all, waiting⟩)
  have once : TimerId.all.Nodup := by decide
  have shorter := (List.Nodup.subperm (once.filter _) fewer).length_le
  have positive := List.length_pos_of_mem member
  rw [List.length_erase_of_mem member] at shorter
  rw [dueCount, dueCount, List.countP_eq_length_filter, List.countP_eq_length_filter]
  omega

end TimerBank

namespace Lifecycle

variable (machine : Lifecycle) {σ : Type} [SwitchDriver σ] (clock : Clock) (event : Event)
  (switch : σ) (now : Nat)

/-!
## The timers
-/

theorem closed_of_modeEvent (closed : (machine.modeEvent event switch).1.phase = .closed) :
    machine.phase = .closed := by
  obtain ⟨phase, reason, activeMode, modulation, same, kept | kept⟩ :=
    modeEvent_machine machine switch event
  · rw [same] at closed
    rw [← kept]
    exact closed
  · rw [same] at closed
    rw [kept] at closed
    cases closed

theorem timers_transition_timer (timer other : TimerId) :
    (machine.transition clock timer.event switch now).1.timers.deadline other = none ∨
      (machine.transition clock timer.event switch now).1.timers.deadline other =
        machine.timers.deadline other := by
  cases phase : machine.phase with
  | supplyWait =>
      right
      cases timer with
      | supplyDetect =>
          obtain ⟨acSupply, filter, reason, same, _⟩ := classifySupply_machine machine switch
          simp [transition, phase, TimerId.event, same]
      | _ => simp [transition, phase, TimerId.event]
  | closeWait =>
      cases timer with
      | recovery =>
          by_cases fired : other = .recovery
          · simp [transition, phase, TimerId.event, fired]
          · simp [transition, phase, TimerId.event, fired]
      | _ => simp [transition, phase, TimerId.event]
  | closed =>
      right
      simp only [transition_of_closed machine clock _ switch now phase, modeEvent_fields]
      cases timer <;> simp [closedTransition, TimerId.event, replenish]
  | _ => cases timer <;> simp [transition, phase, TimerId.event]

/-!
## Coming to `closed` and staying there
-/

/-- Only the report of the switch in `closeWait` leads to `closed`. -/
theorem transition_enters_closed (other : machine.phase ≠ .closed)
    (closed : (machine.transition clock event switch now).1.phase = .closed) :
    machine.phase = .closeWait ∧ event = .switchClosed := by
  cases phase : machine.phase with
  | closed => exact absurd phase other
  | closeWait =>
      refine ⟨rfl, ?_⟩
      cases event with
      | switchClosed => rfl
      | openCommand =>
          simp only [transition, phase] at closed
          exact absurd closed (openOnCommand_isOpening machine switch).ne_closed
      | _ => simp [transition, phase] at closed
  | supplyWait =>
      cases event with
      | supplyTimerExpired =>
          obtain ⟨acSupply, filter, reason, same, _⟩ := classifySupply_machine machine switch
          simp [transition, phase, same] at closed
      | _ => simp [transition, phase, abortClose, countCrossing] at closed
  | _ => cases event <;> simp [transition, phase, beginClose] at closed

/-- An event that leaves a machine closed leaves its timers alone, unless it is an opening that
was commanded. -/
theorem transition_stays_closed (closed : machine.phase = .closed)
    (still : (machine.transition clock event switch now).1.phase = .closed) :
    event = .switchOpened ∧ SwitchDriver.cause switch = .external ∧
        (machine.transition clock event switch now).1.timers =
          machine.timers.cancel .recoveryReset ∨
      event ≠ .switchOpened ∧
        (machine.transition clock event switch now).1.timers = machine.timers := by
  rw [transition_of_closed machine clock event switch now closed] at still ⊢
  simp only [modeEvent_fields]
  have stayed := closed_of_modeEvent _ _ _ still
  cases event with
  | switchOpened =>
      left
      refine ⟨rfl, ?_⟩
      simp only [closedTransition, handleOpening] at stayed ⊢
      split at stayed
      · next external => exact ⟨external, rfl⟩
      · split at stayed <;> cases stayed
      · cases stayed
  | openCommand => exact absurd stayed (openOnCommand_isOpening machine switch).ne_closed
  | overCurrentDuration => exact absurd stayed (openOnDuration_isOpening machine switch).ne_closed
  | _ => exact .inr ⟨by simp, rfl⟩

/-!
## Waiting for the attempts
-/

/-- Closed, with attempts that are not available. -/
def IsSpent : Prop :=
  machine.phase = .closed ∧ machine.attemptsLeft < machine.recovery.attemptBudget

/-- A closed machine with spent attempts has the reset timer armed, by the close at the given
instant. -/
def AwaitsReset (closedAt : Option Nat) : Prop :=
  machine.IsSpent → ∃ instant, closedAt = some instant ∧
    machine.timers.deadline .recoveryReset =
      some (clock.after instant machine.recovery.resetTimeout)

/-- The machine ignores an opening while it waits for its attempts. -/
def IgnoresOpening (after : Lifecycle) : Prop :=
  event = .switchOpened ∧ SwitchDriver.cause switch = .external ∧ machine.IsSpent ∧
    after.phase = .closed

instance : Decidable machine.IsSpent := inferInstanceAs (Decidable (_ ∧ _))

instance (after : Lifecycle) : Decidable (machine.IgnoresOpening event switch after) :=
  inferInstanceAs (Decidable (_ ∧ _))

variable {machine} {closedAt : Option Nat}

theorem AwaitsReset.disarm (held : machine.AwaitsReset clock closedAt) {timer : TimerId}
    (other : timer.event ≠ .recoveryResetTimerExpired) :
    { machine with timers := machine.timers.cancel timer }.AwaitsReset clock closedAt := by
  intro spent
  obtain ⟨instant, closed, armed⟩ := held spent
  refine ⟨instant, closed, ?_⟩
  have different : TimerId.recoveryReset ≠ timer := by
    rintro rfl
    exact other rfl
  rw [TimerBank.deadline_cancel, if_neg different]
  exact armed

theorem AwaitsReset.transition
    (held : event ≠ .recoveryResetTimerExpired → machine.AwaitsReset clock closedAt)
    (heeded : ¬ machine.IgnoresOpening event switch
      (machine.transition clock event switch now).1) :
    (machine.transition clock event switch now).1.AwaitsReset clock
      (if machine.phase ≠ .closed ∧
          (machine.transition clock event switch now).1.phase = .closed then some now
        else closedAt) := by
  intro spent
  obtain ⟨closed, fewer⟩ := spent
  rw [recovery_transition, attemptsLeft_transition] at fewer
  rw [recovery_transition]
  by_cases before : machine.phase = .closed
  · rw [if_neg (fun entered => entered.1 before)]
    have kept : ¬ (event = .switchOpened ∧
        SwitchDriver.cause switch = .hardwareOvercurrent) := by
      rintro ⟨rfl, tripped⟩
      rcases transition_stays_closed machine clock _ switch now before closed with
        ⟨_, external, _⟩ | ⟨other, _⟩
      · cases tripped.symm.trans external
      · exact other rfl
    have unreset : event ≠ .recoveryResetTimerExpired := by
      rintro rfl
      rw [if_pos (.inr ⟨before, rfl⟩)] at fewer
      exact absurd fewer (UInt16.lt_irrefl _)
    have spent : machine.IsSpent := by
      rw [if_neg, if_neg] at fewer
      · exact ⟨before, fewer⟩
      · exact fun taken => kept ⟨taken.2.1, taken.2.2.1⟩
      · rintro (⟨opened, _⟩ | ⟨_, reset⟩)
        · cases before.symm.trans opened
        · exact unreset reset
    rcases transition_stays_closed machine clock event switch now before closed with
      ⟨opening, external, _⟩ | ⟨_, timers⟩
    · exact absurd ⟨opening, external, spent, closed⟩ heeded
    · rw [timers]
      exact held unreset spent
  · rw [if_pos ⟨before, closed⟩]
    obtain ⟨waiting, rfl⟩ := transition_enters_closed machine clock event switch now before closed
    simp only [waiting, reduceCtorEq, false_and, and_false, or_self, ↓reduceIte] at fewer
    refine ⟨now, rfl, ?_⟩
    simp [Lifecycle.transition, waiting, enterClosed, fewer]

theorem AwaitsReset.respond (ready : machine.Ready)
    (held : event ≠ .recoveryResetTimerExpired → machine.AwaitsReset clock closedAt)
    (heeded : ¬ machine.IgnoresOpening event switch (machine.respond clock event switch now).1) :
    (machine.respond clock event switch now).1.AwaitsReset clock
      (if machine.phase ≠ .closed ∧
          (machine.respond clock event switch now).1.phase = .closed then some now
        else closedAt) := by
  by_cases crossing : event = .zeroCrossing
  · subst crossing
    unfold Lifecycle.respond at heeded ⊢
    by_cases ignored : machine.filter.isIgnored .zeroCrossing = true
    · rw [if_pos ignored, if_neg (fun entered => entered.1 entered.2)]
      exact held (by simp)
    · rw [if_neg ignored] at heeded ⊢
      exact AwaitsReset.transition clock _ switch now held heeded
  · rw [ready.respond_of_ne clock event switch now crossing] at heeded ⊢
    exact AwaitsReset.transition clock event switch now held heeded

end Lifecycle

namespace Application

variable {σ ζ μ κ : Type}

def closes (application : Application σ ζ μ κ) : Bool :=
  application.before.lifecycle.phase ≠ .closed ∧ application.after.lifecycle.phase = .closed

def IgnoresOpening [SwitchDriver σ] (application : Application σ ζ μ κ) : Prop :=
  application.before.lifecycle.IgnoresOpening application.event application.before.switch
    application.after.lifecycle

instance [SwitchDriver σ] (application : Application σ ζ μ κ) :
    Decidable application.IgnoresOpening :=
  inferInstanceAs (Decidable (Lifecycle.IgnoresOpening _ _ _ _))

end Application

section Closes

variable {σ ζ μ κ : Type}

def closedAt? (trail : List (Application σ ζ μ κ)) : Option Nat :=
  (trail.filter Application.closes).getLast?.map Application.now

theorem closedAt?_append (first second : List (Application σ ζ μ κ)) :
    closedAt? (first ++ second) = (closedAt? second).or (closedAt? first) := by
  unfold closedAt?
  rw [List.filter_append, List.getLast?_append]
  cases (second.filter Application.closes).getLast? <;> rfl

theorem closedAt?_cons (application : Application σ ζ μ κ) (trail : List (Application σ ζ μ κ))
    (earlier : Option Nat) :
    (closedAt? (application :: trail)).or earlier =
      (closedAt? trail).or (if application.closes then some application.now else earlier) := by
  rw [← List.singleton_append, closedAt?_append, Option.or_assoc]
  cases closes : application.closes <;> simp [closedAt?, closes]

end Closes

namespace Breaker

variable {σ ζ μ κ : Type} [SwitchDriver σ]

/-!
## Along the events of a session
-/

private theorem awaitsReset_apply {application : Application σ ζ μ κ} {earlier : Option Nat}
    (session : application.before.InSession)
    (applied : application.before.apply application.event application.now = .ok application.after)
    (held : application.event ≠ .recoveryResetTimerExpired →
      application.before.lifecycle.AwaitsReset application.before.clock earlier)
    (heeded : ¬ application.IgnoresOpening) :
    application.after.lifecycle.AwaitsReset application.after.clock
      (if application.closes then some application.now else earlier) := by
  obtain ⟨before, event, now, after⟩ := application
  dsimp only at session applied held ⊢
  have reacts := session.reacts applied
  have answered := Lifecycle.AwaitsReset.respond before.clock event before.switch now session.ready
    held (by
      intro ignored
      apply heeded
      unfold Application.IgnoresOpening
      rw [reacts.lifecycle]
      exact ignored)
  simp only [Application.closes, decide_eq_true_eq]
  rw [reacts.clock, reacts.lifecycle]
  exact answered

private theorem awaitsReset_course {action : Action σ ζ μ κ} {now : Nat}
    {breaker final : Breaker σ ζ μ κ} {trail : List (Application σ ζ μ κ)} {earlier : Option Nat}
    (course : Course action now breaker trail final) (session : breaker.InSession)
    (held : breaker.lifecycle.AwaitsReset breaker.clock earlier)
    (heeded : ∀ application ∈ trail, ¬ application.IgnoresOpening) :
    final.lifecycle.AwaitsReset final.clock ((closedAt? trail).or earlier) := by
  induction course generalizing earlier with
  | rest breaker => exact held
  | aside monitor lastSeen later ih => exact ih ⟨session.initialized, session.ready⟩ held heeded
  | raise raised applied later ih =>
      obtain ⟨first, heeded⟩ := List.forall_mem_cons.mp heeded
      rw [closedAt?_cons]
      exact ih (session.applied applied) (awaitsReset_apply session applied (fun _ => held) first)
        heeded
  | @expire before after final trail timer polling due applied later ih =>
      obtain ⟨first, heeded⟩ := List.forall_mem_cons.mp heeded
      have inside := session.disarm timer
      rw [closedAt?_cons]
      exact ih (inside.applied applied)
        (awaitsReset_apply inside applied (fun other => held.disarm _ other) first) heeded

section Sessions

variable [Meter μ] [RecordStore κ]

private theorem awaitsReset_act {breaker : Breaker σ ζ μ κ} {earlier : Option Nat}
    (session : breaker.InSession) (held : breaker.lifecycle.AwaitsReset breaker.clock earlier)
    (action : Action σ ζ μ κ) (unset : ∀ settings, action ≠ .adjust (.recovery settings))
    (heeded : ∀ application ∈ breaker.applied (.act action), ¬ application.IgnoresOpening) :
    (breaker.act action).lifecycle.AwaitsReset (breaker.act action).clock
      ((closedAt? (breaker.applied (.act action))).or earlier) := by
  rcases session.course action with ⟨adjustment, rfl⟩ | ⟨now, course⟩
  · obtain ⟨modulation, lifecycle⟩ := lifecycle_adjust_of_ne adjustment breaker (by
      rintro settings rfl
      exact unset settings rfl)
    have clock : (breaker.adjust adjustment).clock = breaker.clock :=
      (adjust_adjusted adjustment breaker).clock
    rw [Breaker.act, lifecycle, clock]
    exact held
  · exact awaitsReset_course course session held heeded

/-!
## Polls
-/

omit [Meter μ] [RecordStore κ] in
theorem InSession.dueCount_lt {breaker after : Breaker σ ζ μ κ} (session : breaker.InSession)
    {now : Nat} {timer : TimerId} (due : breaker.lifecycle.timers.firstDue now = some timer)
    (applied : (breaker.disarm timer).apply timer.event now = .ok after) :
    after.lifecycle.timers.dueCount now < breaker.lifecycle.timers.dueCount now := by
  have inside := session.disarm timer
  refine TimerBank.dueCount_lt ?_ (TimerBank.isDue_of_firstDue due)
  intro other
  have armed := Lifecycle.timers_transition_timer (breaker.disarm timer).lifecycle
    (breaker.disarm timer).clock (breaker.disarm timer).switch now timer other
  rw [(inside.reacts applied).lifecycle,
    inside.ready.respond_of_ne _ _ _ _ (by cases timer <;> simp [TimerId.event])]
  exact armed

omit [Meter μ] [RecordStore κ] in
/-- As many rounds as there are due timers leave none due. -/
theorem InSession.fireTimers_exhausts {breaker : Breaker σ ζ μ κ} (session : breaker.InSession)
    (now rounds : Nat) (enough : breaker.lifecycle.timers.dueCount now ≤ rounds) :
    ∃ fired, breaker.fireTimers now rounds = .ok fired ∧ fired.InSession ∧
      fired.lifecycle.timers.dueCount now = 0 := by
  induction rounds generalizing breaker with
  | zero => exact ⟨breaker, rfl, session, Nat.le_zero.mp enough⟩
  | succ rounds ih =>
      rcases session.fireTimers_succ now rounds with
        ⟨due, firing, _⟩ | ⟨timer, after, due, applied, firing, _⟩
      · exact ⟨breaker, firing, session, TimerBank.dueCount_of_firstDue due⟩
      · have fewer := session.dueCount_lt due applied
        obtain ⟨fired, fires, kept, none⟩ :=
          ih ((session.disarm timer).applied applied) (by omega)
        exact ⟨fired, firing.trans fires, kept, none⟩

omit [Meter μ] [RecordStore κ] in
private theorem opening_of_tick {before after : Breaker σ ζ μ κ} {now : Nat}
    (session : before.InSession) (closed : before.lifecycle.phase = .closed)
    (reacts : before.Reacts .overCurrentDuration now after) :
    after.lifecycle.phase.IsOpening := by
  rw [reacts.phase, session.ready.respond_of_ne _ _ _ _ (by simp)]
  exact Lifecycle.transition_overCurrent_isOpening before.lifecycle before.clock before.switch now
    closed

omit [RecordStore κ] in
private theorem poll_exhausts {breaker after : Breaker σ ζ μ κ} (session : breaker.InSession)
    (now : Nat) (polled : breaker.poll now = .ok after)
    (closed : after.lifecycle.phase = .closed) : after.lifecycle.timers.dueCount now = 0 := by
  obtain ⟨fired, firing, kept, none⟩ :=
    (session.told now).fireTimers_exhausts now TimerId.all.length List.countP_le_length
  rw [session.poll_of_fired firing, runMonitor] at polled
  split at polled
  · rw [← Except.ok.inj polled]
    exact none
  · next point monitor ticks =>
    have reacts := (kept.watch monitor).reacts polled
    have raised : fired.lifecycle.phase = .closed :=
      closed_of_dueTicks (show (fired.dueTicks now).1 = some point by rw [dueTicks, ticks])
    exact absurd closed (opening_of_tick (kept.watch monitor) raised reacts).ne_closed

omit [RecordStore κ] in
private theorem awaitsReset_poll {breaker after : Breaker σ ζ μ κ} {closedAt : Option Nat}
    (session : breaker.InSession) (held : breaker.lifecycle.AwaitsReset breaker.clock closedAt)
    (now : Nat) (polled : breaker.poll now = .ok after) :
    after.lifecycle.AwaitsReset breaker.clock closedAt ∧
      after.lifecycle.recovery = breaker.lifecycle.recovery := by
  obtain ⟨fired, final, accepted, kept, ⟨awaits, clock, recovery⟩, _, outcome⟩ :=
    @InSession.poll _ _ _ _ _ _ _ session now
      (fun middle => middle.lifecycle.AwaitsReset breaker.clock closedAt ∧
        middle.clock = breaker.clock ∧ middle.lifecycle.recovery = breaker.lifecycle.recovery)
      ⟨held, rfl, rfl⟩
      (by
        intro before after timer inside kept _ reacts _
        obtain ⟨awaits, clock, recovery⟩ := kept
        refine ⟨?_, reacts.clock.trans clock, reacts.recovery.trans recovery⟩
        intro spent
        -- No expiry closes a breaker, so this one was closed by the same close.
        obtain ⟨closed, _⟩ := Lifecycle.respond_timer_of_closed _ _ now timer
          (reacts.phase ▸ spent.1)
        have answered := Lifecycle.AwaitsReset.respond breaker.clock timer.event
          (before.disarm timer).switch now (inside.disarm timer).ready
          (fun other => awaits.disarm _ other) (fun ignored => by
            cases timer <;> cases ignored.1)
        rw [if_neg (fun entered => entered.1 closed)] at answered
        have lifecycle := reacts.lifecycle
        rw [show (before.disarm timer).clock = breaker.clock from clock] at lifecycle
        rw [lifecycle] at spent ⊢
        exact answered spent)
  rw [polled] at accepted
  cases accepted
  rcases outcome with ⟨_, rfl⟩ | ⟨_, closed, reacts, _⟩
  · exact ⟨awaits, recovery⟩
  · refine ⟨?_, reacts.recovery.trans recovery⟩
    intro spent
    exact absurd spent.1 (opening_of_tick kept closed reacts).ne_closed

/-!
## Runs
-/

section Runs

variable [Mains ζ] (start : Breaker σ ζ μ κ) (run : List (Action σ ζ μ κ))

/-- After a run, a closed breaker with spent attempts has the reset timer armed since its last
close, and a poll from the deadline on finds the attempts back or the breaker no longer closed. -/
def Returning : Prop :=
  (start.run run).lifecycle.IsSpent → ∃ instant,
    closedAt? (start.appliedAlong (run.map .act)) = some instant ∧
      (start.run run).lifecycle.timers.deadline .recoveryReset =
        some ((start.run run).clock.after instant (start.run run).lifecycle.recovery.resetTimeout) ∧
      ∀ now, (start.run run).clock.after instant
          (start.run run).lifecycle.recovery.resetTimeout ≤ now →
        ¬ (start.run (run ++ [.poll now])).lifecycle.IsSpent

variable {start} {run}

private theorem returning_of_awaitsReset (session : (start.run run).InSession)
    (held : (start.run run).lifecycle.AwaitsReset (start.run run).clock
      (closedAt? (start.appliedAlong (run.map .act)))) : start.Returning run := by
  intro spent
  obtain ⟨instant, closed, armed⟩ := held spent
  refine ⟨instant, closed, armed, fun now due again => ?_⟩
  obtain ⟨_, after, polled, _⟩ := @InSession.poll _ _ _ _ _ _ _ session now (fun _ => True) trivial
    (fun _ _ _ _ _ _ _ _ => trivial)
  have acted : start.run (run ++ [.poll now]) = after := by
    rw [run_concat, Breaker.act, polled, afterCall]
  rw [acted] at again
  obtain ⟨awaits, recovery⟩ := awaitsReset_poll session held now polled
  obtain ⟨same, known, pending⟩ := awaits again
  cases closed.symm.trans known
  have overdue : after.lifecycle.timers.isDue now .recoveryReset = true := by
    simp only [TimerBank.isDue, pending, recovery, decide_eq_true_eq]
    exact due
  have none := poll_exhausts session now polled again.1
  exact absurd overdue (List.countP_eq_zero.mp none _ (TimerId.mem_all _))

/-- An opening that is ignored disarms the timer of a breaker that waits for its attempts. -/
private theorem not_returning_of_ignored {action : Action σ ζ μ κ}
    {application : Application σ ζ μ κ} (session : (start.run run).InSession)
    (member : application ∈ (start.run run).applied (.act action))
    (ignored : application.IgnoresOpening) : ¬ start.Returning (run ++ [action]) := by
  obtain ⟨opening, external, spent, closed⟩ := ignored
  obtain ⟨now, rfl, rfl, applied⟩ := session.applied_opening member opening
  dsimp only at opening external spent closed
  have reacts := session.reacts applied
  have answered := session.ready.respond_of_ne (start.run run).clock .switchOpened
    (start.run run).switch now (by simp)
  have lifecycle := reacts.lifecycle
  rw [answered] at lifecycle
  have still : ((start.run run).lifecycle.transition (start.run run).clock .switchOpened
      (start.run run).switch now).1.phase = .closed := by
    rw [lifecycle] at closed
    exact closed
  have fewer : ((start.run run).act (.input (.switchChanged false) now)).lifecycle.IsSpent := by
    refine ⟨closed, ?_⟩
    rw [reacts.recovery, reacts.attemptsLeft session, Lifecycle.attemptsLeft_transition]
    simpa [external] using spent.2
  intro returning
  obtain ⟨_, _, armed, _⟩ := returning (by rw [run_concat]; exact fewer)
  rcases Lifecycle.transition_stays_closed _ _ _ _ now spent.1 still with
    ⟨_, _, timers⟩ | ⟨other, _⟩
  · have disarmed : ((start.run run).act (.input (.switchChanged false) now)).lifecycle.timers =
        (start.run run).lifecycle.timers.cancel .recoveryReset := by
      rw [lifecycle]
      exact timers
    rw [run_concat, disarmed, TimerBank.deadline_cancel, if_pos rfl] at armed
    cases armed
  · exact other rfl

/-- As long as the recovery is not set, spent attempts of a closed breaker are on their way back
all through a session, exactly if the session applies no opening that is ignored while they are
away. -/
theorem attempts_return_iff {breaker : Breaker σ ζ μ κ} (fresh : breaker.initialized = false)
    (now : Nat) (actions : List (Action σ ζ μ κ))
    (unset : ∀ settings, .adjust (.recovery settings) ∉ actions) :
    (∀ run, run <+: actions → (breaker.init now).Returning run) ↔
      ∀ application ∈ (breaker.init now).appliedAlong (actions.map .act),
        ¬ application.IgnoresOpening := by
  have session := (init_of_fresh fresh now).1
  have whole : ¬ (breaker.init now).lifecycle.IsSpent := by
    obtain ⟨_, recovery, settings, lifecycle⟩ := init_fresh fresh now
    rw [lifecycle]
    exact fun spent => absurd spent.2 (UInt16.lt_irrefl _)
  generalize breaker.init now = start at session whole ⊢
  constructor
  · intro returning application member ignored
    obtain ⟨run, action, before, applied⟩ := mem_appliedAlong_act.mp member
    exact not_returning_of_ignored (session.run run) applied ignored (returning _ before)
  · intro heeded run before
    apply returning_of_awaitsReset (session.run run)
    induction run using List.reverseRecOn with
    | nil => exact fun spent => absurd spent whole
    | append_singleton run action ih =>
        have held := ih ((List.prefix_append run [action]).trans before)
        rw [run_concat, List.map_append, List.map_singleton, appliedAlong_concat, closedAt?_append,
          history_act]
        refine awaitsReset_act (session.run run) held action ?_ ?_
        · rintro settings rfl
          exact unset settings (before.subset (by simp))
        · intro application member
          exact heeded application (mem_appliedAlong_act.mpr ⟨run, action, before, member⟩)

open Bench

/-- Memory that holds settings of the recovery and of the modulation cycle, and no curve. -/
def settingsMemory (recovery : RecoverySettings) (modulation : ModulationSettings) :
    FaultyMemory where
  bytes :=
    List.replicate 160 0xff ++ Frame.encode recovery.encode ++ List.replicate 14 0xff ++
      Frame.encode modulation.encode
  capacity := 200
  failsWrites := true

/-- A breaker that will run the modulation cycle, with one attempt that comes back after a
second. -/
def modulating : BenchBreaker :=
  .ofParts .micros {} {} {} {
    storage := settingsMemory
      { mode := .modulated, enabled := true, attempts := 1, resetTimeout := Duration.ofSeconds 1 }
      { whileClosed := 1, period := 2 } }

/-- A close on an AC supply, a trip that spends the attempt, and the reclose. -/
def reclosedOnAc : List BenchAction :=
  closingOnAc ++ [.input (.switchChanged true) 210000, trip, .input (.switchChanged false) 300000,
    .input .zeroCrossing 310000, .input (.switchChanged true) 310000]

/-- Crossings up to the one at which the cycle opens the switch, and its report. -/
def cycleOpens : List BenchAction :=
  [.input .zeroCrossing 320000, .input .zeroCrossing 330000, .input .zeroCrossing 340000,
    .input (.switchChanged false) 340000]

/-- Before the cycle opens the switch, the attempt is on its way back. -/
theorem attempts_return_reclosed :
    ((modulating.init 0).run reclosedOnAc).lifecycle.IsSpent ∧
      (modulating.init 0).Returning reclosedOnAc :=
  ⟨by decide +kernel,
    (attempts_return_iff (by decide +kernel) 0 reclosedOnAc
      (by simp [reclosedOnAc, closingOnAc, trip])).2
      (by decide +kernel) reclosedOnAc (List.prefix_refl _)⟩

/-- The cycle opens the switch, and the attempt is not on its way back any more. -/
theorem attempts_lost_to_cycle :
    (∃ application ∈ (modulating.init 0).appliedAlong ((reclosedOnAc ++ cycleOpens).map .act),
        application.IgnoresOpening) ∧
      ((modulating.init 0).run (reclosedOnAc ++ cycleOpens)).lifecycle.IsSpent ∧
      ((modulating.init 0).run
        (reclosedOnAc ++ cycleOpens)).lifecycle.timers.deadline .recoveryReset = none ∧
      ((modulating.init 0).run
        (reclosedOnAc ++ cycleOpens ++ [.poll 2000000])).lifecycle.IsSpent := by
  decide +kernel

end Runs

end Sessions

end Breaker

end CircuitBreaker
