import CircuitBreaker.Proofs.Commands
import CircuitBreaker.Proofs.Expiry
import CircuitBreaker.Proofs.TimerPhases

/-!
# The schedule of polls

A poll runs two loops: one fires timers as long as one is due, the other runs ticks as long as one
is due. Both are given here without a bound on their rounds, so that a derivation is a loop that
comes to an end. Before the next deadline there is nothing to do for them, and after them the next
deadline is ahead.
-/

set_option autoImplicit false

namespace CircuitBreaker

namespace TimerBank

/-- The next deadline is ahead exactly if no timer is due. -/
theorem nextDeadline_ahead_iff (bank : TimerBank) (now : Nat) :
    (∀ deadline ∈ bank.nextDeadline, now < deadline) ↔ bank.dueCount now = 0 := by
  rw [dueCount, List.countP_eq_zero]
  refine (bank.nextDeadline_bound_iff (now + 1)).trans ?_
  constructor
  · intro ahead timer _ due
    obtain ⟨deadline, reached, armed⟩ := isDue_iff.mp due
    exact Nat.not_lt.mpr reached (ahead timer deadline armed)
  · intro undue timer deadline armed
    by_contra reached
    exact undue timer timer.mem_all (isDue_iff.mpr ⟨deadline, Nat.le_of_not_lt reached, armed⟩)

theorem firstDue_of_dueCount {bank : TimerBank} {now : Nat} (none : bank.dueCount now = 0) :
    bank.firstDue now = .none := by
  rw [dueCount, List.countP_eq_length_filter, List.length_eq_zero_iff] at none
  rw [firstDue, none]

/-- A timer that is disarmed or left as it was is due after only if it was due before. -/
theorem dueCount_of_kept {before after : TimerBank} {now : Nat}
    (kept : ∀ timer, after.deadline timer = none ∨ after.deadline timer = before.deadline timer)
    (none : before.dueCount now = 0) : after.dueCount now = 0 := by
  rw [dueCount, List.countP_eq_zero] at none ⊢
  exact fun timer member due => none timer member (isDue_of_deadline (kept timer) due)

end TimerBank

/-!
## The loop over the ticks
-/

namespace Monitor

variable (clock : Clock) (now : Nat) (current : UInt32) (points : List CurvePoint) (closed : Bool)

/-- The ticks of a poll, one after the other, up to the one that trips or that is not due, and the
point that trips. -/
inductive Ticks : Monitor → Option Nat → Monitor → Prop where
  | idle {monitor : Monitor}
      (quiet : monitor.tick clock now current points closed = (.idle, monitor)) :
      Ticks monitor none monitor
  | evaluated {monitor next final : Monitor} {found : Option Nat}
      (ticked : monitor.tick clock now current points closed = (.evaluated, next))
      (later : Ticks next found final) : Ticks monitor found final
  | tripped {monitor final : Monitor} {point : Nat}
      (ticked : monitor.tick clock now current points closed = (.tripped point, final)) :
      Ticks monitor (some point) final

variable {clock now}

/-- Where an interval later is a later instant, the ticks come to an end, and the next one is
ahead. -/
theorem runFrom_ticks (later : now < clock.after now interval) (deadline : Nat)
    (spent : SpentTimes) :
    Ticks clock now current points closed { spent, nextTick := some deadline }
        (runFrom clock now current points closed deadline spent).1
        (runFrom clock now current points closed deadline spent).2 ∧
      ∀ tick ∈ (runFrom clock now current points closed deadline spent).2.nextTick, now < tick := by
  fun_induction runFrom clock now current points closed deadline spent with
  | case1 deadline spent ahead =>
      refine ⟨.idle (by simp [tick, ahead]), ?_⟩
      rintro tick ⟨⟩
      exact ahead
  | case2 deadline spent due point charged evaluated =>
      refine ⟨.tripped (by simp [tick, due, evaluated]), ?_⟩
      rintro tick ⟨⟩
  | case3 deadline spent due charged evaluated _ ih =>
      exact ⟨.evaluated (by simp [tick, due, evaluated]) ih.1, ih.2⟩
  | case4 deadline spent due charged evaluated stuck =>
      -- The clock would have to stand still, but it goes on at `now` and so before.
      exact absurd (Clock.lt_after_of_le (Nat.not_lt.mp due) later) stuck

theorem runDue_ticks (later : now < clock.after now interval) (monitor : Monitor) :
    Ticks clock now current points closed monitor
        (monitor.runDue clock now current points closed).1
        (monitor.runDue clock now current points closed).2 ∧
      ∀ tick ∈ (monitor.runDue clock now current points closed).2.nextTick, now < tick := by
  unfold runDue
  cases scheduled : monitor.nextTick with
  | none =>
      refine ⟨.idle (by simp [tick, scheduled]), ?_⟩
      rw [scheduled]
      rintro tick ⟨⟩
  | some deadline =>
      have same : monitor = { monitor with nextTick := some deadline } := by rw [← scheduled]
      rw [same]
      exact runFrom_ticks current points closed later deadline monitor.spent

/-- Before the next tick the monitor stays as it is. -/
theorem runDue_of_ahead {monitor : Monitor} (ahead : ∀ tick ∈ monitor.nextTick, now < tick) :
    monitor.runDue clock now current points closed = (none, monitor) := by
  unfold runDue
  cases scheduled : monitor.nextTick with
  | none => rfl
  | some deadline =>
      dsimp only
      rw [runFrom, if_pos (ahead deadline scheduled), ← scheduled]

variable {current points closed} in
/-- A trip stops the monitor. -/
theorem nextTick_of_tripped {monitor next : Monitor} {point : Nat}
    (ticked : monitor.tick clock now current points closed = (.tripped point, next)) :
    next.nextTick = none := by
  unfold tick at ticked
  split at ticked
  · cases ticked
  · split at ticked
    · cases ticked
    · split at ticked <;> cases ticked
      rfl

theorem Ticks.stopped {monitor final : Monitor} {point : Nat}
    (ticks : Ticks clock now current points closed monitor (some point) final) :
    final.nextTick = none := by
  generalize outcome : some point = found at ticks
  induction ticks with
  | idle => cases outcome
  | evaluated _ _ ih => exact ih outcome
  | tripped ticked => exact nextTick_of_tripped ticked

/-- At an instant that the clock does not leave by an interval, a tick that is due stays due, and
the ticks of a breaker that is not closed never come to an end. -/
theorem not_ticks_of_stuck {deadline : Nat} (due : deadline ≤ now)
    (stuck : clock.after deadline interval = deadline) (spent : SpentTimes) (found : Option Nat)
    (final : Monitor) :
    ¬ Ticks clock now current points false { spent, nextTick := some deadline } found final := by
  intro ticks
  generalize start : ({ spent, nextTick := some deadline } : Monitor) = monitor at ticks
  have ticked : ({ spent, nextTick := some deadline } : Monitor).tick clock now current points
      false = (.evaluated, { spent, nextTick := some deadline }) := by
    simp [tick, Nat.not_lt.mpr due, SpentTimes.evaluate, stuck]
  induction ticks with
  | idle quiet =>
      rw [← start, ticked] at quiet
      cases quiet
  | evaluated evaluated _ ih =>
      rw [← start, ticked] at evaluated
      cases evaluated
      exact ih rfl
  | tripped tripped =>
      rw [← start, ticked] at tripped
      cases tripped

end Monitor

namespace Breaker

variable {σ ζ μ κ : Type} [SwitchDriver σ]

/-!
## The loop over the timers
-/

/-- The timers of a poll fire one after the other, until none is due. -/
inductive Fires (now : Nat) : Breaker σ ζ μ κ → Breaker σ ζ μ κ → Prop where
  | done {breaker : Breaker σ ζ μ κ}
      (quiet : breaker.lifecycle.takeExpired now = (none, breaker.lifecycle)) :
      Fires now breaker breaker
  | fire {breaker after final : Breaker σ ζ μ κ} {event : Event} {lifecycle : Lifecycle}
      (expired : breaker.lifecycle.takeExpired now = (some event, lifecycle))
      (applied : { breaker with lifecycle }.apply event now = .ok after)
      (later : Fires now after final) : Fires now breaker final

/-- The rounds of a poll are all that the timers need. -/
private theorem fires_of_exhausted {breaker fired : Breaker σ ζ μ κ} (session : breaker.InSession)
    {now rounds : Nat} (firing : breaker.fireTimers now rounds = .ok fired)
    (none : fired.lifecycle.timers.dueCount now = 0) :
    Fires now breaker fired ∧ fired.clock = breaker.clock := by
  induction rounds generalizing breaker with
  | zero =>
      cases firing
      exact ⟨.done (takeExpired_of_none (TimerBank.firstDue_of_dueCount none)), rfl⟩
  | succ rounds ih =>
      rcases session.fireTimers_succ now rounds with
        ⟨quiet, same, _⟩ | ⟨timer, after, due, applied, same, _⟩
      · rw [same] at firing
        cases firing
        exact ⟨.done (takeExpired_of_none quiet), rfl⟩
      · rw [same] at firing
        obtain ⟨later, clock⟩ := ih ((session.disarm timer).applied applied) firing
        exact ⟨.fire (takeExpired_of_some due) applied later,
          clock.trans ((session.disarm timer).reacts applied).clock⟩

/-!
## Polls
-/

variable [Meter μ]

/-- A poll that comes to an end: the timers fire, the ticks run, and a tick that trips is taken as
an event. -/
inductive Polls (breaker : Breaker σ ζ μ κ) (now : Nat) : Breaker σ ζ μ κ → Prop where
  | quiet {fired : Breaker σ ζ μ κ} {monitor : Monitor} (fires : Fires now (breaker.told now) fired)
      (ticks : fired.monitor.Ticks fired.clock now (Meter.current fired.meter)
        fired.curve.curve.points (fired.lifecycle.phase = .closed) none monitor) :
      Polls breaker now { fired with monitor }
  | tripped {fired after : Breaker σ ζ μ κ} {monitor : Monitor} {point : Nat}
      (fires : Fires now (breaker.told now) fired)
      (ticks : fired.monitor.Ticks fired.clock now (Meter.current fired.meter)
        fired.curve.curve.points (fired.lifecycle.phase = .closed) (some point) monitor)
      (applied : { fired with monitor }.apply .overCurrentDuration now = .ok after) :
      Polls breaker now after

omit [SwitchDriver σ] [Meter μ] in
private theorem nextDeadline_ahead_iff (breaker : Breaker σ ζ μ κ) (now : Nat) :
    (∀ deadline ∈ breaker.nextDeadline, now < deadline) ↔
      breaker.lifecycle.timers.dueCount now = 0 ∧
        ∀ tick ∈ breaker.monitor.nextTick, now < tick := by
  rw [← TimerBank.nextDeadline_ahead_iff, nextDeadline, Lifecycle.nextDeadline]
  cases breaker.lifecycle.timers.nextDeadline with
  | none => cases breaker.monitor.nextTick <;> simp
  | some timer =>
      cases breaker.monitor.nextTick with
      | none => simp
      | some tick =>
          simp only [Option.mem_some_iff, forall_eq']
          exact Nat.lt_min

omit [Meter μ] in
/-- The trip of a tick arms no timer. -/
private theorem dueCount_of_trip {before after : Breaker σ ζ μ κ} {now : Nat}
    (session : before.InSession) (closed : before.lifecycle.phase = .closed)
    (applied : before.apply .overCurrentDuration now = .ok after)
    (none : before.lifecycle.timers.dueCount now = 0) :
    after.lifecycle.timers.dueCount now = 0 := by
  refine TimerBank.dueCount_of_kept (fun timer => ?_) none
  rw [(session.reacts applied).lifecycle, session.ready.respond_of_ne _ _ _ _ (by simp),
    Lifecycle.transition_of_closed _ _ _ _ _ closed]
  simp only [Lifecycle.modeEvent_fields, Lifecycle.closedTransition, Lifecycle.openOnDuration,
    Lifecycle.releaseSwitch_fields, TimerBank.deadline_cancel]
  split
  · exact .inl rfl
  · exact .inr rfl

section Sessions

variable {breaker : Breaker σ ζ μ κ} (session : breaker.InSession) {now : Nat}
include session

omit [Meter μ] in
/-- Where no timer is due a poll fires none. -/
private theorem fireTimers_of_undue (undue : breaker.lifecycle.timers.firstDue now = none) :
    (breaker.told now).fireTimers now TimerId.all.length = .ok (breaker.told now) ∧
      (breaker.told now).appliedTimers now TimerId.all.length = [] := by
  rcases (session.told now).fireTimers_succ now 2 with ⟨_, firing, trail⟩ | ⟨timer, _, due, _⟩
  · exact ⟨firing, trail⟩
  · cases undue.symm.trans due

theorem InSession.poll_of_undue (undue : breaker.lifecycle.timers.firstDue now = none) :
    breaker.poll now = (breaker.told now).runMonitor now :=
  session.poll_of_fired (fireTimers_of_undue session undue).1

/-- Before the next deadline a poll remembers the instant and does nothing else. -/
theorem poll_before (ahead : ∀ deadline ∈ breaker.nextDeadline, now < deadline) :
    breaker.poll now = .ok (breaker.told now) ∧ breaker.applied (.act (.poll now)) = [] := by
  obtain ⟨undue, unticked⟩ := (nextDeadline_ahead_iff breaker now).mp ahead
  have quiet := TimerBank.firstDue_of_dueCount undue
  have ticks : (breaker.told now).dueTicks now = (none, breaker.monitor) :=
    Monitor.runDue_of_ahead _ _ _ unticked
  obtain ⟨firing, trail⟩ := fireTimers_of_undue session quiet
  constructor
  · rw [session.poll_of_undue quiet]
    unfold dueTicks at ticks
    rw [runMonitor, ticks]
    rfl
  · rw [applied, appliedPoll, trail, firing]
    simp only [appliedTick, ticks, List.append_nil]

/-- A poll comes to an end and leaves nothing that is due. -/
theorem poll_ends (later : now < breaker.clock.after now Monitor.interval) :
    ∃ after, breaker.poll now = .ok after ∧ breaker.Polls now after ∧
      ∀ deadline ∈ after.nextDeadline, now < deadline := by
  obtain ⟨fired, firing, kept, undue⟩ :=
    (session.told now).fireTimers_exhausts now TimerId.all.length List.countP_le_length
  obtain ⟨fires, clock⟩ := fires_of_exhausted (session.told now) firing undue
  have polled := session.poll_of_fired firing
  rw [show breaker.clock = fired.clock from clock.symm] at later
  obtain ⟨ticks, ahead⟩ := Monitor.runDue_ticks (Meter.current fired.meter)
    fired.curve.curve.points (fired.lifecycle.phase = .closed) later fired.monitor
  rw [polled]
  cases outcome : fired.dueTicks now with
  | mk found monitor =>
      have runDue := outcome
      unfold dueTicks at runDue
      rw [runDue] at ticks ahead
      cases found with
      | none =>
          refine ⟨{ fired with monitor }, by rw [runMonitor, runDue], .quiet fires ticks, ?_⟩
          exact (nextDeadline_ahead_iff _ now).mpr ⟨undue, ahead⟩
      | some point =>
          obtain ⟨after, applied, reacts, same⟩ :=
            (kept.watch monitor).apply .overCurrentDuration now
          have closed : fired.lifecycle.phase = .closed := closed_of_dueTicks (by rw [outcome])
          refine ⟨after, by rw [runMonitor, runDue]; exact applied,
            .tripped fires ticks applied, ?_⟩
          refine (nextDeadline_ahead_iff _ now).mpr
            ⟨dueCount_of_trip (kept.watch monitor) closed applied undue, ?_⟩
          have stopped := ticks.stopped
          rw [same, stopped]
          rintro tick ⟨⟩

end Sessions

variable [Mains ζ] [RecordStore κ]

/-- While the clock has room for one more interval, a poll of a breaker in a session comes to an
end, and the next deadline is ahead of it. Before the next deadline a poll remembers the instant
and does nothing else. -/
theorem poll_schedule {breaker : Breaker σ ζ μ κ} (reachable : breaker.Reachable) {now : Nat}
    (later : now < breaker.clock.after now Monitor.interval) :
    ((∀ deadline ∈ breaker.nextDeadline, now < deadline) →
      breaker.poll now = .ok (breaker.told now) ∧ breaker.commandsIn (.act (.poll now)) = []) ∧
    ∃ after, breaker.poll now = .ok after ∧ breaker.Polls now after ∧
      ∀ deadline ∈ after.nextDeadline, now < deadline := by
  have session := reachable.inSession
  refine ⟨fun ahead => ?_, poll_ends session later⟩
  obtain ⟨polled, quiet⟩ := poll_before session ahead
  refine ⟨polled, ?_⟩
  rw [commandsIn_eq (fun _ => session), quiet]
  rfl

open Bench

/-- A breaker that waits for its recovery has nothing to do before the next tick. A poll that comes
late finds the recovery timer and many ticks overdue. -/
theorem poll_schedule_overdue :
    (oneAttempt awaitsRecovery).nextDeadline = some 300000 ∧
      ((oneAttempt awaitsRecovery).poll 299999 = .ok ((oneAttempt awaitsRecovery).told 299999) ∧
        (oneAttempt awaitsRecovery).commandsIn (.act (.poll 299999)) = []) ∧
      ∃ after, (oneAttempt awaitsRecovery).poll 5000000 = .ok after ∧
        (oneAttempt awaitsRecovery).Polls 5000000 after ∧
        ∀ deadline ∈ after.nextDeadline, 5000000 < deadline := by
  have reachable : (oneAttempt awaitsRecovery).Reachable :=
    ⟨by decide +kernel, _, _, _, _, _, _, rfl⟩
  have next : (oneAttempt awaitsRecovery).nextDeadline = some 300000 := by decide +kernel
  refine ⟨next, (poll_schedule reachable (by decide +kernel)).1 ?_,
    (poll_schedule reachable (by decide +kernel)).2⟩
  rw [next]
  rintro deadline ⟨⟩
  decide

end Breaker

end CircuitBreaker
