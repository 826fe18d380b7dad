import CircuitBreaker.Proofs.Run

/-!
# The schedule of the monitor

When the next tick is due. The start of a session and a close request schedule the first one, each
tick the next one, and a trip, an open request and the end of the session stop the monitor. Nothing
else moves it.
-/

set_option autoImplicit false

namespace CircuitBreaker

namespace Breaker

variable {σ ζ μ κ : Type}

/-- The instant at which a step starts the monitor: a session begins, or a close request meets a
breaker that is not closed. -/
def monitorStart? (breaker : Breaker σ ζ μ κ) : Step σ ζ μ κ → Option Nat
  | .init now => if breaker.initialized then none else some now
  | .act (.input .closeRequest now) =>
      if breaker.initialized ∧ breaker.lifecycle.phase ≠ .closed then some now else none
  | _ => none

theorem instant_of_monitorStart {breaker : Breaker σ ζ μ κ} {step : Step σ ζ μ κ} {now : Nat}
    (starts : breaker.monitorStart? step = some now) : step.instant? = some now := by
  unfold monitorStart? at starts
  split at starts
  · split at starts <;> cases starts
    rfl
  · split at starts <;> cases starts
    rfl
  · cases starts

/-- The monitor runs unless the breaker is open or on the way there, and its next tick is among
`ticks`. -/
structure Scheduled (breaker : Breaker σ ζ μ κ) (clock : Clock) (ticks : Nat → Prop) : Prop where
  clock : breaker.clock = clock
  watched : breaker.initialized = true →
    breaker.monitor.isRunning = true ∨ breaker.lifecycle.phase.IsOpening
  among : ∀ tick, breaker.monitor.nextTick = some tick → ticks tick

namespace Scheduled

variable {before after : Breaker σ ζ μ κ} {clock : Clock} {ticks : Nat → Prop}

theorem keep (scheduled : before.Scheduled clock ticks) (same : after.clock = before.clock)
    (nextTick : after.monitor.nextTick = before.monitor.nextTick)
    (initialized : after.initialized = before.initialized)
    (opening : before.lifecycle.phase.IsOpening → after.lifecycle.phase.IsOpening) :
    after.Scheduled clock ticks where
  clock := same.trans scheduled.clock
  watched session := by
    rw [Monitor.isRunning, nextTick]
    exact (scheduled.watched (initialized ▸ session)).imp_right opening
  among tick due := scheduled.among tick (nextTick ▸ due)

theorem of_stopped (same : after.clock = clock)
    (opening : after.initialized = true → after.lifecycle.phase.IsOpening)
    (stopped : after.monitor.nextTick = none) : after.Scheduled clock ticks where
  clock := same
  watched session := .inr (opening session)
  among tick due := by simp [stopped] at due

theorem of_started (same : after.clock = clock) {tick : Nat}
    (started : after.monitor.nextTick = some tick) (among : ticks tick) :
    after.Scheduled clock ticks where
  clock := same
  watched _ := .inl (by simp [Monitor.isRunning, started])
  among other due := Option.some.inj (started.symm.trans due) ▸ among

/-!
## What moves the schedule
-/

variable {now : Nat}

private theorem dueTicks [Meter μ] (scheduled : before.Scheduled clock ticks)
    (next : ∀ due ≤ now, ticks due → ticks (clock.after due Monitor.interval)) :
    ((before.dueTicks now).1.isSome = true ∧ (before.dueTicks now).2.nextTick = none) ∨
      (before.dueTicks now).1 = none ∧
        ({ before with monitor := (before.dueTicks now).2 } : Breaker σ ζ μ κ).Scheduled clock
          ticks := by
  rcases before.monitor.runDue_nextTick before.clock now (Meter.current before.meter)
    before.curve.curve.points (before.lifecycle.phase = .closed) (scheduled.clock.symm ▸ next)
    scheduled.among with tripped | ⟨quiet, running, among⟩
  · exact .inl tripped
  · refine .inr ⟨quiet, scheduled.clock, fun session => ?_, among⟩
    rcases scheduled.watched session with watched | opening
    · exact .inl (running.trans watched)
    · exact .inr opening

section Session

variable [SwitchDriver σ]

theorem handleInput (session : before.InSession) (scheduled : before.Scheduled clock ticks)
    {input : Input} (unstarted : before.monitorStart? (.act (.input input now)) = none) :
    ∃ after, before.handleInput input now = .ok after ∧ after.Scheduled clock ticks := by
  obtain ⟨after, accepted, ⟨same, _⟩ | ⟨reacts, monitor⟩⟩ := session.handleInput input now
  · exact ⟨after, accepted, same ▸ scheduled⟩
  cases input with
  | openRequest =>
      refine ⟨after, accepted, of_stopped (reacts.clock.trans scheduled.clock) (fun _ => ?_) ?_⟩
      · rw [reacts.phase, Input.event, session.ready.respond_of_ne _ _ _ _ (by simp)]
        exact Lifecycle.transition_openCommand_isOpening _ _ _ _ session.ready.started
      · rw [monitor]
        rfl
  | closeRequest =>
      have closed : before.lifecycle.phase = .closed := by
        by_contra unclosed
        rw [monitorStart?, if_pos ⟨session.initialized, unclosed⟩] at unstarted
        cases unstarted
      refine ⟨before, ?_, scheduled⟩
      simp [Breaker.handleInput, requestClose, ensureInitialized, session.initialized, closed,
        bind, Except.bind]
  | zeroCrossing =>
      exact ⟨after, accepted, scheduled.keep reacts.clock (by rw [monitor]) reacts.initialized
        fun opening => reacts.isOpening opening (by simp [Input.event])⟩
  | switchChanged closed =>
      refine ⟨after, accepted, scheduled.keep reacts.clock (by rw [monitor]) reacts.initialized
        fun opening => reacts.isOpening opening ?_⟩
      cases closed <;> simp [Input.event]

theorem poll [Meter μ] (session : before.InSession) (scheduled : before.Scheduled clock ticks)
    (next : ∀ due ≤ now, ticks due → ticks (clock.after due Monitor.interval)) :
    ∃ after, before.poll now = .ok after ∧ after.Scheduled clock ticks := by
  have told : (before.told now).Scheduled clock ticks :=
    ⟨scheduled.clock, scheduled.watched, scheduled.among⟩
  obtain ⟨fired, after, accepted, kept, scheduled, _,
      ⟨quiet, same⟩ | ⟨found, closed, reacts, monitor⟩⟩ :=
    @InSession.poll _ _ _ _ _ _ _ session now (fun middle => middle.Scheduled clock ticks) told
      (fun first second timer _ scheduled _ reacts monitor => by
        refine scheduled.keep reacts.clock (by rw [monitor]) reacts.initialized fun opening =>
          reacts.isOpening opening ?_
        cases timer <;> simp [TimerId.event])
  · refine ⟨after, accepted, ?_⟩
    rw [same]
    rcases scheduled.dueTicks next with ⟨found, _⟩ | ⟨_, scheduled⟩
    · simp [quiet] at found
    · exact scheduled
  · -- A tick that trips has stopped the monitor, and the trip opens the breaker.
    refine ⟨after, accepted, of_stopped (reacts.clock.trans scheduled.clock) (fun _ => ?_) ?_⟩
    · rw [reacts.phase, kept.ready.respond_of_ne _ _ _ _ (by simp)]
      exact Lifecycle.transition_overCurrent_isOpening _ _ _ _ closed
    · rw [monitor]
      rcases scheduled.dueTicks next with ⟨_, stopped⟩ | ⟨quiet, _⟩
      · exact stopped
      · simp [quiet] at found

end Session

variable [SwitchDriver σ] [Mains ζ] [Meter μ] [RecordStore κ]

theorem of_monitorStart (known : before.initialized = true → before.InSession)
    (same : before.clock = clock) {step : Step σ ζ μ κ}
    (starts : before.monitorStart? step = some now)
    (among : ticks (clock.after now Monitor.interval)) :
    (before.step step).Scheduled clock ticks := by
  subst same
  unfold monitorStart? at starts
  split at starts
  · split at starts
    · cases starts
    · next instant outside =>
        cases starts
        obtain ⟨_, same, started, _⟩ := init_of_fresh (Bool.eq_false_iff.mpr outside) now
        exact of_started same started among
  · split at starts
    · next instant inside =>
        cases starts
        obtain ⟨after, accepted, ⟨_, _, closed⟩ | ⟨reacts, monitor⟩⟩ :=
          (known inside.1).handleInput .closeRequest now
        · exact absurd closed inside.2
        · rw [Breaker.step, Breaker.act, accepted]
          exact of_started reacts.clock (by rw [afterCall, monitor]; rfl) among
    · cases starts
  · cases starts

/-- Without a start the next tick stays among `ticks`, if the ticks of a poll do. -/
theorem step (known : before.initialized = true → before.InSession)
    (scheduled : before.Scheduled clock ticks) {step : Step σ ζ μ κ}
    (unstarted : before.monitorStart? step = none)
    (next : ∀ now, step = .act (.poll now) →
      ∀ due ≤ now, ticks due → ticks (clock.after due Monitor.interval)) :
    (before.step step).Scheduled clock ticks := by
  cases inside : before.initialized with
  | false =>
      rcases step_of_fresh inside step with ⟨now, rfl⟩ | ⟨outside, same, nextTick⟩
      · simp [monitorStart?, inside] at unstarted
      · exact ⟨same.trans scheduled.clock, fun session => by simp [outside] at session,
          fun tick due => scheduled.among tick (nextTick ▸ due)⟩
  | true =>
      have session := known inside
      cases step with
      | act action =>
          cases action with
          | input input now =>
              obtain ⟨after, accepted, scheduled⟩ := scheduled.handleInput session unstarted
              rw [Breaker.step, Breaker.act, accepted]
              exact scheduled
          | poll now =>
              obtain ⟨after, accepted, scheduled⟩ := scheduled.poll session (next now rfl)
              rw [Breaker.step, Breaker.act, accepted]
              exact scheduled
          | adjust adjustment =>
              have adjusted := adjust_adjusted adjustment before
              exact scheduled.keep adjusted.clock adjusted.nextTick adjusted.initialized
                fun opening => adjusted.phase.symm ▸ opening
      | init now =>
          have same : before.init now = before := by simp [Breaker.init, inside]
          rw [Breaker.step, same]
          exact scheduled
      | shutdown =>
          obtain ⟨outside, same, stopped⟩ := shutdown_of_inSession session
          exact of_stopped (same.trans scheduled.clock)
            (fun session => by simp [outside] at session) stopped

end Scheduled

end Breaker

end CircuitBreaker
