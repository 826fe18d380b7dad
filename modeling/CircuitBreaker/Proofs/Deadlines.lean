import CircuitBreaker.Proofs.Polling
import CircuitBreaker.Proofs.Restart

/-!
# Deadlines ahead

An event arms a timer for a later instant, or for its own if there is no recovery delay. Where no
deadline lies before some instant, none does after an event at that instant.
-/

set_option autoImplicit false

namespace CircuitBreaker

namespace Lifecycle

variable (machine : Lifecycle) {σ : Type} [SwitchDriver σ] (clock : Clock) (event : Event)
  (switch : σ) (now : Nat)

/-- The waits for which an event may arm a timer. Only the trip of the hardware takes the recovery
delay, which may be nothing. -/
inductive Arms : Nat → Prop where
  | detection : Arms detectionWindow
  | reset : Arms machine.recovery.resetTimeout
  | recovery (closed : machine.phase = .closed) (opened : event = .switchOpened)
      (tripped : SwitchDriver.cause switch = .hardwareOvercurrent) : Arms machine.recovery.delay

def longestWait : Nat :=
  max detectionWindow (max machine.recovery.resetTimeout machine.recovery.delay)

variable {machine event switch} in
theorem Arms.le_longestWait {wait : Nat} (arms : machine.Arms event switch wait) :
    wait ≤ machine.longestWait := by
  cases arms with
  | detection => exact Nat.le_max_left _ _
  | reset => exact Nat.le_trans (Nat.le_max_left _ _) (Nat.le_max_right _ _)
  | recovery => exact Nat.le_trans (Nat.le_max_right _ _) (Nat.le_max_right _ _)

/-- What may have become of the timers by an event: each is disarmed, stands as it did, or is armed
for one of these waits. -/
def Redates (timers : TimerBank) : Prop :=
  ∀ timer, timers.deadline timer = none ∨ timers.deadline timer = machine.timers.deadline timer ∨
    ∃ wait, machine.Arms event switch wait ∧ timers.deadline timer = some (clock.after now wait)

section Redates

variable {machine clock event switch now} {timers : TimerBank}

theorem Redates.kept : machine.Redates clock event switch now machine.timers :=
  fun _ => .inr (.inl rfl)

theorem Redates.empty : machine.Redates clock event switch now .empty :=
  fun timer => .inl (TimerBank.deadline_empty timer)

theorem Redates.cancel (redates : machine.Redates clock event switch now timers)
    (timer : TimerId) : machine.Redates clock event switch now (timers.cancel timer) := by
  intro other
  rw [TimerBank.deadline_cancel]
  split
  · exact .inl rfl
  · exact redates other

theorem Redates.arm (redates : machine.Redates clock event switch now timers) {wait : Nat}
    (arms : machine.Arms event switch wait) (timer : TimerId) :
    machine.Redates clock event switch now (timers.arm clock timer now wait) := by
  intro other
  rw [TimerBank.deadline_arm]
  split
  · exact .inr (.inr ⟨wait, arms, rfl⟩)
  · exact redates other

end Redates

private theorem redates_handleOpening (closed : machine.phase = .closed) :
    machine.Redates clock .switchOpened switch now
      (machine.handleOpening clock switch now).timers := by
  have cancelled : machine.Redates clock .switchOpened switch now
      (machine.timers.cancel .recoveryReset) := Redates.kept.cancel _
  unfold handleOpening
  dsimp only
  split
  · exact cancelled
  · next tripped =>
    split
    · unfold beginRecovery
      dsimp only
      split
      · exact cancelled
      · exact cancelled.arm (.recovery closed rfl tripped) _
    · exact cancelled
  · simp only [settleOpened, adoptCause_fields]
    exact cancelled

theorem redates_transition :
    machine.Redates clock event switch now
      (machine.transition clock event switch now).1.timers := by
  cases phase : machine.phase with
  | undefined => simpa [transition_of_undefined, phase] using Redates.kept
  | opened =>
      cases event with
      | closeCommand =>
          simp only [transition, phase, beginClose]
          exact Redates.empty.arm .detection _
      | _ => simpa [transition, phase] using Redates.kept
  | supplyWait =>
      cases event with
      | openCommand =>
          simp only [transition, phase, abortClose, settleOpened]
          exact Redates.kept.cancel _
      | supplyTimerExpired =>
          obtain ⟨acSupply, filter, reason, same, _⟩ := classifySupply_machine machine switch
          simpa [transition, phase, same] using Redates.kept
      | _ => simpa [transition, phase, countCrossing] using Redates.kept
  | closeWait =>
      cases event with
      | openCommand =>
          simp only [transition, phase, openOnCommand, releaseSwitch_fields]
          exact (Redates.kept.cancel _).cancel _
      | recoveryTimerExpired | zeroCrossing =>
          simp only [transition, phase, reclose_fields]
          exact Redates.kept.cancel _
      | switchClosed =>
          simp only [transition, phase, enterClosed]
          split
          · exact Redates.kept.arm .reset _
          · exact Redates.kept
      | _ => simpa [transition, phase] using Redates.kept
  | closed =>
      simp only [transition_of_closed machine clock event switch now phase, modeEvent_fields]
      cases event with
      | openCommand =>
          simp only [closedTransition, openOnCommand, releaseSwitch_fields]
          exact (Redates.kept.cancel _).cancel _
      | overCurrentDuration =>
          simp only [closedTransition, openOnDuration, releaseSwitch_fields]
          exact Redates.kept.cancel _
      | switchOpened => exact redates_handleOpening machine clock switch now phase
      | _ => simpa [closedTransition, replenish] using Redates.kept
  | openWait => cases event <;> simpa [transition, phase, settleOpened] using Redates.kept

theorem redates_respond :
    machine.Redates clock event switch now
      (machine.respond clock event switch now).1.timers := by
  unfold respond
  split
  · exact Redates.kept
  · exact redates_transition machine clock event switch now

end Lifecycle

namespace Breaker

variable {σ ζ μ κ : Type}

/-- The instants at which the breaker has work to do are among these. -/
structure WaitsFor (breaker : Breaker σ ζ μ κ) (instants : Nat → Prop) : Prop where
  timers : ∀ timer deadline, breaker.lifecycle.timers.deadline timer = some deadline →
    instants deadline
  ticks : ∀ tick ∈ breaker.monitor.nextTick, instants tick

def Awaits (breaker : Breaker σ ζ μ κ) (bound : Nat) : Prop :=
  ∀ deadline ∈ breaker.nextDeadline, bound ≤ deadline

theorem awaits_iff {breaker : Breaker σ ζ μ κ} {bound : Nat} :
    breaker.Awaits bound ↔ breaker.WaitsFor (bound ≤ ·) := by
  have split : breaker.WaitsFor (bound ≤ ·) ↔
      (∀ deadline ∈ breaker.lifecycle.timers.nextDeadline, bound ≤ deadline) ∧
        ∀ tick ∈ breaker.monitor.nextTick, bound ≤ tick := by
    rw [TimerBank.nextDeadline_bound_iff]
    exact ⟨fun waits => ⟨waits.timers, waits.ticks⟩, fun ⟨timers, ticks⟩ => ⟨timers, ticks⟩⟩
  rw [split, Awaits, nextDeadline, Lifecycle.nextDeadline]
  cases breaker.lifecycle.timers.nextDeadline with
  | none => cases breaker.monitor.nextTick <;> simp
  | some timer =>
      cases breaker.monitor.nextTick with
      | none => simp
      | some tick =>
          simp only [Option.mem_some_iff, forall_eq']
          exact Nat.le_min

theorem Awaits.weaken {breaker : Breaker σ ζ μ κ} {earlier later : Nat}
    (awaits : breaker.Awaits later) (ordered : earlier ≤ later) : breaker.Awaits earlier :=
  fun deadline next => Nat.le_trans ordered (awaits deadline next)

/-- Timers and ticks are all that deadlines come from. -/
theorem WaitsFor.congr {before after : Breaker σ ζ μ κ} {instants : Nat → Prop}
    (waits : before.WaitsFor instants)
    (timers : after.lifecycle.timers = before.lifecycle.timers)
    (ticks : after.monitor.nextTick = before.monitor.nextTick) : after.WaitsFor instants where
  timers := by
    rw [timers]
    exact waits.timers
  ticks := by
    rw [ticks]
    exact waits.ticks

section Events

variable [SwitchDriver σ] {before after : Breaker σ ζ μ κ} {bound now : Nat}
  {instants : Nat → Prop}

/-- An event that arms timers for such instants only. -/
theorem WaitsFor.reacts {event : Event} (waits : before.WaitsFor instants)
    (reacts : before.Reacts event now after)
    (armed : ∀ wait, before.lifecycle.Arms event before.switch wait →
      instants (before.clock.after now wait))
    (ticks : ∀ tick ∈ after.monitor.nextTick, instants tick) : after.WaitsFor instants := by
  refine ⟨?_, ticks⟩
  intro timer deadline due
  rw [reacts.lifecycle] at due
  rcases before.lifecycle.redates_respond before.clock event before.switch now timer with
    disarmed | same | ⟨wait, arms, rearmed⟩
  · cases due.symm.trans disarmed
  · exact waits.timers timer deadline (same.symm.trans due)
  · rw [← Option.some.inj (rearmed.symm.trans due)]
    exact armed wait arms

/-- An input that arms timers for such instants only. -/
theorem WaitsFor.handled (waits : before.WaitsFor instants) (session : before.InSession)
    {input : Input} (accepted : before.handleInput input now = .ok after)
    (armed : ∀ wait, before.lifecycle.Arms input.event before.switch wait →
      instants (before.clock.after now wait))
    (ticked : input = .closeRequest → instants (before.clock.after now Monitor.interval)) :
    after.WaitsFor instants := by
  obtain ⟨answered, handled, outcome⟩ := session.handleInput input now
  obtain rfl : answered = after := Except.ok.inj (handled.symm.trans accepted)
  rcases outcome with ⟨rfl, _⟩ | ⟨reacts, monitor⟩
  · exact waits
  · refine waits.reacts reacts armed ?_
    intro tick due
    rw [monitor] at due
    cases input with
    | openRequest => cases due
    | closeRequest =>
        rw [← Option.mem_some_iff.mp due]
        exact ticked rfl
    | _ => exact waits.ticks tick due

/-- An input that arms timers for no earlier instant. -/
theorem Awaits.handled (awaits : before.Awaits bound) (session : before.InSession) {input : Input}
    (accepted : before.handleInput input now = .ok after)
    (armed : ∀ wait, before.lifecycle.Arms input.event before.switch wait →
      bound ≤ before.clock.after now wait)
    (ticked : input = .closeRequest → bound ≤ before.clock.after now Monitor.interval) :
    after.Awaits bound :=
  awaits_iff.mpr ((awaits_iff.mp awaits).handled session accepted armed ticked)

section Frames

variable {breaker : Breaker σ ζ μ κ}

theorem apply_told (breaker : Breaker σ ζ μ κ) (earlier : Nat) (event : Event) (now : Nat) :
    (breaker.told earlier).apply event now = breaker.apply event now := by
  unfold Breaker.apply ensureInitialized
  rw [show (breaker.told earlier).initialized = breaker.initialized from rfl]
  split <;> rfl

private theorem frame_applied (session : breaker.InSession) {event : Event}
    (applied : breaker.apply event now = .ok after) :
    ∃ lifecycle switch log pending lastSeen,
      after = { breaker with lifecycle, switch, log, pending, lastSeen } := by
  obtain ⟨log, pending, same⟩ := recordChanges_eq { breaker with lastSeen := some now }
    { breaker with
      lastSeen := some now
      lifecycle := (breaker.lifecycle.respond breaker.clock event breaker.switch now).1
      switch := (breaker.lifecycle.respond breaker.clock event breaker.switch now).2 } now
  rw [session.apply_eq, same] at applied
  cases applied
  exact ⟨_, _, _, _, _, rfl⟩

private theorem frame_course {action : Action σ ζ μ κ} {final : Breaker σ ζ μ κ}
    {trail : List (Application σ ζ μ κ)} (course : Course action now breaker trail final)
    (session : breaker.InSession) :
    ∃ lifecycle switch monitor log pending lastSeen,
      final = { breaker with lifecycle, switch, monitor, log, pending, lastSeen } := by
  induction course with
  | rest breaker => exact ⟨_, _, _, _, _, _, rfl⟩
  | aside monitor lastSeen later ih => exact ih ⟨session.initialized, session.ready⟩
  | raise raised applied later ih =>
      obtain ⟨_, _, _, _, _, rfl⟩ := frame_applied session applied
      exact ih (session.applied applied)
  | expire timer polling due applied later ih =>
      have disarmed := session.disarm timer
      obtain ⟨_, _, _, _, _, rfl⟩ := frame_applied disarmed applied
      exact ih (disarmed.applied applied)

variable [Meter μ]

/-- A poll leaves nothing for its own instant. -/
theorem InSession.poll_awaits (session : breaker.InSession)
    (later : now < breaker.clock.after now Monitor.interval) :
    ∃ after, breaker.poll now = .ok after ∧ after.Awaits (now + 1) := by
  obtain ⟨after, polled, _, ahead⟩ := poll_ends session later
  exact ⟨after, polled, ahead⟩

omit [SwitchDriver σ] [Meter μ] in
private theorem waitsFor_disarm (waits : breaker.WaitsFor instants) (timer : TimerId) :
    (breaker.disarm timer).WaitsFor instants := by
  refine ⟨?_, waits.ticks⟩
  intro other deadline due
  rw [disarm, TimerBank.deadline_cancel] at due
  split at due
  · cases due
  · exact waits.timers other deadline due

/-- A poll whose timer events and ticks arm for such instants only. -/
theorem WaitsFor.polled (waits : breaker.WaitsFor instants) (session : breaker.InSession)
    (accepted : breaker.poll now = .ok after)
    (armed : ∀ wait ≤ breaker.lifecycle.longestWait, instants (breaker.clock.after now wait))
    (ticked : ∀ due ≤ now, instants due →
      instants (breaker.clock.after due Monitor.interval)) : after.WaitsFor instants := by
  -- The settings give the waits, and no event of the poll changes them.
  let Kept (middle : Breaker σ ζ μ κ) : Prop :=
    middle.clock = breaker.clock ∧ middle.lifecycle.recovery = breaker.lifecycle.recovery ∧
      middle.WaitsFor instants
  have armed {middle : Breaker σ ζ μ κ} (kept : Kept middle) {event : Event} (wait : Nat)
      (arms : middle.lifecycle.Arms event middle.switch wait) :
      instants (middle.clock.after now wait) := by
    obtain ⟨clock, recovery, _⟩ := kept
    have bounded := arms.le_longestWait
    rw [Lifecycle.longestWait, recovery] at bounded
    rw [clock]
    exact armed wait bounded
  obtain ⟨fired, polled, found, inSession, kept, _, outcome⟩ :=
    @InSession.poll _ _ _ _ _ _ _ session now Kept ⟨rfl, rfl, waits.timers, waits.ticks⟩
      (fun before after timer _ kept _ reacts monitor => by
        have disarmed : Kept (before.disarm timer) :=
          ⟨kept.1, kept.2.1, waitsFor_disarm kept.2.2 timer⟩
        refine ⟨reacts.clock.trans kept.1, ?_, ?_⟩
        · rw [reacts.lifecycle]
          exact (Lifecycle.recovery_respond _ _ _ _ _).trans kept.2.1
        · refine disarmed.2.2.reacts reacts (armed disarmed) ?_
          rw [monitor]
          exact kept.2.2.ticks)
  obtain rfl : polled = after := Except.ok.inj (found.symm.trans accepted)
  have ticks : ∀ tick ∈ (fired.dueTicks now).2.nextTick, instants tick := by
    rw [← kept.1] at ticked
    rcases fired.monitor.runDue_nextTick fired.clock now (Meter.current fired.meter)
      fired.curve.curve.points (fired.lifecycle.phase = .closed) ticked kept.2.2.ticks with
      ⟨_, stopped⟩ | ⟨_, _, among⟩
    · rw [dueTicks, stopped]
      simp
    · exact among
  rcases outcome with ⟨_, same⟩ | ⟨_, _, reacts, monitor⟩
  · rw [same]
    exact ⟨kept.2.2.timers, ticks⟩
  · refine kept.2.2.reacts reacts (armed kept) ?_
    rw [monitor]
    exact ticks

/-- A poll forgets what the breaker was told before. -/
theorem poll_told (breaker : Breaker σ ζ μ κ) (earlier now : Nat) :
    (breaker.told earlier).poll now = breaker.poll now := by
  unfold Breaker.poll ensureInitialized
  rw [show (breaker.told earlier).initialized = breaker.initialized from rfl]
  split <;> rfl

variable [RecordStore κ]

/-- Inputs and polls leave the clock, the mains and the settings of the recovery alone. -/
theorem InSession.frame_act (session : breaker.InSession) {action : Action σ ζ μ κ}
    (other : ∀ adjustment, action ≠ .adjust adjustment) :
    (breaker.act action).clock = breaker.clock ∧ (breaker.act action).mains = breaker.mains ∧
      (breaker.act action).lifecycle.recovery = breaker.lifecycle.recovery := by
  have configuration := (session.configuration_act other).2
  rcases session.course action with ⟨adjustment, adjusting⟩ | ⟨instant, events⟩
  · exact absurd adjusting (other adjustment)
  · obtain ⟨_, _, _, _, _, _, frame⟩ := frame_course events session
    refine ⟨?_, ?_, congrArg Configuration.recovery configuration⟩
    · rw [frame]
    · rw [frame]

end Frames

variable [RecordStore κ]

theorem Awaits.adjust {breaker : Breaker σ ζ μ κ} (awaits : breaker.Awaits bound)
    (adjustment : Adjustment σ ζ μ κ) : (breaker.adjust adjustment).Awaits bound := by
  have adjusted := adjust_adjusted adjustment breaker
  obtain ⟨recovery, attemptsLeft, modulation, same, _⟩ := adjusted.lifecycle
  exact awaits_iff.mpr ((awaits_iff.mp awaits).congr (by rw [same]) adjusted.nextTick)

end Events

end Breaker

end CircuitBreaker
