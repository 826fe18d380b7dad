import CircuitBreaker.Breaker
import CircuitBreaker.Proofs.Lifecycle
import CircuitBreaker.Proofs.Monitor

/-!
# Facts about breaker operations

A breaker in a session accepts every input and every poll. What they do to the
lifecycle and to the switch is what the handled events do; log, notices and store
stay out of these facts.
-/

set_option autoImplicit false

namespace CircuitBreaker

def Input.event : Input → Event
  | zeroCrossing => .zeroCrossing
  | switchChanged true => .switchClosed
  | switchChanged false => .switchOpened
  | openRequest => .openCommand
  | closeRequest => .closeCommand

namespace Lifecycle

variable {σ : Type} [SwitchDriver σ]

/-- The answer of a ready machine to an event, a dropped crossing included. -/
def respond (machine : Lifecycle) (clock : Clock) (event : Event) (switch : σ) (now : Nat) :
    Lifecycle × σ :=
  if machine.filter.isIgnored event then (machine, switch)
  else machine.transition clock event switch now

variable {machine : Lifecycle} (clock : Clock) (event : Event) (switch : σ) (now : Nat)

theorem Ready.handle_eq_respond (ready : machine.Ready) :
    machine.handle clock event switch now = .ok (machine.respond clock event switch now) := by
  rw [ready.handle, respond]
  split <;> rfl

theorem Ready.respond (ready : machine.Ready) :
    (machine.respond clock event switch now).1.Ready := by
  unfold Lifecycle.respond
  split
  · exact ready
  · exact ready.transition clock event switch now

theorem Ready.respond_of_ne (ready : machine.Ready) (other : event ≠ .zeroCrossing) :
    machine.respond clock event switch now = machine.transition clock event switch now := by
  simp [Lifecycle.respond, ready.hears event other]

theorem respond_of_isOpening (opening : machine.phase.IsOpening)
    (unasked : machine.phase = .opened → event ≠ .closeCommand) :
    (machine.respond clock event switch now).1.phase.IsOpening ∧
      ((machine.respond clock event switch now).2 = switch ∨
        (machine.respond clock event switch now).2 = SwitchDriver.turnOff switch) := by
  unfold respond
  split
  · exact ⟨opening, .inl rfl⟩
  · exact transition_of_isOpening machine clock event switch now opening unasked

theorem respond_isResting
    (resting : (machine.respond clock event switch now).1.phase.IsResting) :
    (machine.respond clock event switch now).2 = switch ∧
      (machine.phase.IsResting ∨ event = .switchOpened ∨
        machine.DecidesToOpen event ∧ SwitchDriver.isOn switch = false) := by
  unfold respond at resting ⊢
  split
  · next ignored =>
    rw [if_pos ignored] at resting
    exact ⟨rfl, .inl resting⟩
  · next heard =>
    rw [if_neg heard] at resting
    exact transition_isResting machine clock event switch now resting

theorem respond_timer_of_closed (timer : TimerId)
    (still : (machine.respond clock timer.event switch now).1.phase = .closed) :
    machine.phase = .closed ∧ (machine.respond clock timer.event switch now).2 = switch := by
  unfold respond at still ⊢
  split
  · next ignored =>
    rw [if_pos ignored] at still
    exact ⟨still, rfl⟩
  · next heard =>
    rw [if_neg heard] at still
    exact transition_timer_of_closed machine clock switch now timer still

theorem respond_of_opened (opened : machine.phase = .opened) (other : event ≠ .closeCommand) :
    machine.respond clock event switch now = (machine, switch) := by
  unfold respond
  split
  · rfl
  · exact transition_of_opened machine clock event switch now opened other

theorem Ready.attemptsLeft_respond (ready : machine.Ready) :
    (machine.respond clock event switch now).1.attemptsLeft =
      (machine.transition clock event switch now).1.attemptsLeft := by
  by_cases crossing : event = .zeroCrossing
  · unfold Lifecycle.respond
    split
    · simp [attemptsLeft_transition, crossing]
    · rfl
  · rw [ready.respond_of_ne clock event switch now crossing]

end Lifecycle

namespace Breaker

variable {σ ζ μ κ : Type}

/-!
## Settings and records
-/

theorem persist_eq [RecordStore κ] {α : Type} [Record α] (breaker : Breaker σ ζ μ κ)
    (settings : α) : ∃ store log, breaker.persist settings = { breaker with store, log } := by
  unfold persist
  split
  · exact ⟨_, breaker.log, rfl⟩
  · split
    · exact ⟨breaker.store, breaker.log, rfl⟩
    · exact ⟨breaker.store, _, rfl⟩

theorem restoreOrDefault_eq [RecordStore κ] (breaker : Breaker σ ζ μ κ) (α : Type) [Record α]
    (now : Nat) :
    ∃ store log, (breaker.restoreOrDefault α now).2 = { breaker with store, log } := by
  unfold restoreOrDefault
  split
  · exact ⟨breaker.store, _, rfl⟩
  · obtain ⟨store, log, same⟩ := persist_eq
      (breaker.record (.configDefaulted (Record.kind α)) now) (Record.initial : α)
    exact ⟨store, log, same⟩

@[simp]
theorem clock_restoreOrDefault [RecordStore κ] (breaker : Breaker σ ζ μ κ) (α : Type) [Record α]
    (now : Nat) : (breaker.restoreOrDefault α now).2.clock = breaker.clock := by
  obtain ⟨store, log, same⟩ := restoreOrDefault_eq breaker α now
  rw [same]

@[simp]
theorem switch_restoreOrDefault [RecordStore κ] (breaker : Breaker σ ζ μ κ) (α : Type) [Record α]
    (now : Nat) : (breaker.restoreOrDefault α now).2.switch = breaker.switch := by
  obtain ⟨store, log, same⟩ := restoreOrDefault_eq breaker α now
  rw [same]

private theorem recordIf_eq (condition : Prop) [Decidable condition] (breaker : Breaker σ ζ μ κ)
    (event : LogEvent) (now : Nat) :
    ∃ log, (if condition then breaker.record event now else breaker) = { breaker with log } := by
  split
  · exact ⟨_, rfl⟩
  · exact ⟨breaker.log, rfl⟩

variable [SwitchDriver σ]

/-- Recording touches the log and the pending notice, and takes the notice. -/
theorem recordChanges_eq (before after : Breaker σ ζ μ κ) (now : Nat) :
    ∃ log pending,
      recordChanges before after now =
        { after with
          log
          pending
          lifecycle := { after.lifecycle with noticePending := false } } := by
  unfold recordChanges
  obtain ⟨moved, recorded⟩ := recordIf_eq (before.lifecycle.phase ≠ after.lifecycle.phase) after
    (.stateChanged before.lifecycle.phase after.lifecycle.phase) now
  rw [recorded]
  obtain ⟨taken, recorded⟩ := recordIf_eq
    (after.lifecycle.attemptsLeft < before.lifecycle.attemptsLeft) { after with log := moved }
    (.recoveryAttempt after.lifecycle.attemptsLeft) now
  dsimp only at recorded ⊢
  rw [recorded]
  cases noticed : after.lifecycle.noticePending with
  | false => exact ⟨taken, after.pending, by simp [Lifecycle.takeNotice, noticed]⟩
  | true =>
      simp only [Lifecycle.takeNotice, noticed]
      exact ⟨_, _, rfl⟩

/-!
## Events
-/

/-- A breaker between `init` and `shutdown`. -/
structure InSession (breaker : Breaker σ ζ μ κ) : Prop where
  initialized : breaker.initialized = true
  ready : breaker.lifecycle.Ready

/-- What an event does to the parts of a breaker that events concern. -/
structure Reacts (before : Breaker σ ζ μ κ) (event : Event) (now : Nat)
    (after : Breaker σ ζ μ κ) : Prop where
  clock : after.clock = before.clock
  initialized : after.initialized = before.initialized
  meter : after.meter = before.meter
  curve : after.curve = before.curve
  lifecycle : after.lifecycle =
    { (before.lifecycle.respond before.clock event before.switch now).1 with
      noticePending := false }
  switch : after.switch = (before.lifecycle.respond before.clock event before.switch now).2

theorem Reacts.phase {before after : Breaker σ ζ μ κ} {event : Event} {now : Nat}
    (reacts : before.Reacts event now after) :
    after.lifecycle.phase =
      (before.lifecycle.respond before.clock event before.switch now).1.phase := by
  rw [reacts.lifecycle]

theorem Reacts.attemptsLeft {before after : Breaker σ ζ μ κ} {event : Event} {now : Nat}
    (reacts : before.Reacts event now after) (session : before.InSession) :
    after.lifecycle.attemptsLeft =
      (before.lifecycle.transition before.clock event before.switch now).1.attemptsLeft := by
  rw [reacts.lifecycle, ← session.ready.attemptsLeft_respond]

theorem Reacts.inSession {before after : Breaker σ ζ μ κ} {event : Event} {now : Nat}
    (reacts : before.Reacts event now after) (session : before.InSession) : after.InSession where
  initialized := by rw [reacts.initialized, session.initialized]
  ready := by
    have ready := session.ready.respond before.clock event before.switch now
    rw [reacts.lifecycle]
    exact ⟨ready.started, ready.hears⟩

/-- What every command to the switch keeps, every event keeps. -/
theorem Reacts.keeps {before after : Breaker σ ζ μ κ} {event : Event} {now : Nat}
    (reacts : before.Reacts event now after) {Property : σ → Prop}
    (turnedOn : ∀ switch, Property switch → Property (SwitchDriver.turnOn switch).2)
    (turnedOff : ∀ switch, Property switch → Property (SwitchDriver.turnOff switch))
    (holds : Property before.switch) : Property after.switch := by
  rw [reacts.switch]
  unfold Lifecycle.respond
  split
  · exact holds
  · exact Lifecycle.transition_keeps turnedOn turnedOff before.lifecycle before.clock event now
      holds

theorem Reacts.isOpening {before after : Breaker σ ζ μ κ} {event : Event} {now : Nat}
    (reacts : before.Reacts event now after) (opening : before.lifecycle.phase.IsOpening)
    (unasked : before.lifecycle.phase = .opened → event ≠ .closeCommand) :
    after.lifecycle.phase.IsOpening := by
  rw [reacts.phase]
  exact (Lifecycle.respond_of_isOpening _ _ _ now opening unasked).1

/-- In a session an event is taken and recorded. -/
theorem InSession.apply_eq {breaker : Breaker σ ζ μ κ} (session : breaker.InSession)
    (event : Event) (now : Nat) :
    breaker.apply event now =
      .ok (recordChanges { breaker with lastSeen := some now }
        { breaker with
          lastSeen := some now
          lifecycle := (breaker.lifecycle.respond breaker.clock event breaker.switch now).1
          switch :=
            (breaker.lifecycle.respond breaker.clock event breaker.switch now).2 } now) := by
  simp only [Breaker.apply, ensureInitialized, session.initialized, ↓reduceIte, bind, Except.bind,
    session.ready.handle_eq_respond]

theorem InSession.apply {breaker : Breaker σ ζ μ κ} (session : breaker.InSession) (event : Event)
    (now : Nat) :
    ∃ after, breaker.apply event now = .ok after ∧ breaker.Reacts event now after ∧
      after.monitor = breaker.monitor := by
  let answer := breaker.lifecycle.respond breaker.clock event breaker.switch now
  obtain ⟨log, pending, same⟩ := recordChanges_eq { breaker with lastSeen := some now }
    { breaker with lastSeen := some now, lifecycle := answer.1, switch := answer.2 } now
  rw [session.apply_eq, same]
  exact ⟨_, rfl, ⟨rfl, rfl, rfl, rfl, rfl, rfl⟩, rfl⟩

/-- Inputs other than a close request that is not needed are their events; only requests
touch the monitor. -/
theorem InSession.handleInput {breaker : Breaker σ ζ μ κ} (session : breaker.InSession)
    (input : Input) (now : Nat) :
    ∃ after, breaker.handleInput input now = .ok after ∧
      (after = breaker ∧ input = .closeRequest ∧ breaker.lifecycle.phase = .closed ∨
        breaker.Reacts input.event now after ∧
          after.monitor =
            match input with
            | .openRequest => breaker.monitor.stop
            | .closeRequest => breaker.monitor.reset.start breaker.clock now
            | _ => breaker.monitor) := by
  cases input with
  | zeroCrossing =>
      obtain ⟨after, applied, reacts, monitor⟩ := session.apply .zeroCrossing now
      exact ⟨after, applied, .inr ⟨reacts, monitor⟩⟩
  | switchChanged closed =>
      cases closed with
      | false =>
          obtain ⟨after, applied, reacts, monitor⟩ := session.apply .switchOpened now
          exact ⟨after, applied, .inr ⟨reacts, monitor⟩⟩
      | true =>
          obtain ⟨after, applied, reacts, monitor⟩ := session.apply .switchClosed now
          exact ⟨after, applied, .inr ⟨reacts, monitor⟩⟩
  | openRequest =>
      obtain ⟨after, applied, reacts, monitor⟩ := session.apply .openCommand now
      refine ⟨{ after with monitor := after.monitor.stop }, ?_, .inr ⟨?_, ?_⟩⟩
      · simp [Breaker.handleInput, requestOpen, applied, bind, Except.bind]
      · exact ⟨reacts.clock, reacts.initialized, reacts.meter, reacts.curve, reacts.lifecycle,
          reacts.switch⟩
      · simp [monitor]
  | closeRequest =>
      by_cases closed : breaker.lifecycle.phase = .closed
      · refine ⟨breaker, ?_, .inl ⟨rfl, rfl, closed⟩⟩
        simp [Breaker.handleInput, requestClose, ensureInitialized, session.initialized, closed,
          bind, Except.bind]
      · have reset : { breaker with monitor := breaker.monitor.reset }.InSession :=
          ⟨session.initialized, session.ready⟩
        obtain ⟨after, applied, reacts, monitor⟩ := reset.apply .closeCommand now
        refine ⟨{ after with monitor := after.monitor.start after.clock now }, ?_,
          .inr ⟨?_, ?_⟩⟩
        · simp only [Breaker.handleInput, requestClose, ensureInitialized,
            if_pos session.initialized, if_neg closed, bind, Except.bind]
          rw [applied]
        · exact ⟨reacts.clock, reacts.initialized, reacts.meter, reacts.curve, reacts.lifecycle,
            reacts.switch⟩
        · simp [monitor, reacts.clock]

/-!
## Polls
-/

def told (breaker : Breaker σ ζ μ κ) (now : Nat) : Breaker σ ζ μ κ :=
  { breaker with lastSeen := some now }

/-- The breaker with a timer disarmed, as it is when the event of the timer comes. -/
def disarm (breaker : Breaker σ ζ μ κ) (timer : TimerId) : Breaker σ ζ μ κ :=
  { breaker with
    lifecycle := { breaker.lifecycle with timers := breaker.lifecycle.timers.cancel timer } }

omit [SwitchDriver σ] in
theorem InSession.told {breaker : Breaker σ ζ μ κ} (session : breaker.InSession) (now : Nat) :
    (breaker.told now).InSession :=
  ⟨session.initialized, session.ready⟩

omit [SwitchDriver σ] in
theorem InSession.disarm {breaker : Breaker σ ζ μ κ} (session : breaker.InSession)
    (timer : TimerId) : (breaker.disarm timer).InSession :=
  ⟨session.initialized, session.ready.started, session.ready.hears⟩

omit [SwitchDriver σ] in
theorem takeExpired_of_none {breaker : Breaker σ ζ μ κ} {now : Nat}
    (due : breaker.lifecycle.timers.firstDue now = none) :
    breaker.lifecycle.takeExpired now = (none, breaker.lifecycle) := by
  simp [Lifecycle.takeExpired, TimerBank.takeExpired, due]

omit [SwitchDriver σ] in
theorem takeExpired_of_some {breaker : Breaker σ ζ μ κ} {now : Nat} {timer : TimerId}
    (due : breaker.lifecycle.timers.firstDue now = some timer) :
    breaker.lifecycle.takeExpired now =
      (some timer.event, (breaker.disarm timer).lifecycle) := by
  simp [Lifecycle.takeExpired, TimerBank.takeExpired, due, disarm]

/-- The timer events of a poll, each with the phase that meets it. -/
def timerEvents (now : Nat) : Nat → Breaker σ ζ μ κ → List (Phase × Event)
  | 0, _ => []
  | rounds + 1, breaker =>
      match breaker.lifecycle.takeExpired now with
      | (none, _) => []
      | (some event, lifecycle) =>
          (breaker.lifecycle.phase, event) ::
            match { breaker with lifecycle }.apply event now with
            | .ok after => timerEvents now rounds after
            | .error _ => []

/-- What the timers due at an instant do to a breaker is what each of them does. -/
theorem InSession.fireTimers {breaker : Breaker σ ζ μ κ} (session : breaker.InSession) (now : Nat)
    (rounds : Nat) {Property : Breaker σ ζ μ κ → Prop} (start : Property breaker)
    (step : ∀ (before after : Breaker σ ζ μ κ) (timer : TimerId), before.InSession →
      Property before → (before.lifecycle.phase, timer.event) ∈ breaker.timerEvents now rounds →
      (before.disarm timer).Reacts timer.event now after → after.monitor = before.monitor →
      Property after) :
    ∃ after, breaker.fireTimers now rounds = .ok after ∧ after.InSession ∧ Property after := by
  induction rounds generalizing breaker with
  | zero => exact ⟨breaker, rfl, session, start⟩
  | succ rounds ih =>
      cases due : breaker.lifecycle.timers.firstDue now with
      | none =>
          have expired := takeExpired_of_none due
          exact ⟨breaker, by simp [Breaker.fireTimers, expired], session, start⟩
      | some timer =>
          have expired := takeExpired_of_some due
          have disarmed := session.disarm timer
          obtain ⟨middle, applied, reacts, monitor⟩ := disarmed.apply timer.event now
          have events : breaker.timerEvents now (rounds + 1) =
              (breaker.lifecycle.phase, timer.event) :: middle.timerEvents now rounds := by
            rw [timerEvents, expired]
            dsimp only
            rw [show { breaker with lifecycle := (breaker.disarm timer).lifecycle } =
              breaker.disarm timer from rfl, applied]
          -- The events of the later rounds are a tail of these, so `step` covers them too.
          rw [events] at step
          obtain ⟨after, fired, kept, property⟩ := ih (reacts.inSession disarmed)
            (step breaker middle timer session start List.mem_cons_self reacts monitor)
            (fun before after timer session property member =>
              step before after timer session property (List.mem_cons_of_mem _ member))
          refine ⟨after, ?_, kept, property⟩
          rw [Breaker.fireTimers, expired]
          dsimp only
          rw [show { breaker with lifecycle := (breaker.disarm timer).lifecycle } =
            breaker.disarm timer from rfl, applied]
          exact fired

variable [Meter μ]

def dueTicks (breaker : Breaker σ ζ μ κ) (now : Nat) : Option Nat × Monitor :=
  breaker.monitor.runDue breaker.clock now (Meter.current breaker.meter)
    breaker.curve.curve.points (breaker.lifecycle.phase = .closed)

def raisesTrip (breaker : Breaker σ ζ μ κ) (now : Nat) : Bool :=
  match (breaker.told now).fireTimers now TimerId.all.length with
  | .ok fired => (fired.dueTicks now).1.isSome
  | .error _ => false

omit [SwitchDriver σ] in
theorem closed_of_dueTicks {breaker : Breaker σ ζ μ κ} {now point : Nat}
    (tripped : (breaker.dueTicks now).1 = some point) : breaker.lifecycle.phase = .closed := by
  by_cases closed : breaker.lifecycle.phase = .closed
  · exact closed
  · simp [dueTicks, closed, Monitor.runDue_of_not_closed] at tripped

/-- Once its timers are fired, a poll runs the ticks. -/
theorem InSession.poll_of_fired {breaker fired : Breaker σ ζ μ κ} (session : breaker.InSession)
    {now : Nat} (firing : (breaker.told now).fireTimers now TimerId.all.length = .ok fired) :
    breaker.poll now = fired.runMonitor now := by
  simp only [Breaker.poll, ensureInitialized, if_pos session.initialized, bind, Except.bind]
  rw [show { breaker with lastSeen := some now } = breaker.told now from rfl, firing]

/-- A poll fires the timers and runs the ticks; a tick that trips the breaker finds it
closed and is taken as an event. -/
theorem InSession.poll {breaker : Breaker σ ζ μ κ} (session : breaker.InSession) (now : Nat)
    {Property : Breaker σ ζ μ κ → Prop} (start : Property (breaker.told now))
    (step : ∀ (before after : Breaker σ ζ μ κ) (timer : TimerId), before.InSession →
      Property before →
      (before.lifecycle.phase, timer.event) ∈
        (breaker.told now).timerEvents now TimerId.all.length →
      (before.disarm timer).Reacts timer.event now after → after.monitor = before.monitor →
      Property after) :
    ∃ fired after, breaker.poll now = .ok after ∧ fired.InSession ∧ Property fired ∧
      breaker.raisesTrip now = (fired.dueTicks now).1.isSome ∧
      ((fired.dueTicks now).1 = none ∧ after = { fired with monitor := (fired.dueTicks now).2 } ∨
        (fired.dueTicks now).1.isSome = true ∧ fired.lifecycle.phase = .closed ∧
          fired.Reacts .overCurrentDuration now after ∧
          after.monitor = (fired.dueTicks now).2) := by
  obtain ⟨fired, firing, kept, property⟩ :=
    (session.told now).fireTimers now TimerId.all.length start step
  have polled := session.poll_of_fired firing
  have raises : breaker.raisesTrip now = (fired.dueTicks now).1.isSome := by
    simp [raisesTrip, firing]
  cases ticks : fired.dueTicks now with
  | mk found monitor =>
      have runDue := ticks
      rw [ticks] at raises
      unfold dueTicks at runDue
      cases found with
      | none =>
          refine ⟨fired, _, ?_, kept, property, ?_, .inl ⟨?_, rfl⟩⟩
          · rw [polled, runMonitor, runDue, ticks]
          · rw [ticks, raises]
          · rw [ticks]
      | some point =>
          have ticked : ({ fired with monitor } : Breaker σ ζ μ κ).InSession :=
            ⟨kept.initialized, kept.ready⟩
          obtain ⟨after, applied, reacts, same⟩ := ticked.apply .overCurrentDuration now
          refine ⟨fired, after, ?_, kept, property, ?_, .inr ⟨?_,
            closed_of_dueTicks (by rw [ticks]), ?_, by rw [same, ticks]⟩⟩
          · rw [polled, runMonitor, runDue]
            exact applied
          · rw [ticks, raises]
          · rw [ticks]
            rfl
          · exact ⟨reacts.clock, reacts.initialized, reacts.meter, reacts.curve,
              reacts.lifecycle, reacts.switch⟩

end Breaker

end CircuitBreaker
