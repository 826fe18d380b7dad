import CircuitBreaker.Proofs.Replenishment

/-!
# Timers and phases

Each timer belongs to one phase: a timer that is armed anywhere else delivers its expiry to a
machine that has moved on. The detection timer keeps to its phase. The other two leave theirs on
one path each, where a timer that should be disarmed is forgotten.
-/

set_option autoImplicit false

namespace CircuitBreaker

def TimerId.phase : TimerId → Phase
  | supplyDetect => .supplyWait
  | recovery => .closeWait
  | recoveryReset => .closed

instance {Property : TimerId → Prop} [DecidablePred Property] :
    Decidable (∀ timer, Property timer) :=
  decidable_of_iff (∀ timer ∈ TimerId.all, Property timer)
    ⟨fun all timer => all timer timer.mem_all, fun all timer _ => all timer⟩

namespace TimerBank

@[simp]
theorem isArmed_empty (timer : TimerId) : empty.isArmed timer = false := by
  simp [isArmed]

@[simp]
theorem isArmed_cancel (bank : TimerBank) (timer other : TimerId) :
    (bank.cancel timer).isArmed other = (!decide (other = timer) && bank.isArmed other) := by
  by_cases same : other = timer <;> simp [isArmed, same]

@[simp]
theorem isArmed_arm (bank : TimerBank) (clock : Clock) (timer other : TimerId) (now wait : Nat) :
    (bank.arm clock timer now wait).isArmed other =
      (decide (other = timer) || bank.isArmed other) := by
  by_cases same : other = timer <;> simp [isArmed, same]

end TimerBank

namespace Lifecycle

variable (machine : Lifecycle) {σ : Type} [SwitchDriver σ] (clock : Clock) (event : Event)
  (switch : σ) (now : Nat)

/-- The timer is armed in no phase but its own. -/
def Keeps (timer : TimerId) : Prop :=
  machine.timers.isArmed timer = true → machine.phase = timer.phase

/-- The event takes the machine out of the phase of an armed timer and leaves the timer armed: the
switch reports that it closed before the recovery delay is over, or a closed-state mode that has
the switch off ends before the reset timeout is over. -/
def Forgets (after : Lifecycle) (timer : TimerId) : Prop :=
  machine.timers.isArmed timer = true ∧
    match timer with
    | .supplyDetect => False
    | .recovery => machine.phase = .closeWait ∧ event = .switchClosed
    | .recoveryReset =>
        machine.phase = .closed ∧ event ≠ .switchOpened ∧ after.phase = .closeWait

instance (timer : TimerId) : Decidable (machine.Keeps timer) :=
  inferInstanceAs (Decidable (_ → _))

instance (after : Lifecycle) (timer : TimerId) : Decidable (machine.Forgets event after timer) := by
  unfold Forgets
  cases timer <;> infer_instance

/-!
## What events do to the timers
-/

section Events

variable {machine} {timer : TimerId}

private theorem armed_handleOpening
    (armed : (machine.handleOpening clock switch now).timers.isArmed timer = true) :
    machine.timers.isArmed timer = true ∨
      timer = .recovery ∧ (machine.handleOpening clock switch now).phase = .closeWait := by
  unfold handleOpening at armed ⊢
  dsimp only at armed ⊢
  split at armed
  · rw [TimerBank.isArmed_cancel, Bool.and_eq_true] at armed
    exact .inl armed.2
  · split at armed
    · next attempts =>
      rw [if_pos attempts]
      cases timer with
      | recovery => exact .inr ⟨rfl, rfl⟩
      | _ =>
          left
          unfold beginRecovery at armed
          dsimp only at armed
          split at armed <;> simp_all
    · simp only [settleOpened, adoptCause_fields, TimerBank.isArmed_cancel,
        Bool.and_eq_true] at armed
      exact .inl armed.2
  · simp only [settleOpened, adoptCause_fields, TimerBank.isArmed_cancel, Bool.and_eq_true] at armed
    exact .inl armed.2

@[simp]
theorem disarmed_handleOpening :
    (machine.handleOpening clock switch now).timers.isArmed .recoveryReset = false := by
  unfold handleOpening beginRecovery settleOpened
  dsimp only
  split
  · simp
  · split
    · dsimp only
      split <;> simp
    · simp
  · simp

/-- An event arms a timer only on the way into its phase. -/
theorem armed_transition
    (armed : (machine.transition clock event switch now).1.timers.isArmed timer = true) :
    machine.timers.isArmed timer = true ∨
      (machine.transition clock event switch now).1.phase = timer.phase := by
  cases phase : machine.phase with
  | undefined => exact .inl (by simpa [transition_of_undefined, phase] using armed)
  | opened =>
      cases event with
      | closeCommand =>
          right
          cases timer <;> simp_all [transition, beginClose, TimerId.phase]
      | _ => exact .inl (by simpa [transition, phase] using armed)
  | supplyWait =>
      left
      cases event with
      | supplyTimerExpired =>
          obtain ⟨acSupply, filter, reason, same, _⟩ := classifySupply_machine machine switch
          simpa [transition, phase, same] using armed
      | openCommand =>
          simp only [transition, phase, abortClose, settleOpened, TimerBank.isArmed_cancel,
            Bool.and_eq_true] at armed
          exact armed.2
      | _ => simpa [transition, phase, countCrossing] using armed
  | closeWait =>
      cases event with
      | switchClosed =>
          simp only [transition, phase, enterClosed] at armed ⊢
          cases timer with
          | recoveryReset => exact .inr rfl
          | _ =>
              left
              split at armed <;> simpa using armed
      | _ => left; simp_all [transition, openOnCommand]
  | closed =>
      rw [transition_of_closed machine clock event switch now phase] at armed ⊢
      simp only [modeEvent_fields] at armed
      cases event with
      | switchOpened =>
          rcases armed_handleOpening clock switch now armed with before | ⟨rfl, waiting⟩
          · exact .inl before
          · right
            rw [closedTransition, modeEvent_of_ne _ _ _ (by simp [waiting]), waiting]
            rfl
      | _ => left; simp_all [closedTransition, openOnCommand, openOnDuration, replenish]
  | openWait =>
      left
      cases event <;> simpa [transition, phase, settleOpened] using armed

/-- An event that leaves the phase of an armed timer is its expiry, or disarms it, or forgets it. -/
theorem forgets_of_left (waiting : machine.phase = timer.phase)
    (left : (machine.transition clock event switch now).1.phase ≠ timer.phase)
    (other : event ≠ timer.event)
    (before : machine.timers.isArmed timer = true)
    (armed : (machine.transition clock event switch now).1.timers.isArmed timer = true) :
    machine.Forgets event (machine.transition clock event switch now).1 timer := by
  cases timer with
  | supplyDetect =>
      have phase : machine.phase = .supplyWait := waiting
      cases event with
      | supplyTimerExpired => exact absurd rfl other
      | openCommand => simp [transition, phase, abortClose, settleOpened] at armed
      | _ => simp [transition, phase, countCrossing, TimerId.phase] at left
  | recovery =>
      have phase : machine.phase = .closeWait := waiting
      cases event with
      | switchClosed => exact ⟨before, phase, rfl⟩
      | openCommand => simp [transition, phase, openOnCommand] at armed
      | _ => simp [transition, phase, TimerId.phase] at left
  | recoveryReset =>
      have phase : machine.phase = .closed := waiting
      rw [transition_of_closed machine clock event switch now phase] at left armed ⊢
      simp only [modeEvent_fields] at armed
      have closed : (machine.closedTransition clock event switch now).1.phase = .closed := by
        cases event <;> simp_all [closedTransition, openOnCommand, openOnDuration, replenish]
      obtain ⟨after, reason, activeMode, modulation, same, kept | kept⟩ := modeEvent_machine
        (machine.closedTransition clock event switch now).1
        (machine.closedTransition clock event switch now).2 event
      · rw [same] at left
        exact absurd (kept.trans closed) left
      · rw [same]
        refine ⟨before, phase, ?_, kept⟩
        rintro rfl
        simp [closedTransition] at armed

/-- Where a timer is forgotten, the machine does not keep it. -/
theorem not_keeps_of_forgets
    (forgets : machine.Forgets event (machine.transition clock event switch now).1 timer) :
    ¬ (machine.transition clock event switch now).1.Keeps timer := by
  obtain ⟨armed, how⟩ := forgets
  intro keeps
  cases timer with
  | supplyDetect => exact how
  | recovery =>
      obtain ⟨phase, rfl⟩ := how
      have still : (machine.transition clock .switchClosed switch now).1.timers.isArmed .recovery =
          true := by
        simp only [transition, phase, enterClosed]
        split <;> simp [armed]
      have moved := keeps still
      simp [transition, phase, enterClosed, TimerId.phase] at moved
  | recoveryReset =>
      obtain ⟨phase, unopened, waiting⟩ := how
      have still : (machine.transition clock event switch now).1.timers.isArmed .recoveryReset =
          true := by
        simp only [transition_of_closed machine clock event switch now phase, modeEvent_fields]
        cases event with
        | switchOpened => exact absurd rfl unopened
        | openCommand =>
            have opening :=
              transition_openCommand_isOpening machine clock switch now (by simp [phase])
            rcases opening with opened | opening <;> simp_all
        | overCurrentDuration =>
            have opening := transition_overCurrent_isOpening machine clock switch now phase
            rcases opening with opened | opening <;> simp_all
        | _ => exact armed
      have moved := keeps still
      simp [waiting, TimerId.phase] at moved

theorem Keeps.transition (held : machine.Keeps timer)
    (fired : event = timer.event → machine.timers.isArmed timer = false)
    (heeded : ¬ machine.Forgets event (machine.transition clock event switch now).1 timer) :
    (machine.transition clock event switch now).1.Keeps timer := by
  intro armed
  rcases armed_transition clock event switch now armed with before | moved
  · by_contra left
    have other : event ≠ timer.event := by
      intro same
      simp [fired same] at before
    exact heeded (forgets_of_left clock event switch now (held before) left other before armed)
  · exact moved

/-- The detection timer is armed all through the detection, and nothing but its expiry or an open
request ends that. -/
theorem armed_of_supplyWait
    (held : machine.phase = .supplyWait → event ≠ .supplyTimerExpired →
      machine.timers.isArmed .supplyDetect = true)
    (detecting : (machine.transition clock event switch now).1.phase = .supplyWait) :
    (machine.transition clock event switch now).1.timers.isArmed .supplyDetect = true := by
  cases phase : machine.phase with
  | opened => cases event <;> simp_all [transition, beginClose]
  | supplyWait =>
      cases event with
      | supplyTimerExpired =>
          obtain ⟨acSupply, filter, reason, same, _⟩ := classifySupply_machine machine switch
          simp [transition, phase, same] at detecting
      | _ => simp_all [transition, abortClose, countCrossing]
  | _ =>
      rcases transition_phase machine clock event switch now with same | moved
      · simp [same, phase] at detecting
      · simp [detecting, phase, Phase.next] at moved

/-- A machine answers by the table, or drops a crossing. -/
private theorem respond_cases (ready : machine.Ready) :
    machine.respond clock event switch now = machine.transition clock event switch now ∨
      event = .zeroCrossing ∧ machine.respond clock event switch now = (machine, switch) := by
  unfold respond
  split
  · next ignored =>
    by_cases crossing : event = .zeroCrossing
    · exact .inr ⟨crossing, rfl⟩
    · simp [ready.hears event crossing] at ignored
  · exact .inl rfl

theorem Keeps.respond (ready : machine.Ready) (held : machine.Keeps timer)
    (fired : event = timer.event → machine.timers.isArmed timer = false)
    (heeded : ¬ machine.Forgets event (machine.respond clock event switch now).1 timer) :
    (machine.respond clock event switch now).1.Keeps timer := by
  rcases respond_cases clock event switch now ready with answered | ⟨_, dropped⟩
  · rw [answered] at heeded ⊢
    exact held.transition clock event switch now fired heeded
  · rw [dropped]
    exact held

theorem Ready.not_keeps_of_forgets (ready : machine.Ready)
    (forgets : machine.Forgets event (machine.respond clock event switch now).1 timer) :
    ¬ (machine.respond clock event switch now).1.Keeps timer := by
  rcases respond_cases clock event switch now ready with answered | ⟨rfl, dropped⟩
  · rw [answered] at forgets ⊢
    exact Lifecycle.not_keeps_of_forgets clock event switch now forgets
  · rw [dropped] at forgets
    obtain ⟨_, how⟩ := forgets
    cases timer with
    | supplyDetect => exact how.elim
    | recovery => cases how.2
    | recoveryReset => cases how.1.symm.trans how.2.2

theorem Ready.armed_of_supplyWait (ready : machine.Ready)
    (held : machine.phase = .supplyWait → event ≠ .supplyTimerExpired →
      machine.timers.isArmed .supplyDetect = true)
    (detecting : (machine.respond clock event switch now).1.phase = .supplyWait) :
    (machine.respond clock event switch now).1.timers.isArmed .supplyDetect = true := by
  rcases respond_cases clock event switch now ready with answered | ⟨rfl, dropped⟩
  · rw [answered] at detecting ⊢
    exact Lifecycle.armed_of_supplyWait clock event switch now held detecting
  · rw [dropped] at detecting ⊢
    exact held detecting (by simp)

end Events

end Lifecycle

namespace Application

variable {σ ζ μ κ : Type}

def Forgets (application : Application σ ζ μ κ) (timer : TimerId) : Prop :=
  application.before.lifecycle.Forgets application.event application.after.lifecycle timer

instance (application : Application σ ζ μ κ) (timer : TimerId) :
    Decidable (application.Forgets timer) :=
  inferInstanceAs (Decidable (Lifecycle.Forgets _ _ _ _))

/-- The event of a timer that the application meets in the phase of the timer. -/
def InPhase (application : Application σ ζ μ κ) : Prop :=
  ∀ timer : TimerId, application.event = timer.event →
    application.before.lifecycle.phase = timer.phase

end Application

namespace Breaker

variable {σ ζ μ κ : Type} [SwitchDriver σ]

def KeepsTimers (breaker : Breaker σ ζ μ κ) : Prop := ∀ timer, breaker.lifecycle.Keeps timer

/-- The detection timer is armed exactly while the supply is detected. -/
def TimesDetection (breaker : Breaker σ ζ μ κ) : Prop :=
  breaker.lifecycle.timers.isArmed .supplyDetect = true ↔ breaker.lifecycle.phase = .supplyWait

/-!
## One event
-/

section Applied

variable {application : Application σ ζ μ κ} (session : application.before.InSession)
  (applied : application.before.apply application.event application.now = .ok application.after)
include session applied

private theorem keeps_applied {timer : TimerId} (held : application.before.lifecycle.Keeps timer)
    (fired : application.event = timer.event →
      application.before.lifecycle.timers.isArmed timer = false)
    (heeded : ¬ application.Forgets timer) : application.after.lifecycle.Keeps timer := by
  have lifecycle := (session.reacts applied).lifecycle
  unfold Application.Forgets at heeded
  rw [lifecycle] at heeded ⊢
  exact held.respond application.before.clock application.event application.before.switch
    application.now session.ready fired heeded

private theorem not_keeps_applied {timer : TimerId} (forgets : application.Forgets timer) :
    ¬ application.after.lifecycle.Keeps timer := by
  have lifecycle := (session.reacts applied).lifecycle
  unfold Application.Forgets at forgets
  rw [lifecycle] at forgets ⊢
  exact session.ready.not_keeps_of_forgets application.before.clock application.event
    application.before.switch application.now forgets

end Applied

private theorem timesDetection_applied (application : Application σ ζ μ κ)
    (session : application.before.InSession)
    (applied : application.before.apply application.event application.now = .ok application.after)
    (held : application.before.lifecycle.Keeps .supplyDetect)
    (running : application.before.lifecycle.phase = .supplyWait →
      application.event ≠ .supplyTimerExpired →
      application.before.lifecycle.timers.isArmed .supplyDetect = true)
    (fired : application.event = .supplyTimerExpired →
      application.before.lifecycle.timers.isArmed .supplyDetect = false) :
    application.after.TimesDetection := by
  have kept := keeps_applied session applied held fired (fun forgets => forgets.2)
  refine ⟨kept, ?_⟩
  rw [(session.reacts applied).lifecycle]
  exact session.ready.armed_of_supplyWait application.before.clock application.event
    application.before.switch application.now running

/-!
## The events of an action
-/

omit [SwitchDriver σ] in
private theorem not_raises_timer {phase : Phase} {action : Action σ ζ μ κ} (timer : TimerId) :
    ¬ Raises phase timer.event action := by
  intro raised
  cases action with
  | input input now =>
      cases input with
      | switchChanged closed => cases closed <;> cases timer <;> cases raised
      | _ => cases timer <;> cases raised
  | poll now => cases timer <;> cases raised.2
  | adjust adjustment => exact raised

omit [SwitchDriver σ] in
private theorem isArmed_disarm (breaker : Breaker σ ζ μ κ) (timer other : TimerId) :
    (breaker.disarm timer).lifecycle.timers.isArmed other =
      (!decide (other = timer) && breaker.lifecycle.timers.isArmed other) :=
  TimerBank.isArmed_cancel _ _ _

private theorem timesDetection_course {action : Action σ ζ μ κ} {now : Nat}
    {breaker final : Breaker σ ζ μ κ} {trail : List (Application σ ζ μ κ)}
    (course : Course action now breaker trail final) (session : breaker.InSession)
    (held : breaker.TimesDetection) : final.TimesDetection := by
  induction course with
  | rest breaker => exact held
  | aside monitor lastSeen later ih => exact ih ⟨session.initialized, session.ready⟩ held
  | @raise before after final trail event raised applied later ih =>
      refine ih (session.applied applied) (timesDetection_applied ⟨before, event, now, after⟩
        session applied held.mp (fun detecting _ => held.mpr detecting) ?_)
      rintro rfl
      exact absurd raised (not_raises_timer .supplyDetect)
  | @expire before after final trail timer polling due applied later ih =>
      have inside := session.disarm timer
      refine ih (inside.applied applied) (timesDetection_applied
        ⟨before.disarm timer, timer.event, now, after⟩ inside applied ?_ ?_ ?_)
      · intro armed
        rw [isArmed_disarm, Bool.and_eq_true] at armed
        exact held.mp armed.2
      · intro detecting other
        have different : TimerId.supplyDetect ≠ timer := by
          rintro rfl
          exact other rfl
        rw [isArmed_disarm]
        simpa [different] using held.mpr detecting
      · intro expired
        cases timer with
        | supplyDetect => simp [isArmed_disarm]
        | _ => cases expired

/-- A poll forgets no timer: its trip opens the switch, and an expiry that leaves `closed` would
be that of the timer that it disarms. -/
private theorem heeded_trip {before after : Breaker σ ζ μ κ} {now : Nat}
    (session : before.InSession) (closed : before.lifecycle.phase = .closed)
    (applied : before.apply .overCurrentDuration now = .ok after) (timer : TimerId) :
    ¬ (⟨before, .overCurrentDuration, now, after⟩ : Application σ ζ μ κ).Forgets timer := by
  rintro ⟨_, how⟩
  cases timer with
  | supplyDetect => exact how
  | recovery => cases closed.symm.trans how.1
  | recoveryReset =>
      have reacts := session.reacts applied
      have opening := Lifecycle.transition_overCurrent_isOpening before.lifecycle before.clock
        before.switch now closed
      have moved : after.lifecycle.phase = .closeWait := how.2.2
      rw [reacts.phase, session.ready.respond_of_ne _ _ _ _ (by simp)] at moved
      rw [moved] at opening
      rcases opening with same | same <;> cases same

omit [SwitchDriver σ] in
private theorem heeded_expiry {before after : Breaker σ ζ μ κ} {now : Nat} {timer : TimerId}
    (held : before.lifecycle.Keeps timer) (armed : before.lifecycle.timers.isArmed timer = true)
    (other : TimerId) :
    ¬ (⟨before.disarm timer, timer.event, now, after⟩ : Application σ ζ μ κ).Forgets other := by
  rintro ⟨still, how⟩
  cases other with
  | supplyDetect => exact how
  | recovery => cases timer <;> cases how.2
  | recoveryReset =>
      have phase : before.lifecycle.phase = .closed := how.1
      rw [held armed] at phase
      cases timer with
      | recoveryReset => simp [isArmed_disarm] at still
      | _ => cases phase

/-- What a poll does, and what an input does that forgets no timer, keeps the timers to their
phases. -/
private theorem keepsTimers_course {action : Action σ ζ μ κ} {now : Nat}
    {breaker final : Breaker σ ζ μ κ} {trail : List (Application σ ζ μ κ)}
    (course : Course action now breaker trail final) (session : breaker.InSession)
    (held : breaker.KeepsTimers)
    (heeded : (∃ instant, action = .poll instant) ∨
      ∀ application ∈ trail, ∀ timer, ¬ application.Forgets timer) :
    final.KeepsTimers ∧
      ∀ application ∈ trail, application.InPhase ∧ ∀ timer, ¬ application.Forgets timer := by
  induction course with
  | rest breaker => exact ⟨held, List.forall_mem_nil _⟩
  | aside monitor lastSeen later ih => exact ih ⟨session.initialized, session.ready⟩ held heeded
  | @raise before after final trail event raised applied later ih =>
      have other (timer : TimerId) : event ≠ timer.event := by
        rintro rfl
        exact not_raises_timer timer raised
      have first (timer : TimerId) :
          ¬ (⟨before, event, now, after⟩ : Application σ ζ μ κ).Forgets timer := by
        rcases heeded with ⟨instant, rfl⟩ | heeded
        · obtain ⟨closed, rfl⟩ := raised
          exact heeded_trip session closed applied timer
        · exact heeded _ List.mem_cons_self timer
      obtain ⟨kept, rest⟩ := ih (session.applied applied) (fun timer =>
        keeps_applied session applied (held timer) (fun same => absurd same (other timer))
          (first timer)) (heeded.imp_right fun all => (List.forall_mem_cons.mp all).2)
      exact ⟨kept, List.forall_mem_cons.mpr
        ⟨⟨fun timer same => absurd same (other timer), first⟩, rest⟩⟩
  | @expire before after final trail timer polling due applied later ih =>
      have inside := session.disarm timer
      have armed := TimerBank.isArmed_of_firstDue due
      have first (other : TimerId) :
          ¬ (⟨before.disarm timer, timer.event, now, after⟩ : Application σ ζ μ κ).Forgets other :=
        heeded_expiry (held timer) armed other
      have same {other : TimerId} (expired : timer.event = other.event) : timer = other := by
        cases timer <;> cases other <;> first | rfl | cases expired
      obtain ⟨kept, rest⟩ := ih (inside.applied applied) (fun other =>
        keeps_applied inside applied
          (fun still => held other (by
            rw [isArmed_disarm, Bool.and_eq_true] at still
            exact still.2))
          (fun expired => by
            cases same expired
            simp [isArmed_disarm])
          (first other)) (.inl ⟨now, polling⟩)
      refine ⟨kept, List.forall_mem_cons.mpr ⟨⟨?_, first⟩, rest⟩⟩
      intro other expired
      cases same expired
      exact held timer armed

/-!
## Steps
-/

section Steps

variable [Mains ζ] [Meter μ] [RecordStore κ] {breaker : Breaker σ ζ μ κ}

omit [Meter μ] in
private theorem isArmed_init (fresh : breaker.initialized = false) (now : Nat) (timer : TimerId) :
    (breaker.init now).lifecycle.timers.isArmed timer = false := by
  obtain ⟨_, recovery, settings, lifecycle⟩ := init_fresh fresh now
  rw [lifecycle]
  exact TimerBank.isArmed_empty timer

omit [Mains ζ] [Meter μ] in
private theorem timers_adjust (breaker : Breaker σ ζ μ κ) (adjustment : Adjustment σ ζ μ κ) :
    (breaker.adjust adjustment).lifecycle.timers = breaker.lifecycle.timers ∧
      (breaker.adjust adjustment).lifecycle.phase = breaker.lifecycle.phase := by
  obtain ⟨recovery, attemptsLeft, modulation, same, _⟩ :=
    (adjust_adjusted adjustment breaker).lifecycle
  rw [same]
  exact ⟨rfl, rfl⟩

variable (known : breaker.initialized = true → breaker.InSession)
include known

private theorem timesDetection_step (held : breaker.TimesDetection) (step : Step σ ζ μ κ) :
    (breaker.step step).TimesDetection := by
  generalize applied : breaker.applied step = trail
  generalize stepped : breaker.step step = after
  have taken := step_taken known step
  rw [applied, stepped] at taken
  cases taken with
  | idle step => exact held
  | adjust adjustment =>
      obtain ⟨timers, phase⟩ := timers_adjust breaker adjustment
      rw [TimesDetection, timers, phase]
      exact held
  | begun now fresh =>
      obtain ⟨_, _, _, phase⟩ := init_of_fresh fresh now
      rw [TimesDetection, isArmed_init fresh, phase]
      split <;> simp
  | ended session => simp [TimesDetection, Breaker.ended, Lifecycle.stop]
  | course session action now events => exact timesDetection_course events session held

private theorem keepsTimers_step (held : breaker.KeepsTimers) (step : Step σ ζ μ κ)
    (heeded : ∀ application ∈ breaker.applied step, ∀ timer, ¬ application.Forgets timer) :
    (breaker.step step).KeepsTimers ∧
      ∀ application ∈ breaker.applied step, application.InPhase := by
  generalize applied : breaker.applied step = trail at heeded ⊢
  generalize stepped : breaker.step step = after
  have taken := step_taken known step
  rw [applied, stepped] at taken
  cases taken with
  | idle step => exact ⟨held, List.forall_mem_nil _⟩
  | adjust adjustment =>
      obtain ⟨timers, phase⟩ := timers_adjust breaker adjustment
      refine ⟨fun timer => ?_, List.forall_mem_nil _⟩
      rw [Lifecycle.Keeps, timers, phase]
      exact held timer
  | begun now fresh =>
      refine ⟨fun timer armed => ?_, List.forall_mem_nil _⟩
      rw [isArmed_init fresh] at armed
      cases armed
  | ended session =>
      refine ⟨fun timer armed => ?_, List.forall_mem_nil _⟩
      simp [Breaker.ended, Lifecycle.stop] at armed
  | course session action now events =>
      obtain ⟨kept, all⟩ := keepsTimers_course events session held (.inr heeded)
      exact ⟨kept, fun application member => (all application member).1⟩

private theorem heeded_step (held : breaker.KeepsTimers) (step : Step σ ζ μ κ)
    (kept : (breaker.step step).KeepsTimers) :
    ∀ application ∈ breaker.applied step, ∀ timer, ¬ application.Forgets timer := by
  cases inside : breaker.initialized with
  | false =>
      rw [applied_of_fresh inside]
      exact List.forall_mem_nil _
  | true =>
      have session := known inside
      cases step with
      | act action =>
          cases action with
          | input input now =>
              intro application member timer forgets
              obtain ⟨monitor, before, applied, same⟩ := session.applied_input member
              have entered : application.before.InSession := by
                rw [before]
                exact session.watch monitor
              have kept : application.after.lifecycle.Keeps timer := by
                rw [← same]
                exact kept timer
              exact not_keeps_applied entered applied forgets kept
          | poll now =>
              rcases session.course (.poll now) with ⟨_, adjusts⟩ | ⟨instant, course⟩
              · cases adjusts
              · intro application member
                exact ((keepsTimers_course course session held (.inl ⟨now, rfl⟩)).2
                  application member).2
          | adjust adjustment => exact List.forall_mem_nil _
      | init now => exact List.forall_mem_nil _
      | shutdown => exact List.forall_mem_nil _

end Steps

/-!
## Every run
-/

section Runs

variable [Mains ζ] [Meter μ] [RecordStore κ] (clock : Clock) (switch : σ) (mains : ζ) (meter : μ)
  (store : κ) (steps : List (Step σ ζ μ κ))

/-- In every run the detection timer is armed exactly while the supply is detected. Every timer
keeps to its phase all along if and only if no event forgets one, and then every expiry that is
applied finds the phase that waits for it. -/
theorem timers_kept_iff :
    ((ofParts clock switch mains meter store).history steps).TimesDetection ∧
      ((∀ earlier, earlier <+: steps →
          ((ofParts clock switch mains meter store).history earlier).KeepsTimers) ↔
        ∀ application ∈ (ofParts clock switch mains meter store).appliedAlong steps,
          ∀ timer, ¬ application.Forgets timer) ∧
      ((∀ application ∈ (ofParts clock switch mains meter store).appliedAlong steps,
          ∀ timer, ¬ application.Forgets timer) →
        ∀ application ∈ (ofParts clock switch mains meter store).appliedAlong steps,
          application.InPhase) := by
  generalize born : ofParts clock switch mains meter store = start
  have known (steps : List (Step σ ζ μ κ)) :
      (start.history steps).initialized = true → (start.history steps).InSession :=
    inSession_history (by rw [← born]; rfl) steps
  have empty : start.lifecycle = {} := by rw [← born]; rfl
  induction steps using List.reverseRecOn with
  | nil =>
      have kept : start.KeepsTimers := by
        intro timer armed
        rw [empty] at armed
        cases timer <;> cases armed
      refine ⟨?_, ⟨fun _ => List.forall_mem_nil _, fun _ earlier before => ?_⟩,
        fun _ => List.forall_mem_nil _⟩
      · rw [history, List.foldl_nil, TimesDetection, empty]
        decide
      · rw [List.prefix_nil.mp before]
        exact kept
  | append_singleton steps step ih =>
      obtain ⟨detects, keeps, inPhase⟩ := ih
      simp only [history_concat, appliedAlong_concat, List.forall_mem_append]
      refine ⟨timesDetection_step (known steps) detects step, ⟨fun kept => ?_, ?_⟩, ?_⟩
      · have before : ∀ earlier, earlier <+: steps → (start.history earlier).KeepsTimers :=
          fun earlier within => kept earlier (within.trans (List.prefix_append steps [step]))
        refine ⟨keeps.mp before,
          heeded_step (known steps) (before steps (List.prefix_refl _)) step ?_⟩
        rw [← history_concat]
        exact kept _ (List.prefix_refl _)
      · rintro ⟨heeded, last⟩ earlier before
        rcases List.prefix_concat_iff.mp before with rfl | before
        · rw [history_concat]
          exact (keepsTimers_step (known steps) (keeps.mpr heeded steps (List.prefix_refl _)) step
            last).1
        · exact keeps.mpr heeded earlier before
      · rintro ⟨heeded, last⟩
        exact ⟨inPhase heeded, (keepsTimers_step (known steps)
          (keeps.mpr heeded steps (List.prefix_refl _)) step last).2⟩

open Bench

/-- A trip that leaves an attempt to wait for, and its report. -/
def awaitsRecovery : List BenchAction := closed ++ [trip, .input (.switchChanged false) 300000]

def cycleEnds : List BenchAction :=
  cycleOpens.dropLast ++
    [.adjust (.recovery { enabled := true, attempts := 1, resetTimeout := Duration.ofSeconds 1 }),
      .input .zeroCrossing 350000]

/-- The attempt is granted, and the recovery timer expires in the wait that armed it. -/
def recovers : List BenchStep :=
  session (.adjust (.recovery { enabled := true, attempts := 1 }) ::
    awaitsRecovery ++ [.poll 1300000])

theorem timers_kept_recovering :
    (∀ application ∈ (bench {} {}).appliedAlong recovers, ∀ timer, ¬ application.Forgets timer) ∧
      ∀ application ∈ (bench {} {}).appliedAlong recovers, application.InPhase := by
  have heeded : ∀ application ∈ (bench {} {}).appliedAlong recovers,
      ∀ timer, ¬ application.Forgets timer := by decide +kernel
  obtain ⟨_, _, inPhase⟩ :=
    timers_kept_iff Clock.micros ({} : ScriptedSwitch) ({} : ScriptedMains) ({} : ScriptedMeter)
      ({ storage := .erased 0 0 } : FramedStore FaultyMemory) recovers
  exact ⟨heeded, inPhase heeded⟩

/-- A switch that reports in `closeWait` that it closed takes the recovery timer along to `closed`,
and the end of a cycle that has the switch off takes the reset timer along to `closeWait`. Both
expire there. -/
theorem timers_forgotten :
    ((oneAttempt (awaitsRecovery ++ [.input (.switchChanged true) 400000])).lifecycle.phase =
        .closed ∧
      (oneAttempt (awaitsRecovery ++ [.input (.switchChanged true)
        400000])).lifecycle.timers.isArmed .recovery = true ∧
      ∃ application ∈ (oneAttempt (awaitsRecovery ++ [.input (.switchChanged true)
          400000])).applied (.act (.poll 1300000)),
        application.event = .recoveryTimerExpired ∧
          application.before.lifecycle.phase = .closed) ∧
    ((modulating.init 0).run (reclosedOnAc ++ cycleEnds)).lifecycle.phase = .closeWait ∧
      ((modulating.init 0).run (reclosedOnAc ++ cycleEnds)).lifecycle.timers.isArmed
        .recoveryReset = true ∧
      ∃ application ∈ ((modulating.init 0).run (reclosedOnAc ++ cycleEnds)).applied
          (.act (.poll 1310000)),
        application.event = .recoveryResetTimerExpired ∧
          application.before.lifecycle.phase = .closeWait := by
  decide +kernel

end Runs

end Breaker

end CircuitBreaker
