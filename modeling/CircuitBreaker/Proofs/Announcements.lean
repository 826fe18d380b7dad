import CircuitBreaker.Proofs.Applied

/-!
# Announcements

A protective trip is announced once, by the event that brings the breaker to rest open;
nothing else is. What an event announces becomes the pending notice and one record of the
log.
-/

set_option autoImplicit false

namespace CircuitBreaker

/-- The machine came to rest open, and a protection is the reason. -/
def Lifecycle.Trips (before after : Lifecycle) : Prop :=
  before.phase ≠ .opened ∧ after.phase = .opened ∧ after.reason.isProtective = true

instance (before after : Lifecycle) : Decidable (before.Trips after) :=
  inferInstanceAs (Decidable (_ ∧ _ ∧ _))

def LogEvent.tripCause? : LogEvent → Option TripCause
  | .tripped cause => some cause
  | _ => none

def LogEvent.IsSetting : LogEvent → Prop
  | .configRestored _ | .configDefaulted _ | .configStoreFailed _ => True
  | _ => False

namespace Application

variable {σ ζ μ κ : Type} [SwitchDriver σ] (application : Application σ ζ μ κ)

def notice? : Option Notice :=
  if application.before.lifecycle.Trips application.after.lifecycle then
    some ⟨.opened, application.after.cause⟩
  else none

def records : List LogEvent :=
  (if application.before.lifecycle.phase ≠ application.after.lifecycle.phase then
      [.stateChanged application.before.lifecycle.phase application.after.lifecycle.phase]
    else []) ++
  (if application.after.lifecycle.attemptsLeft < application.before.lifecycle.attemptsLeft then
      [.recoveryAttempt application.after.lifecycle.attemptsLeft]
    else []) ++
  application.notice?.toList.map fun notice => .tripped notice.cause

theorem filterMap_records :
    application.records.filterMap LogEvent.tripCause? =
      application.notice?.toList.map Notice.cause := by
  unfold records
  split <;> split <;> cases application.notice? <;> rfl

end Application

def announced {σ ζ μ κ : Type} [SwitchDriver σ] (trail : List (Application σ ζ μ κ)) :
    List Notice :=
  trail.filterMap Application.notice?

/-- A step that takes no notice away and does not begin or end a session. -/
def Step.KeepsNotice {σ ζ μ κ : Type} : Step σ ζ μ κ → Prop
  | .act (.adjust .dispatch) | .init _ | .shutdown => False
  | .act _ => True

namespace Lifecycle

variable {σ : Type} [SwitchDriver σ] (machine : Lifecycle) (clock : Clock) (event : Event)
  (switch : σ) (now : Nat)

/-!
## Notices of the machine
-/

private theorem noticePending_releaseSwitch {moved : Lifecycle}
    (moving : machine.phase ≠ .opened) (notice : moved.noticePending = machine.noticePending) :
    (moved.releaseSwitch switch).1.noticePending =
      (machine.noticePending || decide (machine.Trips (moved.releaseSwitch switch).1)) := by
  unfold releaseSwitch
  split
  · simp [Trips, notice]
  · simp [settleOpened, Trips, moving, notice]

private theorem noticePending_handleOpening (closed : machine.phase = .closed) :
    (machine.handleOpening clock switch now).noticePending =
      (machine.noticePending ||
        decide (machine.Trips (machine.handleOpening clock switch now))) := by
  unfold handleOpening
  dsimp only
  split
  · simp [Trips, closed]
  · split
    · simp [beginRecovery, Trips]
    · simp [settleOpened, adoptCause, Trips, closed]
  · simp [settleOpened, Trips, closed]

private theorem noticePending_closedTransition (closed : machine.phase = .closed) :
    (machine.closedTransition clock event switch now).1.noticePending =
      (machine.noticePending ||
        decide (machine.Trips (machine.closedTransition clock event switch now).1)) := by
  have moving : machine.phase ≠ .opened := by simp [closed]
  cases event with
  | openCommand => exact noticePending_releaseSwitch machine switch moving rfl
  | overCurrentDuration => exact noticePending_releaseSwitch machine switch moving rfl
  | switchOpened => exact noticePending_handleOpening machine clock switch now closed
  | _ => simp [closedTransition, replenish, Trips, closed]

/-- The event that trips the machine makes a notice pending. -/
theorem noticePending_transition :
    (machine.transition clock event switch now).1.noticePending =
      (machine.noticePending ||
        decide (machine.Trips (machine.transition clock event switch now).1)) := by
  cases phase : machine.phase with
  | undefined => simp [transition_of_undefined, phase, Trips]
  | opened => cases event <;> simp [transition, phase, beginClose, Trips]
  | supplyWait =>
      cases event with
      | supplyTimerExpired =>
          obtain ⟨acSupply, filter, reason, same, _⟩ := classifySupply_machine machine switch
          simp [transition, phase, same, Trips]
      | openCommand =>
          simp [transition, phase, abortClose, settleOpened, Trips, Reason.isProtective]
      | _ => simp [transition, phase, countCrossing, Trips]
  | closeWait =>
      cases event with
      | openCommand =>
          have moving : machine.phase ≠ .opened := by simp [phase]
          have answer : machine.transition clock .openCommand switch now =
              machine.openOnCommand switch := by simp [transition, phase]
          rw [answer]
          exact noticePending_releaseSwitch machine switch moving rfl
      | _ => simp [transition, phase, enterClosed, Trips]
  | closed =>
      have said := noticePending_closedTransition machine clock event switch now phase
      by_cases left : (machine.closedTransition clock event switch now).1.phase = .closed
      · -- What the mode does to a closed machine never brings it to rest open.
        obtain ⟨after, reason, activeMode, modulation, same, kept⟩ := modeEvent_machine
          (machine.closedTransition clock event switch now).1
          (machine.closedTransition clock event switch now).2 event
        rw [transition_of_closed machine clock event switch now phase, same]
        dsimp only
        rw [said]
        have moved : after ≠ .opened := by
          rcases kept with rfl | rfl <;> simp [left]
        simp [Trips, left, moved]
      · rw [transition_of_closed_left machine clock event switch now phase left]
        exact said
  | openWait => cases event <;> simp [transition, phase, settleOpened, Trips]

/-- A dropped event announces nothing. -/
theorem noticePending_respond :
    (machine.respond clock event switch now).1.noticePending =
      (machine.noticePending ||
        decide (machine.Trips (machine.respond clock event switch now).1)) := by
  unfold respond
  split
  · have still : ¬ machine.Trips machine := fun trips => trips.1 trips.2.1
    simp [still]
  · exact noticePending_transition machine clock event switch now

end Lifecycle

/-!
## Growth of the log
-/

def EventLog.addAll {capacity : Nat} (log : EventLog capacity) (entries : List (LogEvent × Nat)) :
    EventLog capacity :=
  entries.foldl (fun log entry => log.add entry.1 entry.2) log

theorem EventLog.addAll_append {capacity : Nat} (log : EventLog capacity)
    (entries others : List (LogEvent × Nat)) :
    log.addAll (entries ++ others) = (log.addAll entries).addAll others :=
  List.foldl_append

theorem EventLog.addAll_singleton {capacity : Nat} (log : EventLog capacity) (event : LogEvent)
    (time : Nat) : log.addAll [(event, time)] = log.add event time :=
  rfl

/-- Records are added, and those of trips among them have these causes. -/
def EventLog.Grew {capacity : Nat} (before after : EventLog capacity) (trips : List TripCause) :
    Prop :=
  ∃ entries : List (LogEvent × Nat), after = before.addAll entries ∧
    entries.filterMap (fun entry => entry.1.tripCause?) = trips

namespace EventLog.Grew

variable {capacity : Nat} {first second third : EventLog capacity} {earlier later : List TripCause}

theorem refl (log : EventLog capacity) : log.Grew log [] := ⟨[], rfl, rfl⟩

theorem trans (start : first.Grew second earlier) (rest : second.Grew third later) :
    first.Grew third (earlier ++ later) := by
  obtain ⟨entries, rfl, rfl⟩ := start
  obtain ⟨others, rfl, rfl⟩ := rest
  exact ⟨entries ++ others, (addAll_append _ _ _).symm, List.filterMap_append⟩

theorem add (log : EventLog capacity) {event : LogEvent} (quiet : event.tripCause? = none)
    (now : Nat) : log.Grew (log.add event now) [] :=
  ⟨[(event, now)], rfl, by simp [quiet]⟩

end EventLog.Grew

namespace Breaker

variable {σ ζ μ κ : Type} [SwitchDriver σ]

/-!
## One event
-/

omit [SwitchDriver σ] in
private theorem record_if (condition : Prop) [Decidable condition] (breaker : Breaker σ ζ μ κ)
    (event : LogEvent) (now : Nat) :
    (if condition then breaker.record event now else breaker) =
      { breaker with log := breaker.log.addAll (if condition then [(event, now)] else []) } := by
  split <;> rfl

private theorem recordChanges_spec (before after : Breaker σ ζ μ κ) (event : Event) (now : Nat)
    (initialized : after.initialized = true)
    (notice : after.lifecycle.noticePending = decide (before.lifecycle.Trips after.lifecycle)) :
    (recordChanges before after now).pending =
        (Application.notice? ⟨before, event, now, recordChanges before after now⟩).or
          after.pending ∧
      (recordChanges before after now).log =
        after.log.addAll ((Application.records
          ⟨before, event, now, recordChanges before after now⟩).map (·, now)) := by
  obtain ⟨log, pending, same⟩ := recordChanges_eq before after now
  have noticed : Application.notice? ⟨before, event, now, recordChanges before after now⟩ =
      if before.lifecycle.Trips after.lifecycle then some ⟨.opened, after.cause⟩ else none := by
    rw [same]
    rfl
  have records : Application.records ⟨before, event, now, recordChanges before after now⟩ =
      (if before.lifecycle.phase ≠ after.lifecycle.phase then
          [.stateChanged before.lifecycle.phase after.lifecycle.phase] else []) ++
        (if after.lifecycle.attemptsLeft < before.lifecycle.attemptsLeft then
          [.recoveryAttempt after.lifecycle.attemptsLeft] else []) ++
        (Application.notice? ⟨before, event, now, recordChanges before after now⟩).toList.map
          fun notice => .tripped notice.cause := by
    unfold Application.records
    rw [same]
  have shown (trips : before.lifecycle.Trips after.lifecycle) : after.state = .opened := by
    simp [state, initialized, trips.2.1, BreakerState.ofPhase]
  rw [records, noticed]
  simp only [recordChanges, record_if, Lifecycle.takeNotice]
  by_cases trips : before.lifecycle.Trips after.lifecycle
  · have waiting : after.lifecycle.noticePending = true := by rw [notice, decide_eq_true trips]
    rw [waiting, if_pos trips]
    dsimp only
    constructor
    · rw [← shown trips]
      rfl
    · split <;> split <;> rfl
  · have quiet : after.lifecycle.noticePending = false := by rw [notice, decide_eq_false trips]
    rw [quiet, if_neg trips]
    dsimp only
    constructor
    · rfl
    · split <;> split <;> rfl

/-- What an event of a session leaves to the observer and to the log. -/
theorem InSession.apply_recorded {before after : Breaker σ ζ μ κ} (session : before.InSession)
    (silent : before.lifecycle.noticePending = false) {event : Event} {now : Nat}
    (applied : before.apply event now = .ok after) :
    after.pending = (Application.notice? ⟨before, event, now, after⟩).or before.pending ∧
      after.log = before.log.addAll
        ((Application.records ⟨before, event, now, after⟩).map (·, now)) := by
  have notice : (before.lifecycle.respond before.clock event before.switch now).1.noticePending =
      decide (before.lifecycle.Trips
        (before.lifecycle.respond before.clock event before.switch now).1) := by
    rw [Lifecycle.noticePending_respond, silent, Bool.false_or]
  rw [session.apply_eq] at applied
  cases applied
  exact recordChanges_spec { before with lastSeen := some now }
    { before with
      lastSeen := some now
      lifecycle := (before.lifecycle.respond before.clock event before.switch now).1
      switch := (before.lifecycle.respond before.clock event before.switch now).2 }
    event now session.initialized notice

/-!
## Records of settings
-/

section Settings

omit [SwitchDriver σ]

/-- Not more than `count` records are added, and all of them are about settings. -/
def Settles (before after : EventLog 32) (count : Nat) : Prop :=
  ∃ entries : List (LogEvent × Nat), after = before.addAll entries ∧ entries.length ≤ count ∧
    ∀ entry ∈ entries, entry.1.IsSetting

theorem Settles.trans {first second third : EventLog 32} {count more : Nat}
    (start : Settles first second count) (rest : Settles second third more) :
    Settles first third (count + more) := by
  obtain ⟨entries, rfl, few, settings⟩ := start
  obtain ⟨others, rfl, fewer, rest⟩ := rest
  refine ⟨entries ++ others, (EventLog.addAll_append _ _ _).symm, ?_,
    List.forall_mem_append.mpr ⟨settings, rest⟩⟩
  rw [List.length_append]
  omega

theorem Settles.grew {before after : EventLog 32} {count : Nat}
    (settles : Settles before after count) : before.Grew after [] := by
  obtain ⟨entries, grown, _, settings⟩ := settles
  refine ⟨entries, grown, List.filterMap_eq_nil_iff.mpr fun entry member => ?_⟩
  have setting := settings entry member
  cases event : entry.1 <;> rw [event] at setting <;> first | exact setting.elim | rfl

private theorem settles_add (log : EventLog 32) (event : LogEvent) (setting : event.IsSetting)
    (now : Nat) : Settles log (log.add event now) 1 :=
  ⟨[(event, now)], rfl, Nat.le_refl 1, by simpa using setting⟩

private theorem settles_nil (log : EventLog 32) (count : Nat) : Settles log log count :=
  ⟨[], rfl, Nat.zero_le _, List.forall_mem_nil _⟩

variable [RecordStore κ]

private theorem settles_persist {α : Type} [Record α] (breaker : Breaker σ ζ μ κ) (settings : α) :
    Settles breaker.log (breaker.persist settings).log 1 := by
  unfold persist
  split
  · exact settles_nil _ 1
  · split
    · exact settles_nil _ 1
    · exact settles_add _ (.configStoreFailed (Record.kind α)) trivial _

private theorem settles_restoreOrDefault (α : Type) [Record α] (breaker : Breaker σ ζ μ κ)
    (now : Nat) : Settles breaker.log (breaker.restoreOrDefault α now).2.log 2 := by
  unfold restoreOrDefault
  split
  · have restored := settles_add breaker.log (.configRestored (Record.kind α)) trivial now
    exact restored.trans (settles_nil _ 1)
  · have defaulted := settles_add breaker.log (.configDefaulted (Record.kind α)) trivial now
    exact defaulted.trans
      (settles_persist (breaker.record (.configDefaulted (Record.kind α)) now) Record.initial)

end Settings

/-- A session begins with records about the settings and one of the phase of the switch. -/
theorem log_init [Mains ζ] [RecordStore κ] {breaker : Breaker σ ζ μ κ}
    (fresh : breaker.initialized = false) (now : Nat) :
    ∃ restored : EventLog 32, Settles breaker.log restored 6 ∧
      (breaker.init now).log =
        restored.add (.stateChanged .undefined (breaker.init now).lifecycle.phase) now := by
  have notYet : ¬ breaker.initialized = true := by simp [fresh]
  let told : Breaker σ ζ μ κ := { breaker with lastSeen := some now }
  let curved := (told.restoreOrDefault CurveSettings now).2
  let recovered := (curved.restoreOrDefault RecoverySettings now).2
  have curve := settles_restoreOrDefault CurveSettings told now
  have recovery := settles_restoreOrDefault RecoverySettings curved now
  have modulation := settles_restoreOrDefault ModulationSettings recovered now
  refine ⟨_, (curve.trans recovery).trans modulation, ?_⟩
  rw [init, if_neg notYet]
  rfl

theorem adjust_settles [RecordStore κ] (breaker : Breaker σ ζ μ κ)
    (adjustment : Adjustment σ ζ μ κ) :
    Settles breaker.log (breaker.adjust adjustment).log 1 ∧
      (adjustment ≠ .dispatch → (breaker.adjust adjustment).pending = breaker.pending) := by
  rcases adjust_shape adjustment breaker with
    ⟨_, _, same, kept⟩ | ⟨_, _, _, _, rfl⟩ | ⟨α, _, _, settings, switch, curve, lifecycle, monitor,
      stored⟩
  · rw [same]
    exact ⟨settles_nil _ 1, kept⟩
  · exact ⟨settles_nil _ 1, fun _ => rfl⟩
  · let set : Breaker σ ζ μ κ := { breaker with switch, curve, lifecycle, monitor }
    have settles := settles_persist set settings
    rw [stored]
    refine ⟨settles, fun _ => ?_⟩
    obtain ⟨store, log, same⟩ := persist_eq set settings
    rw [same]

/-!
## Runs
-/

/-- An event leaves its announcement to the observer, and its records to the log. -/
def Recorded (application : Application σ ζ μ κ) : Prop :=
  application.after.pending = application.notice?.or application.before.pending ∧
    application.after.log =
      application.before.log.addAll (application.records.map (·, application.now))

private theorem announced_cons (application : Application σ ζ μ κ)
    (trail : List (Application σ ζ μ κ)) :
    announced (application :: trail) = application.notice?.toList ++ announced trail := by
  unfold announced
  cases noticed : application.notice? <;> simp [noticed]

private theorem announced_append (trail later : List (Application σ ζ μ κ)) :
    announced (trail ++ later) = announced trail ++ announced later :=
  List.filterMap_append

theorem silent_apply {before after : Breaker σ ζ μ κ} (session : before.InSession)
    {event : Event} {now : Nat} (applied : before.apply event now = .ok after) :
    after.lifecycle.noticePending = false := by
  rw [(session.reacts applied).lifecycle]

private theorem grew_of_recorded {application : Application σ ζ μ κ}
    (recorded : Recorded application) :
    application.before.log.Grew application.after.log
      (application.notice?.toList.map Notice.cause) := by
  refine ⟨_, recorded.2, ?_⟩
  rw [← application.filterMap_records, List.filterMap_map]
  rfl

/-- The events of a trail are recorded, and what they announce is pending and logged. -/
structure Announces (before : Breaker σ ζ μ κ) (trail : List (Application σ ζ μ κ))
    (after : Breaker σ ζ μ κ) : Prop where
  silent : after.lifecycle.noticePending = false
  recorded : ∀ application ∈ trail, Recorded application
  pending : after.pending = (announced trail).getLast?.or before.pending
  log : before.log.Grew after.log ((announced trail).map Notice.cause)

private theorem Announces.cons {before final : Breaker σ ζ μ κ}
    {application : Application σ ζ μ κ} {later : List (Application σ ζ μ κ)}
    (pending : application.before.pending = before.pending)
    (log : application.before.log = before.log) (recorded : Recorded application)
    (rest : application.after.Announces later final) :
    before.Announces (application :: later) final where
  silent := rest.silent
  recorded := List.forall_mem_cons.mpr ⟨recorded, rest.recorded⟩
  pending := by
    rw [rest.pending, recorded.1, announced_cons, List.getLast?_append, pending, Option.or_assoc]
    cases application.notice? <;> rfl
  log := by
    rw [announced_cons, List.map_append, ← log]
    exact (grew_of_recorded recorded).trans rest.log

private theorem course_announces {action : Action σ ζ μ κ} {now : Nat}
    {breaker final : Breaker σ ζ μ κ} {trail : List (Application σ ζ μ κ)}
    (course : Course action now breaker trail final) (session : breaker.InSession)
    (silent : breaker.lifecycle.noticePending = false) : breaker.Announces trail final := by
  induction course with
  | rest breaker => exact ⟨silent, List.forall_mem_nil _, rfl, .refl _⟩
  | aside monitor lastSeen later ih =>
      obtain ⟨quiet, recorded, pending, log⟩ := ih ⟨session.initialized, session.ready⟩ silent
      exact ⟨quiet, recorded, pending, log⟩
  | raise raised applied later ih =>
      exact .cons rfl rfl (session.apply_recorded silent applied)
        (ih (session.applied applied) (silent_apply session applied))
  | expire timer polling due applied later ih =>
      have inside := session.disarm timer
      exact .cons rfl rfl (inside.apply_recorded silent applied)
        (ih (inside.applied applied) (silent_apply inside applied))

variable [Mains ζ] [Meter μ] [RecordStore κ]

/-- A step records its events, and what they announce is pending and logged after it. -/
theorem step_announces {breaker : Breaker σ ζ μ κ}
    (known : breaker.initialized = true → breaker.InSession)
    (silent : breaker.lifecycle.noticePending = false) (step : Step σ ζ μ κ) :
    (breaker.step step).lifecycle.noticePending = false ∧
      (∀ application ∈ breaker.applied step, Recorded application) ∧
      breaker.log.Grew (breaker.step step).log
        ((announced (breaker.applied step)).map Notice.cause) ∧
      (step.KeepsNotice → (breaker.step step).pending =
        (announced (breaker.applied step)).getLast?.or breaker.pending) := by
  have taken := step_taken known step
  generalize breaker.applied step = trail at taken
  generalize breaker.step step = after at taken
  cases taken with
  | idle => exact ⟨silent, List.forall_mem_nil _, .refl _, fun _ => rfl⟩
  | adjust adjustment =>
      obtain ⟨recovery, attemptsLeft, modulation, same, _⟩ :=
        (adjust_adjusted adjustment breaker).lifecycle
      obtain ⟨settles, pending⟩ := adjust_settles breaker adjustment
      refine ⟨by rw [same]; exact silent, List.forall_mem_nil _, settles.grew, ?_⟩
      intro keeps
      refine pending ?_
      rintro rfl
      exact keeps
  | begun now fresh =>
      obtain ⟨_, recovery, modulation, same⟩ := init_fresh fresh now
      obtain ⟨restored, settles, log⟩ := log_init fresh now
      have grew : breaker.log.Grew (breaker.init now).log [] := by
        rw [log]
        exact settles.grew.trans (.add restored rfl now)
      refine ⟨by rw [same]; rfl, List.forall_mem_nil _, grew, ?_⟩
      intro keeps
      exact keeps.elim
  | ended session =>
      exact ⟨rfl, List.forall_mem_nil _, .refl _, fun keeps => keeps.elim⟩
  | course session action now events =>
      obtain ⟨quiet, recorded, pending, log⟩ := course_announces events session silent
      exact ⟨quiet, recorded, log, fun _ => pending⟩

private theorem silent_history (clock : Clock) (switch : σ) (mains : ζ) (meter : μ)
    (store : κ) (steps : List (Step σ ζ μ κ)) :
    ((ofParts clock switch mains meter store).history steps).lifecycle.noticePending = false := by
  induction steps using List.reverseRecOn with
  | nil => rfl
  | append_singleton steps step ih =>
      rw [history_concat]
      exact (step_announces (inSession_history rfl steps) ih step).1

private theorem along_announces {breaker : Breaker σ ζ μ κ}
    (known : breaker.initialized = true → breaker.InSession)
    (silent : breaker.lifecycle.noticePending = false) (steps : List (Step σ ζ μ κ)) :
    breaker.log.Grew (breaker.history steps).log
        ((announced (breaker.appliedAlong steps)).map Notice.cause) ∧
      ((∀ step ∈ steps, step.KeepsNotice) → (breaker.history steps).pending =
        (announced (breaker.appliedAlong steps)).getLast?.or breaker.pending) := by
  induction steps generalizing breaker with
  | nil => exact ⟨.refl _, fun _ => rfl⟩
  | cons step rest ih =>
      obtain ⟨quiet, _, log, pending⟩ := step_announces known silent step
      obtain ⟨later, kept⟩ := ih (step_inSession known step) quiet
      rw [appliedAlong, announced_append, List.map_append, List.getLast?_append, Option.or_assoc]
      refine ⟨log.trans later, ?_⟩
      intro keeps
      obtain ⟨keep, keeps⟩ := List.forall_mem_cons.mp keeps
      rw [← pending keep]
      exact kept keeps

theorem Reachable.silent {breaker : Breaker σ ζ μ κ} (reachable : breaker.Reachable) :
    breaker.lifecycle.noticePending = false := by
  obtain ⟨_, clock, switch, mains, meter, store, steps, rfl⟩ := reachable
  exact silent_history clock switch mains meter store steps

/-- An event that brings the breaker to rest open with a protection as the reason, and no other
event, replaces the pending notice and adds a record of the trip to the log. The notice stays
until it is taken, so that of several trips the latest is told. -/
theorem trips_announced {breaker : Breaker σ ζ μ κ} (reachable : breaker.Reachable)
    (steps : List (Step σ ζ μ κ)) :
    (∀ step, ∀ application ∈ breaker.applied step, Recorded application ∧
      application.records.filterMap LogEvent.tripCause? =
        application.notice?.toList.map Notice.cause) ∧
    breaker.log.Grew (breaker.history steps).log
      ((announced (breaker.appliedAlong steps)).map Notice.cause) ∧
    ((∀ step ∈ steps, step.KeepsNotice) →
      (breaker.history steps).pending =
          (announced (breaker.appliedAlong steps)).getLast?.or breaker.pending ∧
        ((breaker.adjust .dispatch).history steps).dispatchNotice.1 =
          (announced ((breaker.adjust .dispatch).appliedAlong steps)).getLast?) := by
  have known (_ : breaker.initialized = true) : breaker.InSession := reachable.inSession
  have silent := reachable.silent
  obtain ⟨log, pending⟩ := along_announces known silent steps
  refine ⟨?_, log, fun keeps => ⟨pending keeps, ?_⟩⟩
  · intro step application member
    obtain ⟨_, recorded, _⟩ := step_announces known silent step
    exact ⟨recorded application member, application.filterMap_records⟩
  · have told := (along_announces (step_inSession known (.act (.adjust .dispatch))) silent steps).2
    exact (told keeps).trans Option.or_none

open Bench

/-- Two trips of a breaker that has been closed, with another close between them. -/
def twoTrips : List BenchStep :=
  [.act (.adjust (.surroundings (·.trip .selfTest) id id id)),
    .act (.input (.switchChanged false) 300000), .act (.input .closeRequest 400000),
    .act (.poll 600000), .act (.input (.switchChanged true) 600000),
    .act (.adjust (.surroundings (·.trip .overTemperature) id id id)),
    .act (.input (.switchChanged false) 700000)]

/-- Of two trips that nobody took notice of, the second one is told. -/
theorem trips_announced_twoTrips :
    ((bench {} {}).history (session closed)).log.Grew
        (((bench {} {}).history (session closed)).history twoTrips).log
        [.overCurrentTest, .overTemperature] ∧
      (((bench {} {}).history (session closed)).history twoTrips).pending =
        some ⟨.opened, .overTemperature⟩ := by
  have reachable : ((bench {} {}).history (session closed)).Reachable :=
    ⟨by decide +kernel, _, _, _, _, _, session closed, rfl⟩
  have found : announced (((bench {} {}).history (session closed)).appliedAlong twoTrips) =
      [⟨.opened, .overCurrentTest⟩, ⟨.opened, .overTemperature⟩] := by
    decide +kernel
  obtain ⟨_, log, pending⟩ := trips_announced reachable twoTrips
  rw [found] at log pending
  exact ⟨log, (pending (by simp [twoTrips, Step.KeepsNotice])).1⟩

end Breaker

end CircuitBreaker
