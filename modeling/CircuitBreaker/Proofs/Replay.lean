import CircuitBreaker.Proofs.Ledger

/-!
# Replaying the log

Whoever reads the log after every step of a session sees each change of phase and each attempt
that is taken: the changes lead from `undefined` to the present phase, and the attempts are
those that over-current trips cost.
-/

set_option autoImplicit false

namespace CircuitBreaker

/-- The phases that one record of the log may lead to. A session begins in the phase of the
switch; from there on the table decides. -/
def Phase.recorded : Phase → List Phase
  | undefined => [opened, closed]
  | phase => phase.next

/-- The moves lead from one phase to another, each of them allowed and begun where the one
before it ended. -/
inductive Phase.Path : Phase → List (Phase × Phase) → Phase → Prop where
  | stay (phase : Phase) : Path phase [] phase
  | move {first next last : Phase} {rest : List (Phase × Phase)}
      (allowed : next ∈ first.recorded) (later : Path next rest last) :
      Path first ((first, next) :: rest) last

theorem Phase.Path.trans {first middle last : Phase} {moves others : List (Phase × Phase)}
    (path : first.Path moves middle) (later : middle.Path others last) :
    first.Path (moves ++ others) last := by
  induction path with
  | stay phase => exact later
  | move allowed rest ih => exact .move allowed (ih later)

namespace LogEvent

def move? : LogEvent → Option (Phase × Phase)
  | .stateChanged before after => some (before, after)
  | _ => none

def attempt? : LogEvent → Option UInt16
  | .recoveryAttempt remaining => some remaining
  | _ => none

private theorem IsSetting.silent {event : LogEvent} (setting : event.IsSetting) :
    event.move? = none ∧ event.attempt? = none := by
  cases event <;> first | exact setting.elim | exact ⟨rfl, rfl⟩

theorem silent_of_settings {events : List LogEvent}
    (settings : ∀ event ∈ events, event.IsSetting) :
    events.filterMap move? = [] ∧ events.filterMap attempt? = [] :=
  ⟨List.filterMap_eq_nil_iff.mpr fun event member => (settings event member).silent.1,
    List.filterMap_eq_nil_iff.mpr fun event member => (settings event member).silent.2⟩

end LogEvent

/-!
## Reading the log
-/

namespace EventLog

variable {capacity : Nat}

/-- The records added since the log was read, as many of them as are still kept. -/
def since (log earlier : EventLog capacity) : List LogRecord :=
  log.records.drop (log.records.length - (log.nextId - earlier.nextId).toNat)

theorem nextId_addAll (log : EventLog capacity) (entries : List (LogEvent × Nat)) :
    (log.addAll entries).nextId = log.nextId + UInt32.ofNat entries.length := by
  induction entries generalizing log with
  | nil => simp [addAll]
  | cons entry rest ih =>
      have later := ih (log.add entry.1 entry.2)
      rw [addAll, List.foldl_cons]
      rw [addAll] at later
      rw [later, List.length_cons, add, UInt32.ofNat_add, UInt32.add_assoc, UInt32.add_comm 1]
      rfl

/-- No more entries than the log can hold stand at its end, behind older records. -/
private theorem records_addAll (log : EventLog capacity) (entries : List (LogEvent × Nat))
    (few : entries.length ≤ capacity) :
    ∃ older newer, (log.addAll entries).records = older ++ newer ∧
      newer.map LogRecord.event = entries.map Prod.fst := by
  induction entries using List.reverseRecOn with
  | nil => exact ⟨log.records, [], (List.append_nil _).symm, rfl⟩
  | append_singleton entries entry ih =>
      rw [List.length_append, List.length_singleton] at few
      obtain ⟨older, newer, records, events⟩ := ih (by omega)
      have size : newer.length = entries.length := by
        simpa using congrArg List.length events
      let latest : LogRecord := ⟨(log.addAll entries).nextId, entry.2, entry.1⟩
      refine ⟨older.drop (older.length + newer.length + 1 - capacity), newer ++ [latest], ?_, ?_⟩
      · have last : log.addAll (entries ++ [entry]) =
            (log.addAll entries).add entry.1 entry.2 := by
          rw [addAll_append, addAll_singleton]
        rw [last, add]
        dsimp only
        rw [records, List.append_assoc, List.length_append, List.length_append,
          List.length_singleton, ← Nat.add_assoc, List.drop_append_of_le_length (by omega)]
      · rw [List.map_append, List.map_append, events]
        rfl

/-- What a reader sees of entries that the log can hold is all of them. -/
theorem since_addAll (log : EventLog capacity) (entries : List (LogEvent × Nat))
    (few : entries.length ≤ capacity) (counted : capacity < UInt32.size) :
    ((log.addAll entries).since log).map LogRecord.event = entries.map Prod.fst := by
  obtain ⟨older, newer, records, events⟩ := records_addAll log entries few
  have size : newer.length = entries.length := by
    simpa using congrArg List.length events
  have added : ((log.addAll entries).nextId - log.nextId).toNat = newer.length := by
    rw [nextId_addAll, UInt32.add_comm, UInt32.add_sub_cancel, size,
      UInt32.toNat_ofNat_of_lt' (by omega)]
  rw [since, added, records, List.length_append, Nat.add_sub_cancel, List.drop_left, events]

end EventLog

/-!
## One event
-/

namespace Application

variable {σ ζ μ κ : Type}

def Consumes (application : Application σ ζ μ κ) : Prop :=
  application.after.lifecycle.attemptsLeft.toNat + 1 =
    application.before.lifecycle.attemptsLeft.toNat

instance (application : Application σ ζ μ κ) : Decidable application.Consumes :=
  inferInstanceAs (Decidable (_ = _))

variable [SwitchDriver σ]

theorem length_records (application : Application σ ζ μ κ) : application.records.length ≤ 3 := by
  unfold records
  split <;> split <;> cases application.notice? <;> simp

theorem moves_records (application : Application σ ζ μ κ) :
    application.records.filterMap LogEvent.move? =
      if application.before.lifecycle.phase ≠ application.after.lifecycle.phase then
        [(application.before.lifecycle.phase, application.after.lifecycle.phase)]
      else [] := by
  unfold records
  split <;> split <;> cases application.notice? <;> rfl

theorem attempts_records (application : Application σ ζ μ κ) :
    application.records.filterMap LogEvent.attempt? =
      if application.after.lifecycle.attemptsLeft < application.before.lifecycle.attemptsLeft then
        [application.after.lifecycle.attemptsLeft]
      else [] := by
  unfold records
  split <;> split <;> cases application.notice? <;> rfl

end Application

namespace Lifecycle

variable {σ : Type} [SwitchDriver σ] {machine : Lifecycle} (clock : Clock) (event : Event)
  (switch : σ) (now : Nat)

theorem WithinBudget.respond (within : machine.WithinBudget) :
    (machine.respond clock event switch now).1.WithinBudget := by
  unfold Lifecycle.respond
  split
  · exact within
  · exact within.transition clock event switch now

theorem phase_respond (machine : Lifecycle) :
    (machine.respond clock event switch now).1.phase = machine.phase ∨
      (machine.respond clock event switch now).1.phase ∈ machine.phase.next := by
  unfold Lifecycle.respond
  split
  · exact .inl rfl
  · exact transition_phase machine clock event switch now

end Lifecycle

namespace Breaker

variable {σ ζ μ κ : Type} [SwitchDriver σ]

private theorem path_of_event {application : Application σ ζ μ κ}
    (session : application.before.InSession)
    (reacts : application.before.Reacts application.event application.now application.after) :
    application.before.lifecycle.phase.Path (application.records.filterMap LogEvent.move?)
      application.after.lifecycle.phase := by
  rw [application.moves_records]
  have phase := Lifecycle.phase_respond application.before.clock application.event
    application.before.switch application.now application.before.lifecycle
  rw [← reacts.phase] at phase
  rcases phase with same | next
  · rw [if_neg (by simp [same]), same]
    exact .stay _
  · have started := session.ready.started
    have allowed : application.after.lifecycle.phase ∈
        application.before.lifecycle.phase.recorded := by
      cases before : application.before.lifecycle.phase <;> rw [before] at started next
      · exact absurd rfl started
      all_goals exact next
    split
    · exact .move allowed (.stay _)
    · next same =>
      rw [not_not.mp same]
      exact .stay _

private theorem consumes_iff_lt {application : Application σ ζ μ κ}
    (session : application.before.InSession)
    (within : application.before.lifecycle.WithinBudget)
    (reacts : application.before.Reacts application.event application.now application.after) :
    application.Consumes ↔
      application.after.lifecycle.attemptsLeft < application.before.lifecycle.attemptsLeft := by
  rw [Application.Consumes, UInt16.lt_iff_toNat_lt, reacts.attemptsLeft session,
    Lifecycle.attemptsLeft_transition]
  split
  · rw [Lifecycle.WithinBudget, UInt16.le_iff_toNat_le] at within
    omega
  · split
    · next taken =>
      have paid := toNat_sub_one taken.2.2.2
      omega
    · omega

/-- Attempts go down with the events that take one, by one each time, and only trips that lead
back to closing take any: a close and the reset timer give the whole budget. -/
theorem consumes_iff_recloses {application : Application σ ζ μ κ}
    (session : application.before.InSession)
    (within : application.before.lifecycle.WithinBudget)
    (applied : application.before.apply application.event application.now = .ok application.after) :
    (application.Consumes ↔ application.recloses = true) ∧
      (application.Consumes ↔ application.after.lifecycle.attemptsLeft <
        application.before.lifecycle.attemptsLeft) := by
  have reacts := session.reacts applied
  have consumed := consumes_iff_lt session within reacts
  refine ⟨?_, consumed⟩
  by_cases granted : application.Grants
  · have event : application.recloses = false := by
      rcases granted with ⟨_, close⟩ | ⟨_, reset⟩ <;> simp [Application.recloses, *]
    have grants := granted
    rw [Application.Grants] at grants
    rw [Lifecycle.WithinBudget] at within
    rw [event, consumed, reacts.attemptsLeft session, Lifecycle.attemptsLeft_transition,
      if_pos grants]
    simpa using within
  · have paid := ledger_of_event session applied granted
    rw [Application.Consumes]
    cases recloses : application.recloses <;> simp only [recloses, Bool.toNat_true,
      Bool.toNat_false] at paid <;> simp <;> omega

/-!
## One step
-/

def entries (trail : List (Application σ ζ μ κ)) : List (LogEvent × Nat) :=
  trail.flatMap fun application => application.records.map (·, application.now)

/-- What is added to the log tells what happened to the phase and to the attempts. -/
structure Replays (before : Breaker σ ζ μ κ) (trail : List (Application σ ζ μ κ))
    (after : Breaker σ ζ μ κ) (events : List LogEvent) : Prop where
  path : before.lifecycle.phase.Path (events.filterMap LogEvent.move?) after.lifecycle.phase
  attempts : events.filterMap LogEvent.attempt? =
    (trail.filter (·.Consumes)).map (·.after.lifecycle.attemptsLeft)
  consumed : ∀ application ∈ trail, application.Consumes ↔ application.recloses = true

namespace Replays

variable {before middle after : Breaker σ ζ μ κ} {trail later : List (Application σ ζ μ κ)}
  {events others : List LogEvent}

theorem quiet (same : after.lifecycle.phase = before.lifecycle.phase)
    (settings : ∀ event ∈ events, event.IsSetting) : before.Replays [] after events := by
  obtain ⟨moves, attempts⟩ := LogEvent.silent_of_settings settings
  refine ⟨?_, attempts, List.forall_mem_nil _⟩
  rw [moves, same]
  exact .stay _

theorem trans (first : before.Replays trail middle events)
    (second : middle.Replays later after others) :
    before.Replays (trail ++ later) after (events ++ others) where
  path := by
    rw [List.filterMap_append]
    exact first.path.trans second.path
  attempts := by
    rw [List.filterMap_append, first.attempts, second.attempts, List.filter_append, List.map_append]
  consumed := List.forall_mem_append.mpr ⟨first.consumed, second.consumed⟩

end Replays

private theorem replays_event {application : Application σ ζ μ κ}
    (session : application.before.InSession)
    (within : application.before.lifecycle.WithinBudget)
    (applied : application.before.apply application.event application.now = .ok application.after) :
    application.before.Replays [application] application.after application.records := by
  obtain ⟨recloses, fewer⟩ := consumes_iff_recloses session within applied
  refine ⟨path_of_event session (session.reacts applied), ?_, ?_⟩
  · rw [application.attempts_records]
    by_cases consumes : application.Consumes
    · rw [if_pos (fewer.mp consumes), List.filter_cons_of_pos (by simpa using consumes)]
      rfl
    · rw [if_neg (fewer.not.mp consumes), List.filter_cons_of_neg (by simpa using consumes)]
      rfl
  · intro member same
    rw [List.mem_singleton.mp same]
    exact recloses

omit [SwitchDriver σ] in
private theorem events_map (events : List LogEvent) (now : Nat) :
    (events.map (·, now)).map Prod.fst = events := by
  rw [List.map_map]
  exact List.map_id events

/-- An event of a session is recorded before those that follow it. -/
private theorem replays_cons (application : Application σ ζ μ κ)
    {trail : List (Application σ ζ μ κ)} {final : Breaker σ ζ μ κ}
    (session : application.before.InSession)
    (silent : application.before.lifecycle.noticePending = false)
    (within : application.before.lifecycle.WithinBudget)
    (applied : application.before.apply application.event application.now = .ok application.after)
    (log : final.log = application.after.log.addAll (entries trail))
    (later : application.after.Replays trail final ((entries trail).map Prod.fst)) :
    final.log = application.before.log.addAll (entries (application :: trail)) ∧
      application.before.Replays (application :: trail) final
        ((entries (application :: trail)).map Prod.fst) := by
  have recorded := (session.apply_recorded silent applied).2
  have first := replays_event session within applied
  rw [entries, List.flatMap_cons, ← entries, EventLog.addAll_append, List.map_append, events_map]
  refine ⟨?_, first.trans later⟩
  rw [log, recorded]

theorem Reacts.withinBudget {before after : Breaker σ ζ μ κ} {event : Event} {now : Nat}
    (reacts : before.Reacts event now after) (within : before.lifecycle.WithinBudget) :
    after.lifecycle.WithinBudget := by
  have kept := within.respond before.clock event before.switch now
  rw [Lifecycle.WithinBudget] at kept ⊢
  rw [reacts.lifecycle]
  exact kept

private theorem course_replays {action : Action σ ζ μ κ} {now : Nat}
    {breaker final : Breaker σ ζ μ κ} {trail : List (Application σ ζ μ κ)}
    (course : Course action now breaker trail final) (session : breaker.InSession)
    (silent : breaker.lifecycle.noticePending = false)
    (within : breaker.lifecycle.WithinBudget) :
    final.log = breaker.log.addAll (entries trail) ∧
      breaker.Replays trail final ((entries trail).map Prod.fst) := by
  induction course with
  | rest breaker => exact ⟨rfl, .quiet rfl (List.forall_mem_nil _)⟩
  | aside monitor lastSeen later ih =>
      obtain ⟨log, path, attempts, consumed⟩ :=
        ih ⟨session.initialized, session.ready⟩ silent within
      exact ⟨log, path, attempts, consumed⟩
  | raise raised applied later ih =>
      obtain ⟨log, replays⟩ := ih (session.applied applied) (silent_apply session applied)
        ((session.reacts applied).withinBudget within)
      exact replays_cons ⟨_, _, _, _⟩ session silent within applied log replays
  | expire timer polling due applied later ih =>
      have inside := session.disarm timer
      obtain ⟨log, replays⟩ := ih (inside.applied applied) (silent_apply inside applied)
        ((inside.reacts applied).withinBudget within)
      obtain ⟨grown, path, attempts, consumed⟩ :=
        replays_cons ⟨_, _, _, _⟩ inside silent within applied log replays
      exact ⟨grown, path, attempts, consumed⟩

/-!
## Steps
-/

private theorem length_appliedTimers (now rounds : Nat) (breaker : Breaker σ ζ μ κ) :
    (breaker.appliedTimers now rounds).length ≤ rounds := by
  induction rounds generalizing breaker with
  | zero => exact Nat.le_refl 0
  | succ rounds ih =>
      unfold appliedTimers
      split
      · exact Nat.zero_le _
      · split
        · exact Nat.succ_le_succ (ih _)
        · exact Nat.zero_le _

private theorem length_appliedEvent (breaker : Breaker σ ζ μ κ) (event : Event) (now : Nat) :
    (breaker.appliedEvent event now).length ≤ 1 := by
  unfold appliedEvent
  split <;> simp

/-- No step applies more events than there are timers, and the trip of a tick. -/
theorem length_applied [Meter μ] (breaker : Breaker σ ζ μ κ) (action : Action σ ζ μ κ) :
    (breaker.applied (.act action)).length ≤ 4 := by
  have event (breaker : Breaker σ ζ μ κ) (event : Event) (now : Nat) :
      (breaker.appliedEvent event now).length ≤ 4 :=
    Nat.le_trans (length_appliedEvent breaker event now) (by omega)
  cases action with
  | input input now =>
      cases input with
      | closeRequest =>
          rw [applied, appliedInput]
          split
          · exact Nat.zero_le _
          · exact event _ _ _
      | _ => exact event _ _ _
  | poll now =>
      have timers := length_appliedTimers now TimerId.all.length (breaker.told now)
      rw [applied, appliedPoll, List.length_append]
      refine Nat.add_le_add timers (show _ ≤ 1 from ?_)
      split
      · unfold appliedTick
        split
        · exact Nat.zero_le _
        · exact length_appliedEvent _ _ _
      · exact Nat.zero_le _
  | adjust adjustment => exact Nat.zero_le _

theorem length_entries (trail : List (Application σ ζ μ κ)) :
    (entries trail).length ≤ 3 * trail.length := by
  induction trail with
  | nil => exact Nat.le_refl 0
  | cons application trail ih =>
      have records := application.length_records
      rw [entries, List.flatMap_cons, ← entries, List.length_append, List.length_map,
        List.length_cons]
      omega

variable [Mains ζ] [Meter μ] [RecordStore κ]

/-- What a reader of the log finds in it after a step. -/
def recordedBy (breaker : Breaker σ ζ μ κ) (step : Step σ ζ μ κ) : List LogEvent :=
  ((breaker.step step).log.since breaker.log).map LogRecord.event

/-- What a reader of the log finds in it who looks after every step. -/
def recordedAlong (breaker : Breaker σ ζ μ κ) : List (Step σ ζ μ κ) → List LogEvent
  | [] => []
  | step :: rest => breaker.recordedBy step ++ (breaker.step step).recordedAlong rest

private theorem recordedBy_of_addAll {breaker : Breaker σ ζ μ κ} (step : Step σ ζ μ κ)
    {entries : List (LogEvent × Nat)} (grown : (breaker.step step).log = breaker.log.addAll entries)
    (few : entries.length ≤ 32) : breaker.recordedBy step = entries.map Prod.fst := by
  rw [recordedBy, grown, EventLog.since_addAll _ _ few (by decide)]

private theorem init_replays {breaker : Breaker σ ζ μ κ} (fresh : breaker.initialized = false)
    (now : Nat) :
    Phase.Path .undefined ((breaker.recordedBy (.init now)).filterMap LogEvent.move?)
        (breaker.init now).lifecycle.phase ∧
      (breaker.recordedBy (.init now)).filterMap LogEvent.attempt? = [] := by
  obtain ⟨_, _, _, phase⟩ := init_of_fresh fresh now
  obtain ⟨_, ⟨settled, rfl, few, settings⟩, log⟩ := log_init fresh now
  let started : LogEvent := .stateChanged .undefined (breaker.init now).lifecycle.phase
  have grown : (breaker.step (.init now)).log =
      breaker.log.addAll (settled ++ [(started, now)]) := by
    rw [EventLog.addAll_append, EventLog.addAll_singleton]
    exact log
  have silent : ∀ event ∈ settled.map Prod.fst, event.IsSetting := by simpa using settings
  obtain ⟨moves, attempts⟩ := LogEvent.silent_of_settings silent
  have few : (settled ++ [(started, now)]).length ≤ 32 := by
    rw [List.length_append, List.length_singleton]
    omega
  rw [recordedBy_of_addAll (.init now) grown few, List.map_append, List.filterMap_append,
    List.filterMap_append, moves, attempts]
  refine ⟨.move ?_ (.stay _), rfl⟩
  rw [phase]
  split <;> decide

private theorem step_replays {breaker : Breaker σ ζ μ κ} (session : breaker.InSession)
    (silent : breaker.lifecycle.noticePending = false)
    (within : breaker.lifecycle.WithinBudget) (step : Step σ ζ μ κ) (going : step ≠ .shutdown) :
    breaker.Replays (breaker.applied step) (breaker.step step) (breaker.recordedBy step) := by
  cases step with
  | act action =>
      rcases session.course action with ⟨adjustment, rfl⟩ | ⟨now, course⟩
      · obtain ⟨⟨settled, log, few, settings⟩, _⟩ := adjust_settles breaker adjustment
        rw [recordedBy_of_addAll (.act (.adjust adjustment)) log (by omega)]
        refine .quiet (adjust_adjusted adjustment breaker).phase ?_
        simpa using settings
      · -- Four events at most, each with three records at most: the log loses none of them.
        obtain ⟨log, replays⟩ := course_replays course session silent within
        have few := length_entries (breaker.applied (.act action))
        have events := length_applied breaker action
        rw [recordedBy_of_addAll (.act action) log (by omega)]
        exact replays
  | init now =>
      have same : breaker.step (.init now) = breaker := by
        simp [Breaker.step, Breaker.init, session.initialized]
      have unchanged : (breaker.step (.init now)).log = breaker.log.addAll [] := by
        rw [same]
        rfl
      rw [recordedBy_of_addAll (.init now) unchanged (Nat.zero_le _), same]
      exact .quiet rfl (List.forall_mem_nil _)
  | shutdown => exact absurd rfl going

private theorem along_replays {breaker : Breaker σ ζ μ κ} {clock : Clock}
    (session : breaker.InSession) (silent : breaker.lifecycle.noticePending = false)
    (owns : breaker.Owns clock) (steps : List (Step σ ζ μ κ)) (going : .shutdown ∉ steps) :
    breaker.Replays (breaker.appliedAlong steps) (breaker.history steps)
      (breaker.recordedAlong steps) := by
  induction steps generalizing breaker with
  | nil => exact .quiet rfl (List.forall_mem_nil _)
  | cons step rest ih =>
      rw [List.mem_cons, not_or] at going
      have known (_ : breaker.initialized = true) : breaker.InSession := session
      have first := step_replays session silent owns.reachable.withinBudget step (Ne.symm going.1)
      have inside : (breaker.step step).InSession := by
        cases step with
        | act action => exact session.act action
        | init now =>
            have same : breaker.init now = breaker := by
              simp [Breaker.init, session.initialized]
            rw [Breaker.step, same]
            exact session
        | shutdown => exact absurd rfl going.1
      exact first.trans
        (ih inside (step_announces known silent step).1 (owns.step known step) going.2)

/-- In a session the changes of phase in the log lead, one after the other and each as the table
allows, from `undefined` to the present phase. The attempts in the log are those that events
took, with what each of them left; only an over-current trip that goes back to closing takes
one, so neither a close nor the end of the reset timer nor a change of settings is recorded as
an attempt. -/
theorem log_replays {breaker : Breaker σ ζ μ κ} (fresh : breaker.initialized = false) (now : Nat)
    (steps : List (Step σ ζ μ κ)) (going : .shutdown ∉ steps) :
    Phase.Path .undefined
        ((breaker.recordedAlong (.init now :: steps)).filterMap LogEvent.move?)
        (breaker.history (.init now :: steps)).lifecycle.phase ∧
      (breaker.recordedAlong (.init now :: steps)).filterMap LogEvent.attempt? =
        ((breaker.appliedAlong (.init now :: steps)).filter (·.Consumes)).map
          (·.after.lifecycle.attemptsLeft) ∧
      ∀ application ∈ breaker.appliedAlong (.init now :: steps),
        application.Consumes ↔ application.recloses = true := by
  obtain ⟨begun, unspent⟩ := init_replays fresh now
  have inside := (init_of_fresh fresh now).1
  have silent : (breaker.init now).lifecycle.noticePending = false := by
    obtain ⟨_, recovery, modulation, same⟩ := init_fresh fresh now
    rw [same]
    rfl
  obtain ⟨path, attempts, consumed⟩ :=
    along_replays inside silent (Owns.init fresh now) steps going
  refine ⟨?_, ?_, consumed⟩
  · rw [recordedAlong, List.filterMap_append]
    exact begun.trans path
  · rw [recordedAlong, List.filterMap_append, unspent]
    exact attempts

open Bench

/-- A close, an over-current trip that one of two attempts pays for, and a smaller budget. -/
def replayed : List BenchStep :=
  (.adjust (.recovery { enabled := true, attempts := 2 }) :: closed ++
    [trip, .input (.switchChanged false) 300000,
      .adjust (.recovery { enabled := false })]).map .act

/-- The log of the bench leads to the close that the trip asks for, and tells of one attempt. -/
theorem log_replays_replayed :
    Phase.Path .undefined
        [(.undefined, .opened), (.opened, .supplyWait), (.supplyWait, .closeWait),
          (.closeWait, .closed), (.closed, .closeWait)]
        ((bench {} {}).history (.init 0 :: replayed)).lifecycle.phase ∧
      ((bench {} {}).recordedAlong (.init 0 :: replayed)).filterMap LogEvent.attempt? = [1] ∧
      ((bench {} {}).history (.init 0 :: replayed)).lifecycle.attemptsLeft = 0 := by
  obtain ⟨path, attempts, _⟩ := @log_replays _ _ _ _ _ _ _ _ (bench {} {}) rfl 0 replayed
    (by simp [replayed])
  refine ⟨?_, ?_, by decide +kernel⟩
  · have moves : ((bench {} {}).recordedAlong (.init 0 :: replayed)).filterMap LogEvent.move? =
        [(.undefined, .opened), (.opened, .supplyWait), (.supplyWait, .closeWait),
          (.closeWait, .closed), (.closed, .closeWait)] := by
      decide +kernel
    rw [← moves]
    exact path
  · rw [attempts]
    decide +kernel

end Breaker

end CircuitBreaker
