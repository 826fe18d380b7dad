import CircuitBreaker.Proofs.Replenishment

/-!
# Disabled recovery

A trip takes a reclose attempt at once, and the reclose itself comes later: with the recovery
timer on a DC supply, with the next crossing on an AC supply. A recovery that is disabled in
between no longer has an attempt to take, and the reclose comes all the same.
-/

set_option autoImplicit false

namespace CircuitBreaker

namespace Lifecycle

variable (machine : Lifecycle) {σ : Type} [SwitchDriver σ] (clock : Clock) (switch : σ) (now : Nat)

/-!
## Events in `closeWait`
-/

def ReclosesOn : Event → Prop
  | .recoveryTimerExpired => True
  | .zeroCrossing => machine.filter.isIgnored .zeroCrossing = false
  | _ => False

theorem transition_timer_of_closeWait (waiting : machine.phase = .closeWait) (timer : TimerId) :
    (machine.transition clock timer.event switch now).1.phase = .closeWait := by
  cases timer <;> simp [transition, waiting, TimerId.event]

theorem journal_releaseSwitch (switch : Journaled σ) (silent : switch.journal = []) :
    ∀ refusal, .turnedOn refusal ∉ (machine.releaseSwitch switch).2.journal := by
  intro refusal
  unfold releaseSwitch
  split
  · split
    · simp [silent]
    · simp [SwitchDriver.turnOff, Journaled.note, silent]
  · simp [silent]

theorem journal_reclose (switch : Journaled σ) :
    ∃ refusal, .turnedOn refusal ∈ (machine.reclose switch).2.journal := by
  rw [reclose_switch]
  exact ⟨_, List.mem_cons_self⟩

theorem Ready.journal_respond {machine : Lifecycle} (ready : machine.Ready)
    (waiting : machine.phase = .closeWait) (event : Event) (switch : Journaled σ)
    (silent : switch.journal = []) :
    (∃ refusal, .turnedOn refusal ∈ (machine.respond clock event switch now).2.journal) ↔
      machine.ReclosesOn event := by
  by_cases crossing : event = .zeroCrossing
  · subst crossing
    unfold Lifecycle.respond ReclosesOn
    cases filtered : machine.filter.isIgnored .zeroCrossing with
    | true => simp [silent]
    | false =>
        simp only [Lifecycle.transition, waiting, Bool.false_eq_true, ↓reduceIte, iff_true]
        exact journal_reclose _ switch
  · rw [ready.respond_of_ne clock event switch now crossing]
    cases event with
    | zeroCrossing => exact absurd rfl crossing
    | recoveryTimerExpired =>
        simp only [Lifecycle.transition, waiting, ReclosesOn, iff_true]
        exact journal_reclose _ switch
    | openCommand =>
        simp only [Lifecycle.transition, waiting, ReclosesOn, iff_false, not_exists, openOnCommand]
        exact journal_releaseSwitch _ switch silent
    | _ => simp [Lifecycle.transition, waiting, ReclosesOn, silent]

end Lifecycle

namespace Application

variable {σ ζ μ κ : Type}

theorem turnedOn_iff [SwitchDriver σ] {application : Application σ ζ μ κ}
    (session : application.before.InSession)
    (waiting : application.before.lifecycle.phase = .closeWait) :
    (∃ refusal, .turnedOn refusal ∈ application.commands) ↔
      application.before.lifecycle.ReclosesOn application.event := by
  have inside : application.before.journaled.InSession := ⟨session.initialized, session.ready⟩
  obtain ⟨after, accepted, reacts, _⟩ := inside.apply application.event application.now
  unfold commands
  rw [accepted]
  dsimp only
  rw [reacts.switch]
  exact session.ready.journal_respond _ application.now waiting _ _ rfl

end Application

section Pending

variable {σ ζ μ κ : Type} [SwitchDriver σ]

/-- Whether a breaker waits to reclose after an event, if it did or did not before. -/
def pendingAfter (pending : Bool) (application : Application σ ζ μ κ) : Bool :=
  application.recloses || pending && application.after.lifecycle.phase = .closeWait

/-- Whether some events leave a breaker in a wait that began with an over-current trip. -/
def reclosePending (trail : List (Application σ ζ μ κ)) : Bool := trail.foldl pendingAfter false

theorem closeWait_of_pendingAfter {pending : Bool} {application : Application σ ζ μ κ}
    (waits : pendingAfter pending application = true) :
    application.after.lifecycle.phase = .closeWait := by
  unfold pendingAfter Application.recloses at waits
  simp only [Bool.or_eq_true, Bool.and_eq_true, decide_eq_true_eq] at waits
  rcases waits with trip | ⟨_, still⟩
  · exact trip.2.2.2
  · exact still

theorem foldl_pendingAfter_of_unpaid (trail : List (Application σ ζ μ κ))
    (unpaid : ∀ application ∈ trail, application.recloses = false) :
    trail.foldl pendingAfter false = false := by
  induction trail with
  | nil => rfl
  | cons application rest ih =>
      obtain ⟨first, unpaid⟩ := List.forall_mem_cons.mp unpaid
      rw [List.foldl_cons, pendingAfter, first, Bool.false_and, Bool.or_false]
      exact ih unpaid

end Pending

namespace Breaker

variable {σ ζ μ κ : Type} [SwitchDriver σ]

def AsksToReclose (breaker : Breaker σ ζ μ κ) : Action σ ζ μ κ → Prop
  | .input .zeroCrossing _ => breaker.lifecycle.filter.isIgnored .zeroCrossing = false
  | .poll now => breaker.lifecycle.timers.isDue now .recovery = true
  | _ => False

section Runs

variable [Mains ζ] [Meter μ] [RecordStore κ] (start : Breaker σ ζ μ κ)

/-- After a run, the breaker waits to reclose after an over-current trip. -/
def AwaitsReclose (run : List (Action σ ζ μ κ)) : Prop :=
  reclosePending (start.appliedAlong (run.map .act)) = true

instance (run : List (Action σ ζ μ κ)) : Decidable (start.AwaitsReclose run) :=
  inferInstanceAs (Decidable (_ = true))

/-- In a wait to reclose, settings without an attempt are accepted; the wait goes on, without other
settings, and an action then asks to reclose. -/
structure ReclosesDisabled (run : List (Action σ ζ μ κ)) (settings : RecoverySettings)
    (wait : List (Action σ ζ μ κ)) (action : Action σ ζ μ κ) : Prop where
  awaits : start.AwaitsReclose run
  valid : settings.Valid
  disabled : settings.attemptBudget = 0
  final : ∀ changed : RecoverySettings, changed.Valid → .adjust (.recovery changed) ∉ wait
  stays : start.AwaitsReclose (run ++ .adjust (.recovery settings) :: wait)
  asks : (start.run (run ++ .adjust (.recovery settings) :: wait)).AsksToReclose action

end Runs

/-!
## Polls in `closeWait`
-/

/-- An expired timer does not end the wait. It recloses, or leaves the recovery timer due, exactly
if the recovery timer was due. -/
private theorem expired_closeWait {breaker after : Breaker σ ζ μ κ} (session : breaker.InSession)
    (waiting : breaker.lifecycle.phase = .closeWait) {now : Nat} {timer : TimerId}
    (due : breaker.lifecycle.timers.firstDue now = some timer)
    (applied : (breaker.disarm timer).apply timer.event now = .ok after) :
    after.lifecycle.phase = .closeWait ∧
      ((breaker.disarm timer).lifecycle.ReclosesOn timer.event ∨
          after.lifecycle.timers.isDue now .recovery = true ↔
        breaker.lifecycle.timers.isDue now .recovery = true) := by
  have inside := session.disarm timer
  have lifecycle := (inside.reacts applied).lifecycle
  rw [inside.ready.respond_of_ne _ _ _ _ (by cases timer <;> simp [TimerId.event])] at lifecycle
  constructor
  · rw [lifecycle]
    exact Lifecycle.transition_timer_of_closeWait (breaker.disarm timer).lifecycle _ _ now waiting
      timer
  · by_cases recovery : timer = .recovery
    · subst recovery
      simp [Lifecycle.ReclosesOn, TimerId.event, TimerBank.isDue_of_firstDue due]
    · -- Another timer is dropped, and the recovery timer stays as it is.
      have kept : after.lifecycle.timers.isDue now .recovery =
          breaker.lifecycle.timers.isDue now .recovery := by
        rw [lifecycle]
        cases timer with
        | recovery => exact absurd rfl recovery
        | _ => simp [Lifecycle.transition, TimerId.event, Breaker.disarm, waiting, TimerBank.isDue]
      rw [kept]
      cases timer with
      | recovery => exact absurd rfl recovery
      | _ => simp [Lifecycle.ReclosesOn, TimerId.event]

private theorem fireTimers_closeWait {breaker : Breaker σ ζ μ κ} (session : breaker.InSession)
    (waiting : breaker.lifecycle.phase = .closeWait) (now rounds : Nat)
    (enough : breaker.lifecycle.timers.dueCount now ≤ rounds) :
    ∃ fired, breaker.fireTimers now rounds = .ok fired ∧ fired.lifecycle.phase = .closeWait ∧
      ((∃ application ∈ breaker.appliedTimers now rounds,
          ∃ refusal, .turnedOn refusal ∈ application.commands) ↔
        breaker.lifecycle.timers.isDue now .recovery = true) := by
  have undue (breaker : Breaker σ ζ μ κ) (none : breaker.lifecycle.timers.dueCount now = 0) :
      ¬ breaker.lifecycle.timers.isDue now .recovery = true :=
    List.countP_eq_zero.mp none _ TimerId.recovery.mem_all
  induction rounds generalizing breaker with
  | zero =>
      refine ⟨breaker, rfl, waiting, ?_⟩
      simp [appliedTimers, undue breaker (Nat.le_zero.mp enough)]
  | succ rounds ih =>
      rcases session.fireTimers_succ now rounds with
        ⟨due, firing, trail⟩ | ⟨timer, after, due, applied, firing, trail⟩
      · refine ⟨breaker, firing, waiting, ?_⟩
        simp [trail, undue breaker (TimerBank.dueCount_of_firstDue due)]
      · have fewer := session.dueCount_lt due applied
        have inside := session.disarm timer
        obtain ⟨stays, recloses⟩ := expired_closeWait session waiting due applied
        obtain ⟨fired, fires, still, later⟩ :=
          ih (inside.applied applied) stays (by omega)
        refine ⟨fired, firing.trans fires, still, ?_⟩
        have first := @Application.turnedOn_iff _ _ _ _ _
          ⟨breaker.disarm timer, timer.event, now, after⟩ inside waiting
        rw [trail]
        simp only [List.mem_cons, exists_eq_or_imp, later, first]
        exact recloses

/-!
## Actions in `closeWait`
-/

section Sessions

variable {breaker : Breaker σ ζ μ κ} (session : breaker.InSession)
include session

private theorem appliedEvent_closeWait (waiting : breaker.lifecycle.phase = .closeWait)
    (event : Event) (now : Nat) :
    (∃ application ∈ breaker.appliedEvent event now,
        ∃ refusal, .turnedOn refusal ∈ application.commands) ↔
      breaker.lifecycle.ReclosesOn event := by
  obtain ⟨after, applied, _⟩ := session.apply event now
  have first := @Application.turnedOn_iff _ _ _ _ _ ⟨breaker, event, now, after⟩ session waiting
  rw [appliedEvent, applied]
  simp only [List.mem_singleton, exists_eq_left]
  exact first

variable [Meter μ]

private theorem appliedPoll_closeWait (waiting : breaker.lifecycle.phase = .closeWait) (now : Nat) :
    (∃ application ∈ breaker.appliedPoll now,
        ∃ refusal, .turnedOn refusal ∈ application.commands) ↔
      breaker.lifecycle.timers.isDue now .recovery = true := by
  obtain ⟨fired, firing, still, recloses⟩ :=
    fireTimers_closeWait (session.told now) waiting now TimerId.all.length List.countP_le_length
  have quiet : fired.appliedTick now = [] := by
    unfold appliedTick
    split
    · rfl
    · next point monitor ticks =>
      have closed : fired.lifecycle.phase = .closed :=
        closed_of_dueTicks (show (fired.dueTicks now).1 = some point by rw [ticks])
      cases closed.symm.trans still
  rw [appliedPoll, firing]
  dsimp only
  rw [quiet, List.append_nil]
  exact recloses

variable [Mains ζ] [RecordStore κ]

/-- In `closeWait` the switch is commanded on by the actions that ask to reclose, and by no
other. -/
theorem InSession.turnedOn_iff (waiting : breaker.lifecycle.phase = .closeWait)
    (action : Action σ ζ μ κ) :
    (∃ refusal, .turnedOn refusal ∈ breaker.commandsIn (.act action)) ↔
      breaker.AsksToReclose action := by
  have commanded : (∃ refusal, .turnedOn refusal ∈ breaker.commandsIn (.act action)) ↔
      ∃ application ∈ breaker.applied (.act action),
        ∃ refusal, .turnedOn refusal ∈ application.commands := by
    rw [commandsIn_eq fun _ => session]
    simp only [List.mem_flatMap, List.mem_reverse]
    exact ⟨fun ⟨refusal, application, member, command⟩ => ⟨application, member, refusal, command⟩,
      fun ⟨application, member, refusal, command⟩ => ⟨refusal, application, member, command⟩⟩
  rw [commanded]
  cases action with
  | input input now =>
      cases input with
      | zeroCrossing => exact appliedEvent_closeWait session waiting .zeroCrossing now
      | switchChanged closed =>
          cases closed with
          | false => exact appliedEvent_closeWait session waiting .switchOpened now
          | true => exact appliedEvent_closeWait session waiting .switchClosed now
      | openRequest => exact appliedEvent_closeWait session waiting .openCommand now
      | closeRequest =>
          rw [Breaker.applied, appliedInput, if_neg (by simp [waiting])]
          exact appliedEvent_closeWait (session.watch breaker.monitor.reset) waiting
            .closeCommand now
  | poll now => exact appliedPoll_closeWait session waiting now
  | adjust adjustment => simp [Breaker.applied, AsksToReclose]

end Sessions

/-!
## The settings in force
-/

section Settings

private theorem recovery_course {action : Action σ ζ μ κ} {now : Nat}
    {breaker final : Breaker σ ζ μ κ} {trail : List (Application σ ζ μ κ)}
    (course : Course action now breaker trail final) (session : breaker.InSession) :
    final.lifecycle.recovery = breaker.lifecycle.recovery := by
  induction course with
  | rest breaker => rfl
  | aside monitor lastSeen later ih => exact ih ⟨session.initialized, session.ready⟩
  | raise raised applied later ih =>
      exact (ih (session.applied applied)).trans (session.reacts applied).recovery
  | expire timer polling due applied later ih =>
      have inside := session.disarm timer
      exact (ih (inside.applied applied)).trans (inside.reacts applied).recovery

variable [Meter μ] [RecordStore κ] {breaker : Breaker σ ζ μ κ} (session : breaker.InSession)
include session

omit [SwitchDriver σ] [Meter μ] in
private theorem setRecovery_eq (settings : RecoverySettings) :
    (settings.Valid → ∃ after, breaker.setRecovery settings = .ok after ∧
        after.lifecycle.recovery = settings) ∧
      (¬ settings.Valid → ∃ error, breaker.setRecovery settings = .error error) := by
  simp only [setRecovery, ensureInitialized, if_pos session.initialized, bind, Except.bind,
    Lifecycle.configure, RecoverySettings.validate]
  constructor
  · intro valid
    rw [if_pos valid]
    refine ⟨_, rfl, ?_⟩
    rw [lifecycle_persist]
  · intro invalid
    rw [if_neg invalid]
    exact ⟨_, rfl⟩

private theorem recovery_set {settings : RecoverySettings} (valid : settings.Valid) :
    (breaker.act (.adjust (.recovery settings))).lifecycle.recovery = settings := by
  obtain ⟨after, accepted, set⟩ := (setRecovery_eq session settings).1 valid
  rw [act, adjust, accepted, afterCall, set]

private theorem recovery_act (action : Action σ ζ μ κ)
    (unset : ∀ settings, RecoverySettings.Valid settings → action ≠ .adjust (.recovery settings)) :
    (breaker.act action).lifecycle.recovery = breaker.lifecycle.recovery := by
  rcases session.course action with ⟨adjustment, rfl⟩ | ⟨now, course⟩
  · by_cases other : ∀ settings, adjustment ≠ .recovery settings
    · obtain ⟨modulation, lifecycle⟩ := lifecycle_adjust_of_ne adjustment breaker other
      rw [act, lifecycle]
    · obtain ⟨settings, same⟩ := not_forall.mp other
      obtain rfl := not_not.mp same
      obtain ⟨error, refused⟩ :=
        (setRecovery_eq session settings).2 fun valid => unset settings valid rfl
      rw [act, adjust, refused, afterCall]
  · exact recovery_course course session

private theorem recovery_run (actions : List (Action σ ζ μ κ))
    (unset : ∀ settings, RecoverySettings.Valid settings →
      .adjust (.recovery settings) ∉ actions) :
    (breaker.run actions).lifecycle.recovery = breaker.lifecycle.recovery := by
  induction actions using List.reverseRecOn with
  | nil => rfl
  | append_singleton actions action ih =>
      rw [run_concat, recovery_act (session.run actions) action]
      · exact ih fun settings valid member =>
          unset settings valid (List.mem_append_left _ member)
      · rintro settings valid rfl
        exact unset settings valid (by simp)

end Settings

/-!
## Waits
-/

section Waits

private theorem closeWait_course {action : Action σ ζ μ κ} {now : Nat}
    {breaker final : Breaker σ ζ μ κ} {trail : List (Application σ ζ μ κ)} {pending : Bool}
    (course : Course action now breaker trail final)
    (held : pending = true → breaker.lifecycle.phase = .closeWait)
    (waits : trail.foldl pendingAfter pending = true) : final.lifecycle.phase = .closeWait := by
  induction course generalizing pending with
  | rest breaker => exact held waits
  | aside monitor lastSeen later ih => exact ih held waits
  | raise raised applied later ih => exact ih closeWait_of_pendingAfter waits
  | expire timer polling due applied later ih => exact ih closeWait_of_pendingAfter waits

private theorem unpaid_course {action : Action σ ζ μ κ} {now : Nat}
    {breaker final : Breaker σ ζ μ κ} {trail : List (Application σ ζ μ κ)}
    (course : Course action now breaker trail final) (session : breaker.InSession)
    (broke : breaker.lifecycle.recovery.attemptBudget = 0)
    (spent : breaker.lifecycle.attemptsLeft = 0) :
    ∀ application ∈ trail, application.recloses = false := by
  have paid {before after : Breaker σ ζ μ κ} {event : Event} {now : Nat}
      (session : before.InSession) (applied : before.apply event now = .ok after)
      (broke : before.lifecycle.recovery.attemptBudget = 0)
      (spent : before.lifecycle.attemptsLeft = 0) :
      Application.recloses ⟨before, event, now, after⟩ = false ∧
        after.lifecycle.attemptsLeft = 0 := by
    have reacts := session.reacts applied
    constructor
    · rw [← Bool.not_eq_true]
      intro recloses
      simp only [Application.recloses, decide_eq_true_eq] at recloses
      obtain ⟨rfl, tripped, closed, waiting⟩ := recloses
      rw [reacts.phase, session.ready.respond_of_ne _ _ _ _ (by simp),
        Lifecycle.transition_trip_of_closed _ _ _ _ closed tripped, spent] at waiting
      cases waiting
    · rw [reacts.attemptsLeft session, Lifecycle.attemptsLeft_transition, broke, spent]
      simp
  induction course with
  | rest breaker => exact List.forall_mem_nil _
  | aside monitor lastSeen later ih => exact ih ⟨session.initialized, session.ready⟩ broke spent
  | raise raised applied later ih =>
      obtain ⟨first, left⟩ := paid session applied broke spent
      refine List.forall_mem_cons.mpr ⟨first, ih (session.applied applied) ?_ left⟩
      rw [(session.reacts applied).recovery]
      exact broke
  | expire timer polling due applied later ih =>
      have inside := session.disarm timer
      obtain ⟨first, left⟩ := paid inside applied broke spent
      refine List.forall_mem_cons.mpr ⟨first, ih (inside.applied applied) ?_ left⟩
      rw [(inside.reacts applied).recovery]
      exact broke

variable [Mains ζ] [Meter μ] [RecordStore κ] {start : Breaker σ ζ μ κ}
  (session : start.InSession)

private theorem awaitsReclose_concat (run : List (Action σ ζ μ κ)) (action : Action σ ζ μ κ) :
    start.AwaitsReclose (run ++ [action]) ↔
      ((start.run run).applied (.act action)).foldl pendingAfter
        (reclosePending (start.appliedAlong (run.map .act))) = true := by
  rw [AwaitsReclose, List.map_append, List.map_singleton, appliedAlong_concat, history_act,
    reclosePending, List.foldl_append]
  rfl

include session

private theorem closeWait_of_awaits {run : List (Action σ ζ μ κ)}
    (awaits : start.AwaitsReclose run) : (start.run run).lifecycle.phase = .closeWait := by
  induction run using List.reverseRecOn with
  | nil => cases awaits
  | append_singleton run action ih =>
      rw [awaitsReclose_concat] at awaits
      rw [run_concat]
      rcases (session.run run).course action with ⟨adjustment, rfl⟩ | ⟨now, course⟩
      · exact (adjust_adjusted adjustment _).phase.trans (ih awaits)
      · exact closeWait_course course ih awaits

/-- A wait without a budget goes back to settings that were accepted in it. -/
private theorem disabled_in_wait {clock : Clock} (owns : start.Owns clock)
    {run : List (Action σ ζ μ κ)} (awaits : start.AwaitsReclose run)
    (broke : (start.run run).lifecycle.recovery.attemptBudget = 0) :
    ∃ earlier settings wait, run = earlier ++ .adjust (.recovery settings) :: wait ∧
      start.AwaitsReclose earlier ∧ settings.Valid ∧ settings.attemptBudget = 0 ∧
      ∀ changed : RecoverySettings, changed.Valid → .adjust (.recovery changed) ∉ wait := by
  induction run using List.reverseRecOn with
  | nil => cases awaits
  | append_singleton run action ih =>
      rw [awaitsReclose_concat] at awaits
      rw [run_concat] at broke
      by_cases set : ∃ settings, RecoverySettings.Valid settings ∧
          action = .adjust (.recovery settings)
      · obtain ⟨settings, valid, rfl⟩ := set
        rw [recovery_set (session.run run) valid] at broke
        exact ⟨run, settings, [], rfl, awaits, valid, broke, fun _ _ => List.not_mem_nil⟩
      · have unset (settings : RecoverySettings) (valid : settings.Valid) :
            action ≠ .adjust (.recovery settings) := fun same => set ⟨settings, valid, same⟩
        rw [recovery_act (session.run run) action unset] at broke
        have before : start.AwaitsReclose run := by
          rcases (session.run run).course action with ⟨adjustment, rfl⟩ | ⟨now, course⟩
          · exact awaits
          · have within : (start.run run).lifecycle.WithinBudget :=
              (owns.run session run).reachable.withinBudget
            have spent : (start.run run).lifecycle.attemptsLeft = 0 := by
              rw [Lifecycle.WithinBudget, broke] at within
              exact UInt16.le_antisymm within UInt16.zero_le
            rw [AwaitsReclose, ← Bool.not_eq_false]
            intro unpending
            rw [unpending, foldl_pendingAfter_of_unpaid _
              (unpaid_course course (session.run run) broke spent)] at awaits
            cases awaits
        obtain ⟨earlier, settings, wait, rfl, rest, valid, disabled, final⟩ := ih before broke
        refine ⟨earlier, settings, wait ++ [action], by simp, rest, valid, disabled, ?_⟩
        intro changed accepted member
        rcases List.mem_append.mp member with waiting | last
        · exact final changed accepted waiting
        · exact unset changed accepted (List.mem_singleton.mp last).symm

end Waits

/-!
## Runs
-/

section Runs

variable [Mains ζ] [Meter μ] [RecordStore κ]

/-- All through a session, no wait to reclose commands the switch on while the settings in force
grant no attempt, exactly if in no wait such settings are accepted and an action then asks to
reclose. -/
theorem disabled_recloses_iff {breaker : Breaker σ ζ μ κ} (fresh : breaker.initialized = false)
    (now : Nat) (actions : List (Action σ ζ μ κ)) :
    (∀ run action, run ++ [action] <+: actions → (breaker.init now).AwaitsReclose run →
        ((breaker.init now).run run).lifecycle.recovery.attemptBudget = 0 →
        ∀ refusal, .turnedOn refusal ∉ ((breaker.init now).run run).commandsIn (.act action)) ↔
      ∀ run settings wait action,
        run ++ .adjust (.recovery settings) :: (wait ++ [action]) <+: actions →
        ¬ (breaker.init now).ReclosesDisabled run settings wait action := by
  have session := (init_of_fresh fresh now).1
  have owns := Owns.init fresh now
  generalize breaker.init now = start at session owns ⊢
  constructor
  · intro quiet run settings wait action before recloses
    have waiting := closeWait_of_awaits session recloses.stays
    obtain ⟨refusal, commanded⟩ := ((session.run _).turnedOn_iff waiting action).mpr recloses.asks
    refine quiet _ action ?_ recloses.stays ?_ refusal commanded
    · simpa using before
    · have inside := (session.run run).act (.adjust (.recovery settings))
      rw [Breaker.run, List.foldl_append, List.foldl_cons]
      rw [show List.foldl act (act (List.foldl act start run) (.adjust (.recovery settings))) wait =
        ((start.run run).act (.adjust (.recovery settings))).run wait from rfl,
        recovery_run inside wait recloses.final, recovery_set (session.run run) recloses.valid]
      exact recloses.disabled
  · intro sound run action before awaits broke refusal commanded
    have waiting := closeWait_of_awaits session awaits
    have asks := ((session.run run).turnedOn_iff waiting action).mp ⟨refusal, commanded⟩
    obtain ⟨earlier, settings, wait, rfl, pending, valid, disabled, final⟩ :=
      disabled_in_wait session owns awaits broke
    refine sound earlier settings wait action ?_ ⟨pending, valid, disabled, final, awaits, asks⟩
    simpa using before

open Bench

def granting (on : Bool) : BenchBreaker :=
  .ofParts .micros { on } {} {} { storage := settingsMemory { enabled := true, attempts := 1 } {} }

/-- A trip that the switch reports, and a recovery that is disabled before the reclose. -/
def disabledInWait : List BenchAction :=
  [trip, .input (.switchChanged false) 300000, .adjust (.recovery {})]

/-- An open request ends such a wait without a command to close. -/
theorem disabled_recloses_opened :
    ((granting true).init 0).AwaitsReclose disabledInWait ∧
      (((granting true).init 0).run disabledInWait).lifecycle.recovery.attemptBudget = 0 ∧
      ∀ refusal, .turnedOn refusal ∉ (((granting true).init 0).run disabledInWait).commandsIn
        (.act (.input .openRequest 400000)) := by
  have awaits : ((granting true).init 0).AwaitsReclose disabledInWait := by decide +kernel
  have broke : (((granting true).init 0).run disabledInWait).lifecycle.recovery.attemptBudget =
      0 := by decide +kernel
  refine ⟨awaits, broke, (disabled_recloses_iff rfl 0
    (disabledInWait ++ [.input .openRequest 400000])).mpr ?_ _ _ (List.prefix_refl _) awaits broke⟩
  intro run settings wait action before recloses
  have member : action ∈ disabledInWait ++ [.input .openRequest 400000] :=
    before.subset (by simp)
  have asks := recloses.asks
  simp only [disabledInWait, trip, List.cons_append, List.nil_append, List.mem_cons,
    List.not_mem_nil, or_false] at member
  rcases member with rfl | rfl | rfl | rfl <;> exact asks

/-- On a DC supply the recovery timer recloses all the same, on an AC supply the next crossing. -/
theorem reclosed_though_disabled :
    (((granting true).init 0).AwaitsReclose disabledInWait ∧
      (((granting true).init 0).run disabledInWait).lifecycle.recovery.attemptBudget = 0 ∧
      (((granting true).init 0).run disabledInWait).commandsIn (.act (.poll 1300000)) =
        [.turnedOn none]) ∧
    ((granting false).init 0).AwaitsReclose
        (closingOnAc ++ [.input (.switchChanged true) 210000] ++ disabledInWait) ∧
      (((granting false).init 0).run (closingOnAc ++ [.input (.switchChanged true) 210000] ++
        disabledInWait)).lifecycle.recovery.attemptBudget = 0 ∧
      (((granting false).init 0).run (closingOnAc ++ [.input (.switchChanged true) 210000] ++
        disabledInWait)).commandsIn (.act (.input .zeroCrossing 310000)) = [.turnedOn none] := by
  decide +kernel

end Runs

end Breaker

end CircuitBreaker
