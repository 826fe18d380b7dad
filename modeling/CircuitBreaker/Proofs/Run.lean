import CircuitBreaker.Bench.Memory
import CircuitBreaker.Bench.Sources
import CircuitBreaker.Bench.Switch
import CircuitBreaker.Proofs.Breaker
import CircuitBreaker.Proofs.Records
import Mathlib.Data.List.Induction

/-!
# Runs of a breaker

Everything that callers and surroundings can do to a breaker, as data, so that a run
is a list and a property of every run is an induction over lists. The switch, the
mains, the meter and the store may change in any way between two calls.
-/

set_option autoImplicit false

namespace CircuitBreaker

/-!
## Properties along a run
-/

section Along

variable {β α : Type} (advance : β → α → β)

/-- Every item of a run meets a state that has the property. -/
def Throughout (Property : β → α → Prop) : β → List α → Prop
  | _, [] => True
  | state, item :: rest =>
      Property state item ∧ Throughout Property (advance state item) rest

instance decidableThroughout (Property : β → α → Prop)
    [decides : ∀ state item, Decidable (Property state item)] :
    ∀ state items, Decidable (Throughout advance Property state items)
  | _, [] => isTrue trivial
  | state, item :: rest =>
      @instDecidableAnd _ _ (decides state item)
        (decidableThroughout Property (advance state item) rest)

/-- The number of items of a run that meet a state with the property. -/
def tally (property : β → α → Bool) : β → List α → Nat
  | _, [] => 0
  | state, item :: rest =>
      (property state item).toNat + tally property (advance state item) rest

theorem throughout_append (Property : β → α → Prop) (state : β) (first second : List α) :
    Throughout advance Property state (first ++ second) ↔
      Throughout advance Property state first ∧
        Throughout advance Property (first.foldl advance state) second := by
  induction first generalizing state with
  | nil => simp [Throughout]
  | cons item rest ih => simp [Throughout, ih, and_assoc]

theorem throughout_imp {Property Weaker : β → α → Prop}
    (weaker : ∀ state item, Property state item → Weaker state item) (state : β) (items : List α)
    (throughout : Throughout advance Property state items) :
    Throughout advance Weaker state items := by
  induction items generalizing state with
  | nil => exact trivial
  | cons item rest ih => exact ⟨weaker state item throughout.1, ih _ throughout.2⟩

/-- What every item of a run keeps holds at its end. -/
theorem foldl_keeps {Property : β → α → Prop} {Invariant : β → Prop}
    (keeps : ∀ state item, Property state item → Invariant state → Invariant (advance state item))
    (state : β) (items : List α) (throughout : Throughout advance Property state items)
    (start : Invariant state) : Invariant (items.foldl advance state) := by
  induction items generalizing state with
  | nil => exact start
  | cons item rest ih => exact ih _ throughout.2 (keeps state item throughout.1 start)

end Along

/-!
## Actions and steps
-/

inductive Adjustment (σ ζ μ κ : Type) where
  | hardwareLimit (limit : UInt8)
  | points (points : List CurvePoint)
  | recovery (settings : RecoverySettings)
  | modulation (settings : ModulationSettings)
  | observed (observed : Bool)
  /-- The pending notice is taken. -/
  | dispatch
  /-- The collaborators change on their own. -/
  | surroundings (switch : σ → σ) (mains : ζ → ζ) (meter : μ → μ) (store : κ → κ)

/-- What is done to a breaker within a session. Requests to open and to close are
inputs, and a drained queue is one input after the other. -/
inductive Action (σ ζ μ κ : Type) where
  | input (input : Input) (now : Nat)
  | poll (now : Nat)
  | adjust (adjustment : Adjustment σ ζ μ κ)

/-- What is done to a breaker, sessions begun and ended included. -/
inductive Step (σ ζ μ κ : Type) where
  | act (action : Action σ ζ μ κ)
  | init (now : Nat)
  | shutdown

namespace Action

variable {σ ζ μ κ : Type}

def instant? : Action σ ζ μ κ → Option Nat
  | input _ now | poll now => some now
  | adjust _ => none

end Action

/-- The instant that a step passes to the breaker. -/
def Step.instant? {σ ζ μ κ : Type} : Step σ ζ μ κ → Option Nat
  | act action => action.instant?
  | init now => some now
  | shutdown => none

namespace Breaker

variable {σ ζ μ κ : Type}

def afterCall (breaker : Breaker σ ζ μ κ) (result : Except BreakerError (Breaker σ ζ μ κ)) :
    Breaker σ ζ μ κ :=
  match result with
  | .ok after => after
  | .error _ => breaker

/-- A close request that meets an opened breaker. -/
def AsksToClose (breaker : Breaker σ ζ μ κ) : Action σ ζ μ κ → Prop
  | .input .closeRequest _ => breaker.lifecycle.phase = .opened
  | _ => False

instance (breaker : Breaker σ ζ μ κ) :
    (action : Action σ ζ μ κ) → Decidable (breaker.AsksToClose action)
  | .input .closeRequest _ => inferInstanceAs (Decidable (_ = _))
  | .input .zeroCrossing _ | .input (.switchChanged _) _ | .input .openRequest _ | .poll _
  | .adjust _ => inferInstanceAs (Decidable False)

theorem event_ne_of_not_asksToClose {breaker : Breaker σ ζ μ κ} {input : Input} {now : Nat}
    (unasked : ¬ breaker.AsksToClose (.input input now))
    (opened : breaker.lifecycle.phase = .opened) : input.event ≠ .closeCommand := by
  cases input with
  | closeRequest => exact absurd opened unasked
  | switchChanged closed => cases closed <;> simp [Input.event]
  | _ => simp [Input.event]

section Runs

variable [SwitchDriver σ] [Meter μ] [RecordStore κ]

def adjust (breaker : Breaker σ ζ μ κ) : Adjustment σ ζ μ κ → Breaker σ ζ μ κ
  | .hardwareLimit limit => breaker.afterCall (breaker.setHardwareLimit limit)
  | .points points => breaker.afterCall (breaker.setPoints points)
  | .recovery settings => breaker.afterCall (breaker.setRecovery settings)
  | .modulation settings => breaker.afterCall (breaker.setModulation settings)
  | .observed observed => breaker.afterCall (breaker.setObserved observed)
  | .dispatch => breaker.dispatchNotice.2
  | .surroundings switch mains meter store =>
      { breaker with
        switch := switch breaker.switch
        mains := mains breaker.mains
        meter := meter breaker.meter
        store := store breaker.store }

def act (breaker : Breaker σ ζ μ κ) : Action σ ζ μ κ → Breaker σ ζ μ κ
  | .input input now => breaker.afterCall (breaker.handleInput input now)
  | .poll now => breaker.afterCall (breaker.poll now)
  | .adjust adjustment => breaker.adjust adjustment

def step [Mains ζ] (breaker : Breaker σ ζ μ κ) : Step σ ζ μ κ → Breaker σ ζ μ κ
  | .act action => breaker.act action
  | .init now => breaker.init now
  | .shutdown => breaker.afterCall breaker.shutdown

def run (breaker : Breaker σ ζ μ κ) (actions : List (Action σ ζ μ κ)) : Breaker σ ζ μ κ :=
  actions.foldl Breaker.act breaker

def history [Mains ζ] (breaker : Breaker σ ζ μ κ) (steps : List (Step σ ζ μ κ)) :
    Breaker σ ζ μ κ :=
  steps.foldl Breaker.step breaker

@[simp]
theorem run_concat (breaker : Breaker σ ζ μ κ) (actions : List (Action σ ζ μ κ))
    (action : Action σ ζ μ κ) :
    breaker.run (actions ++ [action]) = (breaker.run actions).act action := by
  simp [run]

@[simp]
theorem history_concat [Mains ζ] (breaker : Breaker σ ζ μ κ) (steps : List (Step σ ζ μ κ))
    (step : Step σ ζ μ κ) :
    breaker.history (steps ++ [step]) = (breaker.history steps).step step := by
  simp [history]

end Runs

/-!
## What adjustments leave alone
-/

structure Adjusted (before after : Breaker σ ζ μ κ) : Prop where
  clock : after.clock = before.clock
  initialized : after.initialized = before.initialized
  nextTick : after.monitor.nextTick = before.monitor.nextTick
  lifecycle : ∃ recovery attemptsLeft modulation,
    after.lifecycle = { before.lifecycle with recovery, attemptsLeft, modulation } ∧
      attemptsLeft ≤ before.lifecycle.attemptsLeft

namespace Adjusted

variable {before after : Breaker σ ζ μ κ}

theorem phase (adjusted : before.Adjusted after) :
    after.lifecycle.phase = before.lifecycle.phase := by
  obtain ⟨recovery, attemptsLeft, modulation, same, _⟩ := adjusted.lifecycle
  rw [same]

theorem attemptsLeft (adjusted : before.Adjusted after) :
    after.lifecycle.attemptsLeft ≤ before.lifecycle.attemptsLeft := by
  obtain ⟨recovery, attemptsLeft, modulation, same, fewer⟩ := adjusted.lifecycle
  rw [same]
  exact fewer

theorem inSession (adjusted : before.Adjusted after) (session : before.InSession) :
    after.InSession := by
  obtain ⟨recovery, attemptsLeft, modulation, same, _⟩ := adjusted.lifecycle
  constructor
  · rw [adjusted.initialized, session.initialized]
  · rw [same]
    exact ⟨session.ready.started, session.ready.hears⟩

theorem refl (breaker : Breaker σ ζ μ κ) : breaker.Adjusted breaker :=
  ⟨rfl, rfl, rfl, ⟨_, _, _, rfl, UInt16.le_refl _⟩⟩

end Adjusted

section Setters

variable {breaker after : Breaker σ ζ μ κ}

theorem ensured {result : Breaker σ ζ μ κ → Except BreakerError (Breaker σ ζ μ κ)}
    (accepted : (breaker.ensureInitialized >>= result) = .ok after) :
    result breaker = .ok after := by
  unfold ensureInitialized at accepted
  split at accepted
  · exact accepted
  · cases accepted

theorem afterCall_of {Property : Breaker σ ζ μ κ → Prop}
    {result : Except BreakerError (Breaker σ ζ μ κ)} (start : Property breaker)
    (accepted : ∀ after, result = .ok after → Property after) :
    Property (breaker.afterCall result) := by
  cases result with
  | error error => exact start
  | ok after => exact accepted after rfl

private theorem afterCall_cases (breaker : Breaker σ ζ μ κ)
    (result : Except BreakerError (Breaker σ ζ μ κ)) :
    breaker.afterCall result = breaker ∨ result = .ok (breaker.afterCall result) := by
  cases result with
  | error error => exact .inl rfl
  | ok after => exact .inr rfl

private theorem setObserved_spec {observed : Bool}
    (accepted : breaker.setObserved observed = .ok after) :
    breaker.Adjusted after ∧ after.switch = breaker.switch := by
  cases ensured accepted
  exact ⟨⟨rfl, rfl, rfl, ⟨_, _, _, rfl, UInt16.le_refl _⟩⟩, rfl⟩

variable [RecordStore κ]

@[simp]
theorem lifecycle_persist {α : Type} [Record α] (set : Breaker σ ζ μ κ) (settings : α) :
    (set.persist settings).lifecycle = set.lifecycle := by
  obtain ⟨store, log, same⟩ := persist_eq set settings
  rw [same]

private theorem adjusted_persist {α : Type} [Record α] {set : Breaker σ ζ μ κ} (settings : α)
    (adjusted : breaker.Adjusted set) :
    breaker.Adjusted (set.persist settings) ∧ (set.persist settings).switch = set.switch := by
  obtain ⟨store, log, same⟩ := persist_eq set settings
  rw [same]
  exact ⟨⟨adjusted.clock, adjusted.initialized, adjusted.nextTick, adjusted.lifecycle⟩, rfl⟩

private theorem setHardwareLimit_spec [SwitchDriver σ] {limit : UInt8}
    (accepted : breaker.setHardwareLimit limit = .ok after) :
    breaker.Adjusted after ∧ SwitchDriver.setLimit breaker.switch limit = .ok after.switch := by
  have limited := ensured accepted
  split at limited
  · cases limited
  · next switch applied =>
    cases limited
    obtain ⟨adjusted, same⟩ := adjusted_persist { breaker.curve with hardwareLimit := limit }
      (⟨rfl, rfl, rfl, ⟨_, _, _, rfl, UInt16.le_refl _⟩⟩ : breaker.Adjusted
        { breaker with switch, curve := { breaker.curve with hardwareLimit := limit } })
    exact ⟨adjusted, by rw [same, applied]⟩

private theorem setPoints_spec {points : List CurvePoint}
    (accepted : breaker.setPoints points = .ok after) :
    breaker.Adjusted after ∧ after.switch = breaker.switch := by
  have curved := ensured accepted
  split at curved
  · cases curved
  · cases curved
    exact adjusted_persist _ ⟨rfl, rfl, rfl, ⟨_, _, _, rfl, UInt16.le_refl _⟩⟩

private theorem setRecovery_spec {settings : RecoverySettings}
    (accepted : breaker.setRecovery settings = .ok after) :
    breaker.Adjusted after ∧ after.switch = breaker.switch := by
  have configured := ensured accepted
  unfold Lifecycle.configure at configured
  cases valid : settings.validate with
  | error error => simp [valid] at configured
  | ok checked =>
      simp only [valid, Except.ok.injEq] at configured
      rw [← configured]
      refine adjusted_persist _ ⟨rfl, rfl, rfl, ⟨_, _, _, rfl, ?_⟩⟩
      split
      · next fewer => exact UInt16.le_of_lt fewer
      · exact UInt16.le_refl _

private theorem setModulation_spec {settings : ModulationSettings}
    (accepted : breaker.setModulation settings = .ok after) :
    breaker.Adjusted after ∧ after.switch = breaker.switch := by
  have configured := ensured accepted
  unfold Lifecycle.configureModulation at configured
  cases valid : breaker.lifecycle.modulation.configure settings with
  | error error => simp [valid] at configured
  | ok modulation =>
      simp only [valid, Except.ok.injEq] at configured
      rw [← configured]
      exact adjusted_persist _ ⟨rfl, rfl, rfl, ⟨_, _, _, rfl, UInt16.le_refl _⟩⟩

variable [SwitchDriver σ] (adjustment : Adjustment σ ζ μ κ)

/-- No adjustment moves the phase, the timers, the filter or the next tick, and none
gives attempts back. -/
theorem adjust_adjusted (breaker : Breaker σ ζ μ κ) :
    breaker.Adjusted (breaker.adjust adjustment) := by
  have refl := Adjusted.refl breaker
  cases adjustment with
  | hardwareLimit limit =>
      exact afterCall_of refl fun _ accepted => (setHardwareLimit_spec accepted).1
  | points points => exact afterCall_of refl fun _ accepted => (setPoints_spec accepted).1
  | recovery settings => exact afterCall_of refl fun _ accepted => (setRecovery_spec accepted).1
  | modulation settings => exact afterCall_of refl fun _ accepted => (setModulation_spec accepted).1
  | observed observed => exact afterCall_of refl fun _ accepted => (setObserved_spec accepted).1
  | dispatch => exact ⟨rfl, rfl, rfl, ⟨_, _, _, rfl, UInt16.le_refl _⟩⟩
  | surroundings => exact ⟨rfl, rfl, rfl, ⟨_, _, _, rfl, UInt16.le_refl _⟩⟩

/-- Settings are put in force and then stored. -/
def Stores (before after : Breaker σ ζ μ κ) : Prop :=
  ∃ (α : Type) (_ : Record α) (_ : LawfulRecord α) (settings : α),
    ∃ switch curve lifecycle monitor, after =
      ({ before with switch, curve, lifecycle, monitor } : Breaker σ ζ μ κ).persist settings

omit [SwitchDriver σ] in
private theorem stores_afterCall {breaker : Breaker σ ζ μ κ}
    {result : Except BreakerError (Breaker σ ζ μ κ)}
    (accepted : ∀ after, result = .ok after → breaker.Stores after) :
    breaker.afterCall result = breaker ∨ breaker.Stores (breaker.afterCall result) := by
  cases result with
  | error error => exact .inl rfl
  | ok after => exact .inr (accepted after rfl)

/-- An adjustment stores settings that are in force already, or it touches no more than observer and
notice, or it is that of the surroundings. -/
theorem adjust_shape (breaker : Breaker σ ζ μ κ) :
    (∃ observed pending, breaker.adjust adjustment = { breaker with observed, pending } ∧
        (adjustment ≠ .dispatch → pending = breaker.pending)) ∨
      (∃ switch mains meter store, adjustment = .surroundings switch mains meter store) ∨
      breaker.Stores (breaker.adjust adjustment) := by
  have unmoved {after : Breaker σ ζ μ κ} (same : after = breaker) :
      ∃ observed pending, after = { breaker with observed, pending } ∧
        (adjustment ≠ .dispatch → pending = breaker.pending) :=
    ⟨_, _, same, fun _ => rfl⟩
  cases adjustment with
  | hardwareLimit limit =>
      refine (stores_afterCall fun after accepted => ?_).imp unmoved .inr
      have limited := ensured accepted
      split at limited <;> cases limited
      exact ⟨CurveSettings, inferInstance, inferInstance, _, _, _, _, _, rfl⟩
  | points points =>
      refine (stores_afterCall fun after accepted => ?_).imp unmoved .inr
      have curved := ensured accepted
      split at curved <;> cases curved
      exact ⟨CurveSettings, inferInstance, inferInstance, _, _, _, _, _, rfl⟩
  | recovery settings =>
      refine (stores_afterCall fun after accepted => ?_).imp unmoved .inr
      have configured := ensured accepted
      split at configured <;> cases configured
      exact ⟨RecoverySettings, inferInstance, inferInstance, settings, _, _, _, _, rfl⟩
  | modulation settings =>
      refine (stores_afterCall fun after accepted => ?_).imp unmoved .inr
      have configured := ensured accepted
      split at configured <;> cases configured
      exact ⟨ModulationSettings, inferInstance, inferInstance, settings, _, _, _, _, rfl⟩
  | observed observed =>
      rw [Breaker.adjust]
      cases accepted : breaker.setObserved observed with
      | error error => exact .inl (unmoved rfl)
      | ok after =>
          cases ensured accepted
          exact .inl ⟨_, _, rfl, fun _ => rfl⟩
  | dispatch => exact .inl ⟨_, _, rfl, fun other => absurd rfl other⟩
  | surroundings switch mains meter store => exact .inr (.inl ⟨_, _, _, _, rfl⟩)

/-- Adjustments reach the lifecycle through its settings only. -/
theorem lifecycle_adjust (breaker : Breaker σ ζ μ κ) :
    (breaker.adjust adjustment).lifecycle = breaker.lifecycle ∨
      (∃ settings, adjustment = .recovery settings ∧
        breaker.lifecycle.configure settings = .ok (breaker.adjust adjustment).lifecycle) ∨
      ∃ settings, adjustment = .modulation settings ∧
        breaker.lifecycle.configureModulation settings =
          .ok (breaker.adjust adjustment).lifecycle := by
  have kept {result : Except BreakerError (Breaker σ ζ μ κ)}
      (accepted : ∀ after, result = .ok after → after.lifecycle = breaker.lifecycle) :
      (breaker.afterCall result).lifecycle = breaker.lifecycle :=
    @afterCall_of _ _ _ _ _ (fun after => after.lifecycle = breaker.lifecycle) _ rfl accepted
  cases adjustment with
  | hardwareLimit limit =>
      refine .inl (kept fun after accepted => ?_)
      have limited := ensured accepted
      split at limited <;> cases limited
      exact lifecycle_persist _ _
  | points points =>
      refine .inl (kept fun after accepted => ?_)
      have curved := ensured accepted
      split at curved <;> cases curved
      exact lifecycle_persist _ _
  | recovery settings =>
      rw [Breaker.adjust]
      rcases afterCall_cases breaker (breaker.setRecovery settings) with same | accepted
      · exact .inl (congrArg Breaker.lifecycle same)
      · refine .inr (.inl ⟨settings, rfl, ?_⟩)
        generalize breaker.afterCall (breaker.setRecovery settings) = after at accepted ⊢
        have configured := ensured accepted
        split at configured <;> cases configured
        rw [lifecycle_persist]
        assumption
  | modulation settings =>
      rw [Breaker.adjust]
      rcases afterCall_cases breaker (breaker.setModulation settings) with same | accepted
      · exact .inl (congrArg Breaker.lifecycle same)
      · refine .inr (.inr ⟨settings, rfl, ?_⟩)
        generalize breaker.afterCall (breaker.setModulation settings) = after at accepted ⊢
        have configured := ensured accepted
        split at configured <;> cases configured
        rw [lifecycle_persist]
        assumption
  | observed observed =>
      refine .inl (kept fun after accepted => ?_)
      cases ensured accepted
      rfl
  | dispatch => exact .inl rfl
  | surroundings => exact .inl rfl

/-- An adjustment other than that of the recovery leaves all of the lifecycle but its modulation
alone. -/
theorem lifecycle_adjust_of_ne (breaker : Breaker σ ζ μ κ)
    (other : ∀ settings, adjustment ≠ .recovery settings) :
    ∃ modulation,
      (breaker.adjust adjustment).lifecycle = { breaker.lifecycle with modulation } := by
  rcases lifecycle_adjust adjustment breaker with same | ⟨settings, recovers, _⟩ |
    ⟨settings, _, configured⟩
  · exact ⟨breaker.lifecycle.modulation, same⟩
  · exact absurd recovers (other settings)
  · unfold Lifecycle.configureModulation at configured
    split at configured
    · exact ⟨_, (Except.ok.inj configured).symm⟩
    · cases configured

/-- Adjustments reach the switch through its limit and through its surroundings only. -/
theorem adjust_switch {Property : σ → Prop}
    (limited : ∀ before limit after, SwitchDriver.setLimit before limit = .ok after →
      Property before → Property after)
    (surrounded : ∀ switch mains meter store, adjustment = .surroundings switch mains meter store →
      Property breaker.switch → Property (switch breaker.switch))
    (start : Property breaker.switch) : Property (breaker.adjust adjustment).switch := by
  have kept {result : Except BreakerError (Breaker σ ζ μ κ)}
      (accepted : ∀ after, result = .ok after → after.switch = breaker.switch) :
      Property (breaker.afterCall result).switch := by
    refine @afterCall_of _ _ _ _ _ (fun after => Property after.switch) _ start ?_
    intro after same
    rw [accepted after same]
    exact start
  cases adjustment with
  | hardwareLimit limit =>
      exact @afterCall_of _ _ _ _ _ (fun after => Property after.switch) _ start
        fun after accepted =>
          limited breaker.switch limit after.switch (setHardwareLimit_spec accepted).2 start
  | points points => exact kept fun _ accepted => (setPoints_spec accepted).2
  | recovery settings => exact kept fun _ accepted => (setRecovery_spec accepted).2
  | modulation settings => exact kept fun _ accepted => (setModulation_spec accepted).2
  | observed observed => exact kept fun _ accepted => (setObserved_spec accepted).2
  | dispatch => exact start
  | surroundings switch mains meter store => exact surrounded switch mains meter store rfl start

end Setters

/-!
## Sessions
-/

section Sessions

variable [SwitchDriver σ] [RecordStore κ]

/-- A session starts in the phase of the switch, with the whole budget and the monitor
running. -/
theorem init_of_fresh [Mains ζ] {breaker : Breaker σ ζ μ κ}
    (fresh : breaker.initialized = false) (now : Nat) :
    (breaker.init now).InSession ∧ (breaker.init now).clock = breaker.clock ∧
      (breaker.init now).monitor.nextTick = some (breaker.clock.after now Monitor.interval) ∧
      (breaker.init now).lifecycle.phase =
        if SwitchDriver.isOn (breaker.init now).switch then .closed else .opened := by
  have notYet : ¬ breaker.initialized = true := by simp [fresh]
  unfold init
  rw [if_neg notYet]
  refine ⟨⟨rfl, Lifecycle.start_ready _⟩, ?_, ?_, rfl⟩
  · simp [record]
  · simp [record, Monitor.start]

/-- A session starts with a fresh lifecycle over the stored settings, and with no notice. -/
theorem init_fresh [Mains ζ] {breaker : Breaker σ ζ μ κ} (fresh : breaker.initialized = false)
    (now : Nat) :
    (breaker.init now).pending = none ∧ ∃ recovery settings,
      (breaker.init now).lifecycle =
        { ({} : Lifecycle) with recovery, modulation := { settings } }.start
          (breaker.init now).switch := by
  have notYet : ¬ breaker.initialized = true := by simp [fresh]
  unfold init
  rw [if_neg notYet]
  exact ⟨rfl, _, _, rfl⟩

/-- A session starts with a switch that reports, under the stored limit if the driver takes it. -/
theorem init_switch [Mains ζ] {breaker : Breaker σ ζ μ κ} (fresh : breaker.initialized = false)
    (now : Nat) :
    ∃ limited,
      (limited = breaker.switch ∨
        ∃ limit, SwitchDriver.setLimit breaker.switch limit = .ok limited) ∧
        (breaker.init now).switch = SwitchDriver.enableEvents limited := by
  have notYet : ¬ breaker.initialized = true := by simp [fresh]
  unfold init
  rw [if_neg notYet]
  dsimp only
  simp only [switch_restoreOrDefault]
  split
  · next switch accepted => exact ⟨switch, .inr ⟨_, accepted⟩, rfl⟩
  · exact ⟨breaker.switch, .inl rfl, rfl⟩

variable [Meter μ]

theorem InSession.act {breaker : Breaker σ ζ μ κ} (session : breaker.InSession)
    (action : Action σ ζ μ κ) : (breaker.act action).InSession := by
  cases action with
  | input input now =>
      obtain ⟨after, accepted, ⟨rfl, _⟩ | ⟨reacts, _⟩⟩ := session.handleInput input now
      · simpa [Breaker.act, accepted, afterCall] using session
      · simpa [Breaker.act, accepted, afterCall] using reacts.inSession session
  | poll now =>
      obtain ⟨fired, after, accepted, kept, _, _, ⟨_, rfl⟩ | ⟨_, _, reacts, _⟩⟩ :=
        @InSession.poll _ _ _ _ _ _ _ session now (fun _ => True) trivial
          (fun _ _ _ _ _ _ _ _ => trivial)
      · simp only [Breaker.act, accepted, afterCall]
        exact ⟨kept.initialized, kept.ready⟩
      · simpa [Breaker.act, accepted, afterCall] using reacts.inSession kept
  | adjust adjustment => exact (adjust_adjusted adjustment breaker).inSession session

/-- What every command to the switch keeps, and what the action itself does not break, the
action keeps. -/
theorem InSession.act_keeps {breaker : Breaker σ ζ μ κ} (session : breaker.InSession)
    (action : Action σ ζ μ κ) {Property : σ → Prop}
    (turnedOn : ∀ switch, Property switch → Property (SwitchDriver.turnOn switch).2)
    (turnedOff : ∀ switch, Property switch → Property (SwitchDriver.turnOff switch))
    (limited : ∀ before limit after, SwitchDriver.setLimit before limit = .ok after →
      Property before → Property after)
    (surrounded : ∀ switch mains meter store,
      action = .adjust (.surroundings switch mains meter store) →
      Property breaker.switch → Property (switch breaker.switch))
    (holds : Property breaker.switch) : Property (breaker.act action).switch := by
  cases action with
  | input input now =>
      obtain ⟨after, accepted, ⟨rfl, _⟩ | ⟨reacts, _⟩⟩ := session.handleInput input now
      · simpa [Breaker.act, accepted, afterCall] using holds
      · simpa [Breaker.act, accepted, afterCall] using reacts.keeps turnedOn turnedOff holds
  | poll now =>
      obtain ⟨fired, after, accepted, _, held, _, ⟨_, rfl⟩ | ⟨_, _, reacts, _⟩⟩ :=
        @InSession.poll _ _ _ _ _ _ _ session now (fun breaker => Property breaker.switch) holds
          (fun _ _ _ _ held _ reacts _ => reacts.keeps turnedOn turnedOff held)
      · simpa [Breaker.act, accepted, afterCall] using held
      · simpa [Breaker.act, accepted, afterCall] using reacts.keeps turnedOn turnedOff held
  | adjust adjustment =>
      exact adjust_switch adjustment limited
        (fun switch mains meter store given =>
          surrounded switch mains meter store (congrArg Action.adjust given)) holds

theorem InSession.run {breaker : Breaker σ ζ μ κ} (session : breaker.InSession)
    (actions : List (Action σ ζ μ κ)) : (breaker.run actions).InSession := by
  induction actions generalizing breaker with
  | nil => exact session
  | cons action rest ih => exact ih (session.act action)

/-- A drained queue is one input after the other, at one instant. -/
theorem InSession.drain {breaker : Breaker σ ζ μ κ} (session : breaker.InSession)
    (feed : InputFeed) (now : Nat) :
    breaker.drain feed now =
      .ok (feed.inputs.length, breaker.run (feed.inputs.map fun input => .input input now)) := by
  have folded (inputs : List Input) :
      inputs.foldlM (fun breaker input => breaker.handleInput input now) breaker =
        .ok (breaker.run (inputs.map fun input => .input input now)) := by
    induction inputs generalizing breaker with
    | nil => rfl
    | cons input rest ih =>
        obtain ⟨after, accepted, _⟩ := session.handleInput input now
        have acted : breaker.act (.input input now) = after := by
          simp [Breaker.act, accepted, afterCall]
        have kept := session.act (.input input now)
        rw [acted] at kept
        rw [List.foldlM_cons, accepted, List.map_cons, Breaker.run, List.foldl_cons, acted]
        exact ih kept
  simp only [Breaker.drain, ensureInitialized, session.initialized, ↓reduceIte, bind, Except.bind]
  rw [folded]

theorem act_of_fresh {breaker : Breaker σ ζ μ κ} (fresh : breaker.initialized = false)
    (action : Action σ ζ μ κ) :
    breaker.act action = breaker ∨ ∃ adjustment, action = .adjust adjustment := by
  have refused : breaker.ensureInitialized = .error .notSupported := by
    simp [ensureInitialized, fresh]
  cases action with
  | input input now =>
      left
      cases input with
      | switchChanged closed =>
          cases closed <;> simp [Breaker.act, handleInput, apply, refused, afterCall, bind,
            Except.bind]
      | closeRequest =>
          simp [Breaker.act, handleInput, requestClose, refused, afterCall, bind, Except.bind]
      | openRequest =>
          simp [Breaker.act, handleInput, requestOpen, apply, refused, afterCall, bind,
            Except.bind]
      | zeroCrossing =>
          simp [Breaker.act, handleInput, apply, refused, afterCall, bind, Except.bind]
  | poll now =>
      left
      simp [Breaker.act, Breaker.poll, refused, afterCall, bind, Except.bind]
  | adjust adjustment => exact .inr ⟨adjustment, rfl⟩

omit [RecordStore κ] [Meter μ] in
theorem shutdown_of_fresh [Mains ζ] {breaker : Breaker σ ζ μ κ}
    (fresh : breaker.initialized = false) : breaker.shutdown = .error .notSupported := by
  simp [Breaker.shutdown, ensureInitialized, fresh, bind, Except.bind]

theorem step_of_fresh [Mains ζ] {breaker : Breaker σ ζ μ κ} (fresh : breaker.initialized = false)
    (step : Step σ ζ μ κ) :
    (∃ now, step = .init now) ∨ (breaker.step step).initialized = false ∧
      (breaker.step step).clock = breaker.clock ∧
      (breaker.step step).monitor.nextTick = breaker.monitor.nextTick := by
  cases step with
  | act action =>
      right
      rcases act_of_fresh fresh action with same | ⟨adjustment, rfl⟩
      · rw [Breaker.step, same]
        exact ⟨fresh, rfl, rfl⟩
      · have adjusted := adjust_adjusted adjustment breaker
        exact ⟨by rw [← fresh]; exact adjusted.initialized, adjusted.clock, adjusted.nextTick⟩
  | init now => exact .inl ⟨now, rfl⟩
  | shutdown =>
      right
      simp [Breaker.step, shutdown_of_fresh fresh, afterCall, fresh]

theorem shutdown_of_inSession [Mains ζ] {breaker : Breaker σ ζ μ κ}
    (session : breaker.InSession) :
    (breaker.step .shutdown).initialized = false ∧
      (breaker.step .shutdown).clock = breaker.clock ∧
      (breaker.step .shutdown).monitor.nextTick = none := by
  have accepted : breaker.ensureInitialized = .ok breaker := by
    simp [ensureInitialized, session.initialized]
  simp [Breaker.step, Breaker.shutdown, accepted, afterCall, bind, Except.bind, Monitor.reset,
    Monitor.stop]

theorem step_inSession [Mains ζ] {breaker : Breaker σ ζ μ κ}
    (session : breaker.initialized = true → breaker.InSession) (step : Step σ ζ μ κ)
    (initialized : (breaker.step step).initialized = true) : (breaker.step step).InSession := by
  cases known : breaker.initialized with
  | false =>
      rcases step_of_fresh known step with ⟨now, rfl⟩ | ⟨outside, _⟩
      · exact (init_of_fresh known now).1
      · simp [outside] at initialized
  | true =>
      have session := session known
      cases step with
      | act action => exact session.act action
      | init now =>
          have same : breaker.init now = breaker := by simp [Breaker.init, known]
          rw [Breaker.step, same]
          exact session
      | shutdown => simp [(shutdown_of_inSession session).1] at initialized

theorem inSession_history [Mains ζ] {breaker : Breaker σ ζ μ κ}
    (fresh : breaker.initialized = false) (steps : List (Step σ ζ μ κ))
    (initialized : (breaker.history steps).initialized = true) :
    (breaker.history steps).InSession := by
  induction steps using List.reverseRecOn with
  | nil => simp [history, fresh] at initialized
  | append_singleton steps step ih =>
      rw [history_concat] at initialized ⊢
      exact step_inSession ih step initialized

/-- A breaker that is in a session after any number of steps. -/
def Reachable [Mains ζ] (breaker : Breaker σ ζ μ κ) : Prop :=
  breaker.initialized = true ∧ ∃ clock switch mains meter store steps,
    (ofParts clock switch mains meter store).history steps = breaker

theorem Reachable.inSession [Mains ζ] {breaker : Breaker σ ζ μ κ} (reachable : breaker.Reachable) :
    breaker.InSession := by
  obtain ⟨initialized, _, _, _, _, _, steps, rfl⟩ := reachable
  exact inSession_history rfl steps initialized

theorem Reachable.history [Mains ζ] {breaker : Breaker σ ζ μ κ} (reachable : breaker.Reachable)
    (steps : List (Step σ ζ μ κ)) (initialized : (breaker.history steps).initialized = true) :
    (breaker.history steps).Reachable := by
  obtain ⟨_, clock, switch, mains, meter, store, earlier, rfl⟩ := reachable
  exact ⟨initialized, clock, switch, mains, meter, store, earlier ++ steps, List.foldl_append⟩

end Sessions

end Breaker

/-!
## Runs on the bench
-/

namespace Bench

abbrev BenchBreaker := Breaker ScriptedSwitch ScriptedMains ScriptedMeter (FramedStore FaultyMemory)

abbrev BenchAction := Action ScriptedSwitch ScriptedMains ScriptedMeter (FramedStore FaultyMemory)

abbrev BenchStep := Step ScriptedSwitch ScriptedMains ScriptedMeter (FramedStore FaultyMemory)

/-- A breaker whose store keeps nothing, so that it starts with the initial settings. -/
def bench (switch : ScriptedSwitch) (meter : ScriptedMeter) : BenchBreaker :=
  .ofParts .micros switch {} meter { storage := .erased 0 0 }

def closing : List BenchAction := [.input .closeRequest 0, .poll 200000]

def closed : List BenchAction := closing ++ [.input (.switchChanged true) 200000]

def session (actions : List BenchAction) : List BenchStep := .init 0 :: actions.map .act

end Bench

end CircuitBreaker
