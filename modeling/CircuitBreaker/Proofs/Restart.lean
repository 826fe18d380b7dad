import CircuitBreaker.Proofs.FramedStorage
import CircuitBreaker.Proofs.Replenishment

/-!
# Restarts

Over a store that works and has room, the records always restore to the configuration in force as
it is stored. That is the configuration itself, unless a recovery delay is longer than a record can
hold.
-/

set_option autoImplicit false

namespace CircuitBreaker

/-!
## Events leave the settings alone
-/

namespace Lifecycle

variable (machine : Lifecycle) {σ : Type} [SwitchDriver σ] (clock : Clock) (event : Event)
  (switch : σ) (now : Nat)

@[simp]
theorem settings_modeEvent :
    (machine.modeEvent event switch).1.modulation.settings = machine.modulation.settings := by
  unfold modeEvent
  split
  · rfl
  · split
    · unfold leaveMode
      dsimp only
      split
      · rfl
      · split
        · rfl
        · simp only [reclose_fields]
          rfl
    · split
      · exact Modulation.settings_handle machine.modulation event switch
      · rfl

/-- No event changes the settings of the modulation. -/
theorem settings_transition :
    (machine.transition clock event switch now).1.modulation.settings =
      machine.modulation.settings := by
  cases phase : machine.phase with
  | undefined => simp [transition_of_undefined, phase]
  | opened => cases event <;> simp [transition, phase, beginClose]
  | supplyWait =>
      cases event with
      | supplyTimerExpired =>
          obtain ⟨acSupply, filter, reason, same, _⟩ := classifySupply_machine machine switch
          simp [transition, phase, same]
      | _ => simp [transition, phase, abortClose, settleOpened, countCrossing]
  | closeWait => cases event <;> simp [transition, phase, openOnCommand, enterClosed]
  | closed =>
      rw [transition_of_closed machine clock event switch now phase, settings_modeEvent]
      cases event <;> simp [closedTransition, openOnCommand, openOnDuration, replenish]
  | openWait => cases event <;> simp [transition, phase, settleOpened]

theorem settings_respond :
    (machine.respond clock event switch now).1.modulation.settings =
      machine.modulation.settings := by
  unfold respond
  split
  · rfl
  · exact settings_transition machine clock event switch now

end Lifecycle

/-!
## Configurations
-/

structure Configuration where
  curve : CurveSettings
  recovery : RecoverySettings
  modulation : ModulationSettings
deriving DecidableEq, Repr

def Configuration.stored (configuration : Configuration) : Configuration :=
  { configuration with recovery := configuration.recovery.stored }

theorem Configuration.stored_of_storable {configuration : Configuration}
    (storable : configuration.recovery.Storable) : configuration.stored = configuration := by
  cases configuration
  exact congrArg (Configuration.mk _ · _) storable

/-- At most sixteen points in the order of a curve, and a reset timeout in its range. -/
def Configuration.Bounded (configuration : Configuration) : Prop :=
  configuration.curve.curve.points.length ≤ Curve.maxPoints ∧
    Monotone configuration.curve.curve.points ∧ configuration.recovery.Valid

structure FramedStore.Holds {ρ : Type} [Storage ρ] (store : FramedStore ρ)
    (configuration : Configuration) : Prop where
  curve : restore store CurveSettings = .ok configuration.curve
  recovery : restore store RecoverySettings = .ok configuration.recovery
  modulation : restore store ModulationSettings = .ok configuration.modulation

namespace FramedStore

variable {ρ : Type} [Storage ρ] [LawfulStorage ρ] {store : FramedStore ρ}
  {configuration : Configuration} (roomy : store.Roomy) (holds : store.Holds configuration)
include roomy holds

theorem Roomy.persist_curve (curve : CurveSettings) :
    ∃ after, CircuitBreaker.persist store curve = .ok after ∧ after.Roomy ∧
      after.Holds { configuration with curve } := by
  obtain ⟨after, saved, room, restored, apart⟩ :=
    @Roomy.persist _ _ _ _ CurveSettings _ _ roomy curve trivial
  refine ⟨after, saved, room, restored, ?_, ?_⟩
  · rw [apart RecoverySettings (by decide), holds.recovery]
  · rw [apart ModulationSettings (by decide), holds.modulation]

theorem Roomy.persist_recovery {recovery : RecoverySettings} (valid : recovery.Valid) :
    ∃ after, CircuitBreaker.persist store recovery = .ok after ∧ after.Roomy ∧
      after.Holds { configuration with recovery := recovery.stored } := by
  obtain ⟨after, saved, room, restored, apart⟩ :=
    @Roomy.persist _ _ _ _ RecoverySettings _ _ roomy recovery valid
  refine ⟨after, saved, room, ?_, restored, ?_⟩
  · rw [apart CurveSettings (by decide), holds.curve]
  · rw [apart ModulationSettings (by decide), holds.modulation]

theorem Roomy.persist_modulation (modulation : ModulationSettings) :
    ∃ after, CircuitBreaker.persist store modulation = .ok after ∧ after.Roomy ∧
      after.Holds { configuration with modulation } := by
  obtain ⟨after, saved, room, restored, apart⟩ :=
    @Roomy.persist _ _ _ _ ModulationSettings _ _ roomy modulation trivial
  refine ⟨after, saved, room, ?_, ?_, restored⟩
  · rw [apart CurveSettings (by decide), holds.curve]
  · rw [apart RecoverySettings (by decide), holds.recovery]

end FramedStore

/-!
## The configuration in force
-/

/-- The adjustment reaches the store through the breaker only. -/
def Adjustment.SparesStore {σ ζ μ κ : Type} : Adjustment σ ζ μ κ → Prop
  | .surroundings _ _ _ store => store = id
  | _ => True

/-- The step reaches the store through the breaker only. -/
def Step.SparesStore {σ ζ μ κ : Type} : Step σ ζ μ κ → Prop
  | .act (.adjust adjustment) => adjustment.SparesStore
  | _ => True

namespace Lifecycle

variable {machine configured : Lifecycle}

theorem configure_spec {settings : RecoverySettings}
    (accepted : machine.configure settings = .ok configured) :
    settings.Valid ∧ configured.recovery = settings ∧
      configured.modulation = machine.modulation := by
  unfold configure RecoverySettings.validate at accepted
  by_cases valid : settings.Valid
  · rw [if_pos valid] at accepted
    cases accepted
    exact ⟨valid, rfl, rfl⟩
  · rw [if_neg valid] at accepted
    cases accepted

theorem configureModulation_spec {settings : ModulationSettings}
    (accepted : machine.configureModulation settings = .ok configured) :
    configured.recovery = machine.recovery ∧ configured.modulation.settings = settings := by
  unfold configureModulation Modulation.configure ModulationSettings.validate at accepted
  by_cases valid : settings.Valid
  · rw [if_pos valid] at accepted
    cases accepted
    exact ⟨rfl, rfl⟩
  · rw [if_neg valid] at accepted
    cases accepted

end Lifecycle

namespace Breaker

variable {σ ζ μ κ : Type}

def configuration (breaker : Breaker σ ζ μ κ) : Configuration where
  curve := breaker.curve
  recovery := breaker.lifecycle.recovery
  modulation := breaker.lifecycle.modulation.settings

section Events

variable [SwitchDriver σ]

/-- An event leaves the store and the configuration alone. -/
theorem InSession.configuration_applied {breaker after : Breaker σ ζ μ κ}
    (session : breaker.InSession) {event : Event} {now : Nat}
    (applied : breaker.apply event now = .ok after) :
    after.store = breaker.store ∧ after.configuration = breaker.configuration := by
  have reacts := session.reacts applied
  constructor
  · obtain ⟨log, pending, same⟩ := recordChanges_eq { breaker with lastSeen := some now }
      { breaker with
        lastSeen := some now
        lifecycle := (breaker.lifecycle.respond breaker.clock event breaker.switch now).1
        switch := (breaker.lifecycle.respond breaker.clock event breaker.switch now).2 } now
    rw [session.apply_eq, same] at applied
    cases applied
    rfl
  · unfold configuration
    rw [reacts.curve, reacts.lifecycle]
    simp only [Lifecycle.recovery_respond, Lifecycle.settings_respond]

private theorem configuration_course {action : Action σ ζ μ κ} {now : Nat}
    {breaker final : Breaker σ ζ μ κ} {trail : List (Application σ ζ μ κ)}
    (course : Course action now breaker trail final) (session : breaker.InSession) :
    final.store = breaker.store ∧ final.configuration = breaker.configuration ∧
      final.initialized = breaker.initialized := by
  induction course with
  | rest breaker => exact ⟨rfl, rfl, rfl⟩
  | aside monitor lastSeen later ih => exact ih ⟨session.initialized, session.ready⟩
  | raise raised applied later ih =>
      obtain ⟨store, configuration⟩ := session.configuration_applied applied
      obtain ⟨same, kept, inside⟩ := ih (session.applied applied)
      exact ⟨same.trans store, kept.trans configuration,
        inside.trans (session.reacts applied).initialized⟩
  | expire timer polling due applied later ih =>
      have disarmed := session.disarm timer
      obtain ⟨store, configuration⟩ := disarmed.configuration_applied applied
      obtain ⟨same, kept, inside⟩ := ih (disarmed.applied applied)
      exact ⟨same.trans store, kept.trans configuration,
        inside.trans (disarmed.reacts applied).initialized⟩

/-- Inputs and polls leave the store and the configuration alone. -/
theorem InSession.configuration_act [Meter μ] [RecordStore κ] {breaker : Breaker σ ζ μ κ}
    (session : breaker.InSession) {action : Action σ ζ μ κ}
    (other : ∀ adjustment, action ≠ .adjust adjustment) :
    (breaker.act action).store = breaker.store ∧
      (breaker.act action).configuration = breaker.configuration := by
  rcases session.course action with ⟨adjustment, adjusting⟩ | ⟨now, events⟩
  · exact absurd adjusting (other adjustment)
  · obtain ⟨store, configuration, _⟩ := configuration_course events session
    exact ⟨store, configuration⟩

end Events

/-!
## Sessions over records that restore
-/

section Restored

variable [RecordStore κ] {α : Type} [Record α]

/-- What a record restores to may be stored, and is stored as it is. -/
theorem accepted_of_restore [LawfulRecord α] {store : κ} {settings : α}
    (restored : restore store α = .ok settings) :
    LawfulRecord.Accepted settings ∧ LawfulRecord.stored settings = settings := by
  unfold restore at restored
  split at restored
  · cases restored
  · split at restored
    · next decoded =>
      cases restored
      exact LawfulRecord.decoded _ _ decoded
    · cases restored

end Restored

variable {ρ : Type} [Storage ρ]

section Begins

variable [SwitchDriver σ] [Mains ζ]

/-- The session that would begin at an instant restores every record, and logs just that and the
phase that it starts in. -/
def RestoresAll [RecordStore κ] (breaker : Breaker σ ζ μ κ) (now : Nat) : Prop :=
  (breaker.init now).log =
    (((breaker.log.add (.configRestored .tripCurve) now).add (.configRestored .recovery) now).add
      (.configRestored .modulation) now).add
        (.stateChanged .undefined (breaker.init now).lifecycle.phase) now

/-- A session starts with the configuration that the store holds. -/
theorem init_of_holds {breaker : Breaker σ ζ μ (FramedStore ρ)} {configuration : Configuration}
    (fresh : breaker.initialized = false) (holds : breaker.store.Holds configuration) (now : Nat) :
    (breaker.init now).configuration = configuration ∧ breaker.RestoresAll now := by
  have notYet : ¬ breaker.initialized = true := by simp [fresh]
  unfold RestoresAll init
  rw [if_neg notYet]
  simp only [restoreOrDefault, record, holds.curve, holds.recovery, holds.modulation]
  exact ⟨rfl, rfl⟩

end Begins

/-!
## Breakers over a store with room
-/

variable [LawfulStorage ρ]

/-- The store works and has room, and it holds the configuration in force as it is stored. -/
structure Backed (breaker : Breaker σ ζ μ (FramedStore ρ)) : Prop where
  roomy : breaker.store.Roomy
  holds : breaker.store.Holds breaker.configuration.stored

section Records

variable (breaker : Breaker σ ζ μ (FramedStore ρ)) {α : Type} [Record α]

omit [LawfulStorage ρ] in
private theorem persist_of_saved {settings : α} {store : FramedStore ρ}
    (saved : CircuitBreaker.persist breaker.store settings = .ok store) :
    breaker.persist settings = { breaker with store } := by
  rw [Breaker.persist, saved]

private theorem backed_persist {settings : α} {store : FramedStore ρ}
    (saved : CircuitBreaker.persist breaker.store settings = .ok store) (room : store.Roomy)
    (holds : store.Holds breaker.configuration.stored) : (breaker.persist settings).Backed := by
  rw [persist_of_saved breaker saved]
  exact ⟨room, holds⟩

/-- A record that cannot be restored is replaced by the initial settings. Either way the record
holds the settings that the breaker gets. -/
private theorem restoreOrDefault_roomy (roomy : breaker.store.Roomy) (α : Type) [Record α]
    [LawfulRecord α] (now : Nat) :
    ∃ settings store log,
      breaker.restoreOrDefault α now = (settings, { breaker with store, log }) ∧ store.Roomy ∧
        restore store α = .ok settings ∧
        ∀ (β : Type) [Record β] [LawfulRecord β], Record.Apart α β →
          restore store β = restore breaker.store β := by
  cases restored : restore breaker.store α with
  | ok settings =>
      refine ⟨settings, breaker.store,
        (breaker.record (.configRestored (Record.kind α)) now).log, ?_, roomy, restored,
        fun _ _ _ _ => rfl⟩
      rw [restoreOrDefault, restored]
      rfl
  | error error =>
      obtain ⟨accepted, stored⟩ := LawfulRecord.initial (α := α)
      obtain ⟨store, saved, kept, replaced, apart⟩ := roomy.persist accepted
      refine ⟨Record.initial, store,
        (breaker.record (.configDefaulted (Record.kind α)) now).log, ?_, kept, ?_, apart⟩
      · rw [restoreOrDefault, restored]
        dsimp only
        rw [persist_of_saved (breaker.record _ now) saved]
        rfl
      · rw [replaced, stored]

end Records

section Sessions

variable [SwitchDriver σ]

/-- Whatever the store holds before, a session starts with its records in force. -/
theorem init_backed [Mains ζ] {breaker : Breaker σ ζ μ (FramedStore ρ)}
    (fresh : breaker.initialized = false) (roomy : breaker.store.Roomy) (now : Nat) :
    (breaker.init now).Backed := by
  have notYet : ¬ breaker.initialized = true := by simp [fresh]
  obtain ⟨curve, curved, log, curveSet, curveRoom, curveHeld, _⟩ :=
    restoreOrDefault_roomy { breaker with lastSeen := some now } roomy CurveSettings now
  obtain ⟨recovery, recovered, log', recoverySet, recoveryRoom, recoveryHeld, recoveryApart⟩ :=
    restoreOrDefault_roomy { breaker with lastSeen := some now, store := curved, log } curveRoom
      RecoverySettings now
  obtain ⟨modulation, store, log'', modulationSet, room, modulationHeld, modulationApart⟩ :=
    restoreOrDefault_roomy { breaker with lastSeen := some now, store := recovered, log := log' }
      recoveryRoom ModulationSettings now
  have begun : (breaker.init now).store = store ∧
      (breaker.init now).configuration = ⟨curve, recovery, modulation⟩ := by
    unfold init
    rw [if_neg notYet]
    dsimp only
    rw [curveSet]
    dsimp only
    rw [recoverySet]
    dsimp only
    rw [modulationSet]
    exact ⟨rfl, rfl⟩
  have stored : (breaker.init now).configuration.stored = ⟨curve, recovery, modulation⟩ := by
    rw [begun.2, Configuration.stored]
    exact congrArg (Configuration.mk curve · modulation) (accepted_of_restore recoveryHeld).2
  constructor
  · rw [begun.1]
    exact room
  · rw [begun.1, stored]
    refine ⟨?_, ?_, modulationHeld⟩
    · rw [modulationApart CurveSettings (by decide), recoveryApart CurveSettings (by decide)]
      exact curveHeld
    · rw [modulationApart RecoverySettings (by decide)]
      exact recoveryHeld

namespace Backed

variable {breaker set : Breaker σ ζ μ (FramedStore ρ)} (backed : breaker.Backed)
include backed

omit [SwitchDriver σ] in
theorem congr {after : Breaker σ ζ μ (FramedStore ρ)} (store : after.store = breaker.store)
    (configuration : after.configuration = breaker.configuration) : after.Backed := by
  constructor
  · rw [store]
    exact backed.roomy
  · rw [store, configuration]
    exact backed.holds

/-- What callers set, if it is accepted, the record of it holds as it is stored. -/
theorem adjust [Mains ζ] [Meter μ] {adjustment : Adjustment σ ζ μ (FramedStore ρ)}
    (spared : adjustment.SparesStore) : (breaker.adjust adjustment).Backed := by
  cases adjustment with
  | hardwareLimit limit =>
      refine afterCall_of backed fun after accepted => ?_
      have limited := ensured accepted
      split at limited
      · cases limited
      · next switch applied =>
        cases limited
        obtain ⟨store, saved, room, holds⟩ := backed.roomy.persist_curve backed.holds
          { breaker.curve with hardwareLimit := limit }
        exact backed_persist _ saved room holds
  | points points =>
      refine afterCall_of backed fun after accepted => ?_
      have curved := ensured accepted
      split at curved
      · cases curved
      · next curve applied =>
        cases curved
        obtain ⟨store, saved, room, holds⟩ := backed.roomy.persist_curve backed.holds
          { breaker.curve with curve }
        exact backed_persist _ saved room holds
  | recovery settings =>
      refine afterCall_of backed fun after accepted => ?_
      have configured := ensured accepted
      split at configured
      · cases configured
      · next lifecycle applied =>
        cases configured
        obtain ⟨valid, recovery, modulation⟩ := Lifecycle.configure_spec applied
        obtain ⟨store, saved, room, holds⟩ := backed.roomy.persist_recovery backed.holds valid
        refine backed_persist _ saved room ?_
        simp only [configuration, Configuration.stored, recovery, modulation]
        exact holds
  | modulation settings =>
      refine afterCall_of backed fun after accepted => ?_
      have configured := ensured accepted
      split at configured
      · cases configured
      · next lifecycle applied =>
        cases configured
        obtain ⟨recovery, modulation⟩ := Lifecycle.configureModulation_spec applied
        obtain ⟨store, saved, room, holds⟩ := backed.roomy.persist_modulation backed.holds settings
        refine backed_persist _ saved room ?_
        simp only [configuration, Configuration.stored, recovery, modulation]
        exact holds
  | observed observed =>
      refine afterCall_of backed fun after accepted => ?_
      cases ensured accepted
      exact backed.congr rfl rfl
  | dispatch => exact backed.congr rfl rfl
  | surroundings switch mains meter store =>
      cases spared
      exact backed.congr rfl rfl

end Backed

omit [SwitchDriver σ] [LawfulStorage ρ] in
private theorem store_adjust_of_fresh [SwitchDriver σ] {breaker : Breaker σ ζ μ (FramedStore ρ)}
    (fresh : breaker.initialized = false) {adjustment : Adjustment σ ζ μ (FramedStore ρ)}
    (spared : adjustment.SparesStore) : (breaker.adjust adjustment).store = breaker.store := by
  have refused : breaker.ensureInitialized = .error .notSupported := by
    simp [ensureInitialized, fresh]
  cases adjustment with
  | surroundings switch mains meter store =>
      cases spared
      rfl
  | dispatch => rfl
  | hardwareLimit limit =>
      simp [Breaker.adjust, setHardwareLimit, refused, afterCall, bind, Except.bind]
  | points points => simp [Breaker.adjust, setPoints, refused, afterCall, bind, Except.bind]
  | recovery settings => simp [Breaker.adjust, setRecovery, refused, afterCall, bind, Except.bind]
  | modulation settings =>
      simp [Breaker.adjust, setModulation, refused, afterCall, bind, Except.bind]
  | observed observed => simp [Breaker.adjust, setObserved, refused, afterCall, bind, Except.bind]

variable [Mains ζ] [Meter μ]

private theorem backed_step {breaker : Breaker σ ζ μ (FramedStore ρ)}
    (known : breaker.initialized = true → breaker.InSession) (roomy : breaker.store.Roomy)
    (backed : breaker.initialized = true → breaker.Backed)
    {step : Step σ ζ μ (FramedStore ρ)} (spared : step.SparesStore) :
    (breaker.step step).store.Roomy ∧
      ((breaker.step step).initialized = true → (breaker.step step).Backed) := by
  generalize applied : breaker.applied step = trail
  generalize stepped : breaker.step step = after
  have taken := step_taken known step
  rw [applied, stepped] at taken
  cases taken with
  | idle step => exact ⟨roomy, backed⟩
  | adjust adjustment =>
      have same := (adjust_adjusted adjustment breaker).initialized
      cases inside : breaker.initialized with
      | false =>
          refine ⟨?_, fun initialized => ?_⟩
          · rw [store_adjust_of_fresh inside spared]
            exact roomy
          · rw [same, inside] at initialized
            cases initialized
      | true =>
          have kept := (backed inside).adjust spared
          exact ⟨kept.roomy, fun _ => kept⟩
  | begun now fresh =>
      have kept := init_backed fresh roomy now
      exact ⟨kept.roomy, fun _ => kept⟩
  | ended session => exact ⟨roomy, fun initialized => nomatch initialized⟩
  | course session action now events =>
      obtain ⟨store, configuration, _⟩ := configuration_course events session
      have kept := (backed session.initialized).congr store configuration
      exact ⟨kept.roomy, fun _ => kept⟩

/-- Through any number of sessions, the store holds the configuration in force as it is stored. -/
theorem backed_history {breaker : Breaker σ ζ μ (FramedStore ρ)}
    (fresh : breaker.initialized = false) (roomy : breaker.store.Roomy)
    (steps : List (Step σ ζ μ (FramedStore ρ))) (spared : ∀ step ∈ steps, step.SparesStore) :
    (breaker.history steps).store.Roomy ∧
      ((breaker.history steps).initialized = true → (breaker.history steps).Backed) := by
  induction steps using List.reverseRecOn with
  | nil =>
      refine ⟨roomy, fun initialized => ?_⟩
      rw [show (breaker.history []).initialized = false from fresh] at initialized
      cases initialized
  | append_singleton steps step ih =>
      obtain ⟨room, backed⟩ := ih fun step member => spared step (List.mem_append_left _ member)
      rw [history_concat]
      exact backed_step (inSession_history fresh steps) room backed
        (spared step (List.mem_append_right _ (List.mem_singleton_self step)))

end Sessions

/-!
## The recovery in force
-/

section Recovery

variable [SwitchDriver σ] [Mains ζ] [RecordStore κ]

/-- A session starts with valid settings of the recovery, whatever the store holds. -/
theorem recovery_init {breaker : Breaker σ ζ μ κ} (fresh : breaker.initialized = false)
    (now : Nat) :
    (breaker.init now).lifecycle.recovery.Valid ∧
      (breaker.init now).lifecycle.recovery.Storable := by
  have notYet : ¬ breaker.initialized = true := by simp [fresh]
  have begun : ∃ before : Breaker σ ζ μ κ, (breaker.init now).lifecycle.recovery =
      (before.restoreOrDefault RecoverySettings now).1 := by
    unfold init
    rw [if_neg notYet]
    exact ⟨_, rfl⟩
  obtain ⟨before, same⟩ := begun
  rw [same, restoreOrDefault]
  split
  · next settings restored => exact accepted_of_restore restored
  · exact LawfulRecord.initial (α := RecoverySettings)

variable [Meter μ]

/-- What holds of every recovery that may come from a record and of every one that callers set
holds of the one in force. -/
theorem recovery_history {Property : RecoverySettings → Prop}
    (stored : ∀ settings, settings.Valid → settings.Storable → Property settings)
    {breaker : Breaker σ ζ μ κ} (fresh : breaker.initialized = false)
    (steps : List (Step σ ζ μ κ))
    (given : ∀ settings, .act (.adjust (.recovery settings)) ∈ steps → settings.Valid →
      Property settings)
    (inside : (breaker.history steps).initialized = true) :
    Property (breaker.history steps).lifecycle.recovery := by
  induction steps using List.reverseRecOn with
  | nil => cases fresh.symm.trans inside
  | append_singleton steps step ih =>
      have held := ih fun settings member => given settings (List.mem_append_left _ member)
      rw [history_concat] at inside ⊢
      have taken := step_taken (inSession_history fresh steps) step
      generalize breaker.history steps = before at held taken inside ⊢
      generalize before.applied step = trail at taken
      generalize stepped : before.step step = after at inside taken ⊢
      cases taken with
      | idle step => exact held inside
      | adjust adjustment =>
          rw [(adjust_adjusted adjustment before).initialized] at inside
          rcases lifecycle_adjust adjustment before with same | ⟨settings, rfl, configured⟩ |
            ⟨settings, _, configured⟩
          · rw [same]
            exact held inside
          · obtain ⟨valid, recovery, _⟩ := Lifecycle.configure_spec configured
            rw [recovery]
            exact given settings (List.mem_append_right _ (List.mem_singleton_self _)) valid
          · rw [(Lifecycle.configureModulation_spec configured).1]
            exact held inside
      | begun now outside =>
          obtain ⟨valid, storable⟩ := recovery_init outside now
          exact stored _ valid storable
      | ended session => cases inside
      | course session action now events =>
          obtain ⟨_, configuration, initialized⟩ := configuration_course events session
          have same : after.lifecycle.recovery = before.lifecycle.recovery :=
            congrArg Configuration.recovery configuration
          rw [same]
          exact held session.initialized

end Recovery

/-!
## Restarts
-/

section Restarts

variable [SwitchDriver σ] [Mains ζ] [Meter μ]

def restarted [RecordStore κ] (breaker : Breaker σ ζ μ κ) (now : Nat) : Breaker σ ζ μ κ :=
  (breaker.step .shutdown).init now

private theorem restarted_of_backed {breaker : Breaker σ ζ μ (FramedStore ρ)}
    (session : breaker.InSession) (backed : breaker.Backed) (now : Nat) :
    (breaker.step .shutdown).RestoresAll now ∧
      (breaker.restarted now).configuration = breaker.configuration.stored := by
  have outside : breaker.ended.initialized = false := rfl
  rw [restarted, session.step_shutdown]
  obtain ⟨configuration, restores⟩ := init_of_holds outside backed.holds now
  exact ⟨restores, configuration⟩

omit [LawfulStorage ρ] in
private theorem history_of_run (breaker : Breaker σ ζ μ (FramedStore ρ)) (now : Nat)
    (actions : List (Action σ ζ μ (FramedStore ρ))) :
    breaker.history (.init now :: actions.map .act) = (breaker.init now).run actions := by
  rw [← history_act]
  rfl

private theorem backed_run {breaker : Breaker σ ζ μ (FramedStore ρ)}
    (fresh : breaker.initialized = false) (roomy : breaker.store.Roomy) (now : Nat)
    {actions : List (Action σ ζ μ (FramedStore ρ))}
    (spared : ∀ adjustment, .adjust adjustment ∈ actions → adjustment.SparesStore) :
    ((breaker.init now).run actions).InSession ∧ ((breaker.init now).run actions).Backed := by
  have sparing : ∀ step ∈ Step.init now :: actions.map .act, step.SparesStore := by
    intro step member
    rcases List.mem_cons.mp member with rfl | member
    · trivial
    · obtain ⟨action, among, rfl⟩ := List.mem_map.mp member
      cases action with
      | adjust adjustment => exact spared adjustment among
      | _ => trivial
  have inside := (init_of_fresh fresh now).1.run actions
  have backed := (backed_history fresh roomy _ sparing).2
  rw [history_of_run] at backed
  exact ⟨inside, backed inside.initialized⟩

/-- What a session that begins at an instant makes of the store, and what of it is left after the
session. -/
structure Heals (breaker : Breaker σ ζ μ (FramedStore ρ)) (now : Nat) : Prop where
  /-- Every record holds the settings that the session starts with. -/
  holds : (breaker.init now).store.Holds (breaker.init now).configuration
  bounded : ∀ actions, ((breaker.init now).run actions).configuration.Bounded
  /-- The next session restores every record. -/
  restores : ∀ actions, (∀ adjustment, .adjust adjustment ∈ actions → adjustment.SparesStore) →
    ∀ later, (((breaker.init now).run actions).step .shutdown).RestoresAll later
  restarts : ∀ actions, (∀ adjustment, .adjust adjustment ∈ actions → adjustment.SparesStore) →
    ∀ later, (((breaker.init now).run actions).restarted later).configuration =
      ((breaker.init now).run actions).configuration.stored
  same_iff : ∀ actions, (∀ adjustment, .adjust adjustment ∈ actions → adjustment.SparesStore) →
    ∀ later, (((breaker.init now).run actions).restarted later).configuration =
        ((breaker.init now).run actions).configuration ↔
      ((breaker.init now).run actions).lifecycle.recovery.Whole ∧
        ((breaker.init now).run actions).lifecycle.recovery.delay ≤ RecoverySettings.maxStoredDelay

/-- Over working storage with room, whatever its bytes, a session starts with the records of the
store in force, and its settings stay in their bounds. A restart then restores every record. The
configuration comes back as it is stored, and so unchanged exactly if a record can hold the recovery
in force. -/
theorem self_healing {breaker : Breaker σ ζ μ (FramedStore ρ)} (fresh : breaker.initialized = false)
    (roomy : breaker.store.Roomy) (now : Nat) : breaker.Heals now := by
  have session := (init_of_fresh fresh now).1
  have restarts (actions : List (Action σ ζ μ (FramedStore ρ)))
      (spared : ∀ adjustment, .adjust adjustment ∈ actions → adjustment.SparesStore)
      (later : Nat) :=
    restarted_of_backed (backed_run fresh roomy now spared).1 (backed_run fresh roomy now spared).2
      later
  refine ⟨?_, fun actions => ?_, ?_, ?_, fun actions spared later => ?_⟩
  · have held := (init_backed fresh roomy now).holds
    rw [Configuration.stored_of_storable (recovery_init fresh now).2] at held
    exact held
  · refine ⟨Curve.size_le _, Curve.monotone _, ?_⟩
    have inside := (session.run actions).initialized
    rw [← history_of_run] at inside ⊢
    exact recovery_history (fun _ valid _ => valid) fresh _ (fun _ _ valid => valid) inside
  · exact fun actions spared later => (restarts actions spared later).1
  · exact fun actions spared later => (restarts actions spared later).2
  · rw [(restarts actions spared later).2, ← RecoverySettings.storable_iff]
    constructor
    · exact congrArg Configuration.recovery
    · intro storable
      refine Configuration.stored_of_storable ?_
      exact storable

open Bench

/-- Memory without a curve, with a reset timeout of zero, and with half a record of the modulation,
the latter two under valid checksums. -/
def hostileMemory : FaultyMemory where
  bytes :=
    List.replicate 160 0xff ++ Frame.encode (RecoverySettings.encode { resetTimeout := 0 }) ++
      List.replicate 14 0 ++ Frame.encode [3] ++ [0]
  capacity := 200

/-- A breaker over such memory. -/
def hostile : BenchBreaker := .ofParts .micros {} {} {} { storage := hostileMemory }

private theorem hostile_roomy : hostile.store.Roomy :=
  ⟨⟨by decide +kernel, by decide +kernel, by decide +kernel⟩, by decide +kernel, by decide +kernel⟩

/-- The breaker gets the initial settings, and keeps a new curve through a restart. -/
theorem self_healing_hostile :
    (hostile.init 0).configuration = ⟨{}, {}, {}⟩ ∧
      (hostile.init 0).store.Holds (hostile.init 0).configuration ∧
      (((hostile.init 0).run [.adjust (.points [⟨2000, 900⟩, ⟨8000, 100⟩])]).restarted
        500000).configuration =
        ((hostile.init 0).run [.adjust (.points [⟨2000, 900⟩, ⟨8000, 100⟩])]).configuration := by
  have fresh : hostile.initialized = false := rfl
  have roomy := hostile_roomy
  have heals := self_healing fresh roomy 0
  refine ⟨by decide +kernel, heals.holds, (heals.same_iff _ ?_ 500000).mpr (by decide +kernel)⟩
  intro adjustment member
  rw [List.mem_singleton] at member
  cases member
  trivial

/-- The bench breaker over erased memory that works. -/
def blank : BenchBreaker := .ofParts .micros {} {} {} { storage := .erased 200 200 }

private theorem blank_roomy : blank.store.Roomy :=
  ⟨⟨by decide +kernel, by decide +kernel, by decide +kernel⟩, by decide +kernel, by decide +kernel⟩

/-- A recovery delay in milliseconds, as the console sets it. -/
def delaySet (milliseconds : UInt32) : BenchAction :=
  .adjust (.recovery (RecoveryArguments.applyTo
    { enabled := true, attempts := 1, delay := milliseconds, reset := 60000 } {}))

private theorem delay_restarted {before : BenchBreaker} (inside : before.InSession)
    (backed : before.Backed) :
    (before.restarted 500000).lifecycle.recovery.delay =
      before.lifecycle.recovery.stored.delay :=
  congrArg (fun settings => settings.recovery.delay) (restarted_of_backed inside backed 500000).2

/-- A delay of 5000 seconds is accepted, and after a restart it is one of about 4295 seconds. -/
theorem restart_cuts_delay :
    ((blank.init 0).run [delaySet 5000000]).lifecycle.recovery.delay = Duration.ofSeconds 5000 ∧
      (((blank.init 0).run [delaySet 5000000]).restarted 500000).lifecycle.recovery.delay =
        Duration.ofMicros 4294967295 := by
  have spared : ∀ adjustment, .adjust adjustment ∈ [delaySet 5000000] →
      adjustment.SparesStore := by
    intro adjustment member
    rw [List.mem_singleton] at member
    cases member
    trivial
  obtain ⟨inside, backed⟩ :=
    backed_run (show blank.initialized = false from rfl) blank_roomy 0 spared
  have set : ((blank.init 0).run [delaySet 5000000]).lifecycle.recovery.delay =
      Duration.ofSeconds 5000 := by decide +kernel
  refine ⟨set, ?_⟩
  rw [delay_restarted inside backed, RecoverySettings.stored, set]
  decide +kernel

/-!
## Reboots
-/

omit [Meter μ] in
/-- What a new breaker finds in the store of one whose recovery times are in the units of a
record. -/
theorem init_rebooted {before fresh : Breaker σ ζ μ (FramedStore ρ)} (backed : before.Backed)
    (whole : before.lifecycle.recovery.Whole) (new : fresh.initialized = false)
    (rebooted : fresh.store = before.store) (now : Nat) :
    fresh.RestoresAll now ∧
      (fresh.init now).configuration =
        { before.configuration with
          recovery := { before.lifecycle.recovery with
            delay := min before.lifecycle.recovery.delay RecoverySettings.maxStoredDelay } } := by
  have holds := backed.holds
  rw [← rebooted] at holds
  obtain ⟨configuration, restores⟩ := init_of_holds new holds now
  refine ⟨restores, ?_⟩
  rw [configuration, Configuration.stored, show before.configuration.recovery.stored = _ from
    whole.stored_eq]

/-- A reboot after any sessions over working storage with room, with recovery times in the units of
a record, as console arguments make them: every record restores, and the configuration is the one
that was in force, except that a recovery delay which no record can hold is cut to the longest one.
So it survives exactly if there is no such delay. -/
theorem survives_reboot_iff {first before fresh : Breaker σ ζ μ (FramedStore ρ)}
    (uninitialized : first.initialized = false) (roomy : first.store.Roomy)
    (steps : List (Step σ ζ μ (FramedStore ρ))) (reached : first.history steps = before)
    (spared : ∀ step ∈ steps, step.SparesStore)
    (whole : ∀ settings, .act (.adjust (.recovery settings)) ∈ steps → settings.Whole)
    (inside : before.initialized = true) (new : fresh.initialized = false)
    (rebooted : fresh.store = before.store) (now : Nat) :
    fresh.RestoresAll now ∧
      (fresh.init now).configuration =
        { before.configuration with
          recovery := { before.lifecycle.recovery with
            delay := min before.lifecycle.recovery.delay RecoverySettings.maxStoredDelay } } ∧
      ((fresh.init now).configuration = before.configuration ↔
        before.lifecycle.recovery.delay ≤ RecoverySettings.maxStoredDelay) := by
  subst reached
  have backed := (backed_history uninitialized roomy steps spared).2 inside
  have unit := recovery_history (fun _ _ storable => storable.whole) uninitialized steps
    (fun settings member _ => whole settings member) inside
  obtain ⟨restores, configuration⟩ := init_rebooted backed unit new rebooted now
  refine ⟨restores, configuration, ?_⟩
  rw [configuration]
  constructor
  · intro same
    have delay := congrArg (fun settings => settings.recovery.delay) same
    exact Nat.le_trans (Nat.le_of_eq delay.symm) (Nat.min_le_right _ _)
  · intro short
    rw [Nat.min_eq_left short]
    rfl

/-- A session in which the console sets a recovery delay in milliseconds. -/
def delayed (milliseconds : UInt32) : List BenchStep :=
  session [delaySet milliseconds]

private theorem spared_delayed (milliseconds : UInt32) :
    ∀ step ∈ delayed milliseconds, step.SparesStore := by
  intro step member
  simp only [delayed, delaySet, session, List.map_cons, List.map_nil, List.mem_cons,
    List.not_mem_nil, or_false] at member
  rcases member with rfl | rfl <;> trivial

private theorem whole_delayed (milliseconds : UInt32) (settings : RecoverySettings)
    (member : .act (.adjust (.recovery settings)) ∈ delayed milliseconds) : settings.Whole := by
  simp only [delayed, delaySet, session, List.map_cons, List.map_nil, List.mem_cons,
    List.not_mem_nil, or_false, reduceCtorEq, false_or, Step.act.injEq, Action.adjust.injEq,
    Adjustment.recovery.injEq] at member
  rw [member]
  exact RecoverySettings.whole_applyTo _ _

def rebooted (before : BenchBreaker) : BenchBreaker := .ofParts .micros {} {} {} before.store

/-- A delay of a quarter of a second survives. -/
theorem survives_reboot_short :
    (blank.history (delayed 250)).lifecycle.recovery.delay = Duration.ofMillis 250 ∧
      ((rebooted (blank.history (delayed 250))).init 500000).configuration =
        (blank.history (delayed 250)).configuration := by
  have inside : (blank.history (delayed 250)).initialized = true := by decide +kernel
  have set : (blank.history (delayed 250)).lifecycle.recovery.delay = Duration.ofMillis 250 := by
    decide +kernel
  have spared := spared_delayed 250
  have whole := whole_delayed 250
  refine ⟨set, ?_⟩
  generalize reached : blank.history (delayed 250) = before at inside set ⊢
  have new : (rebooted before).initialized = false := rfl
  have same : (rebooted before).store = before.store := rfl
  refine (survives_reboot_iff rfl blank_roomy (delayed 250) reached spared whole inside new same
    500000).2.2.mpr ?_
  rw [set]
  decide +kernel

private theorem delay_rebooted {before : BenchBreaker} (backed : before.Backed)
    (whole : before.lifecycle.recovery.Whole) :
    ((rebooted before).init 500000).lifecycle.recovery.delay =
      min before.lifecycle.recovery.delay RecoverySettings.maxStoredDelay := by
  have new : (rebooted before).initialized = false := rfl
  have same : (rebooted before).store = before.store := rfl
  obtain ⟨_, configuration⟩ := init_rebooted backed whole new same 500000
  exact congrArg (fun settings => settings.recovery.delay) configuration

/-- A delay of 5000 seconds is accepted and comes back as about 4295 seconds. -/
theorem delay_cut_by_reboot :
    (blank.history (delayed 5000000)).lifecycle.recovery.delay = Duration.ofSeconds 5000 ∧
      ((rebooted (blank.history (delayed 5000000))).init 500000).lifecycle.recovery.delay =
        Duration.ofMicros 4294967295 := by
  have fresh : blank.initialized = false := rfl
  have inside : (blank.history (delayed 5000000)).initialized = true := by decide +kernel
  have set : (blank.history (delayed 5000000)).lifecycle.recovery.delay =
      Duration.ofSeconds 5000 := by decide +kernel
  have backed := (backed_history fresh blank_roomy _ (spared_delayed 5000000)).2 inside
  have whole : (blank.history (delayed 5000000)).lifecycle.recovery.Whole :=
    recovery_history (fun _ _ storable => storable.whole) fresh _
      (fun settings member _ => whole_delayed 5000000 settings member) inside
  refine ⟨set, ?_⟩
  rw [delay_rebooted backed whole, set]
  decide +kernel

end Restarts

end Breaker

end CircuitBreaker
