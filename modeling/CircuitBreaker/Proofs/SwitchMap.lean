import CircuitBreaker.Breaker

/-!
# Maps between switch drivers

A map that commutes with the calls of the drivers commutes with everything that a
breaker does in a session. What a driver keeps beside its switch is then of no
consequence for the breaker.
-/

set_option autoImplicit false

namespace CircuitBreaker

variable {τ σ ζ μ κ : Type}

/-- A map between drivers that every call of a session commutes with. -/
structure SwitchMap [SwitchDriver τ] [SwitchDriver σ] (forget : τ → σ) : Prop where
  turnOn : ∀ switch, SwitchDriver.turnOn (forget switch) =
    Prod.map id forget (SwitchDriver.turnOn switch)
  turnOff : ∀ switch, SwitchDriver.turnOff (forget switch) = forget (SwitchDriver.turnOff switch)
  isOn : ∀ switch, SwitchDriver.isOn (forget switch) = SwitchDriver.isOn switch
  cause : ∀ switch, SwitchDriver.cause (forget switch) = SwitchDriver.cause switch
  setLimit : ∀ switch limit, SwitchDriver.setLimit (forget switch) limit =
    (SwitchDriver.setLimit switch limit).map forget

/-- The same breaker over the image of its switch. -/
def Breaker.mapSwitch (forget : τ → σ) (breaker : Breaker τ ζ μ κ) : Breaker σ ζ μ κ where
  clock := breaker.clock
  switch := forget breaker.switch
  mains := breaker.mains
  meter := breaker.meter
  store := breaker.store
  curve := breaker.curve
  lifecycle := breaker.lifecycle
  monitor := breaker.monitor
  log := breaker.log
  observed := breaker.observed
  pending := breaker.pending
  lastSeen := breaker.lastSeen
  initialized := breaker.initialized

namespace Breaker

/-!
## Calls that pass the switch by
-/

section Plain

variable {forget : τ → σ}

/-- Calls one after the other commute with a map if each of them does. -/
private theorem bind_mapSwitch {ε : Type} {result : Except ε (Breaker τ ζ μ κ)}
    {image : Except ε (Breaker σ ζ μ κ)} {next : Breaker τ ζ μ κ → Except ε (Breaker τ ζ μ κ)}
    {mapped : Breaker σ ζ μ κ → Except ε (Breaker σ ζ μ κ)}
    (same : image = result.map (mapSwitch forget))
    (commutes : ∀ breaker, mapped (breaker.mapSwitch forget) =
      (next breaker).map (mapSwitch forget)) :
    (image >>= mapped) = (result >>= next).map (mapSwitch forget) := by
  rw [same]
  cases result with
  | error error => rfl
  | ok breaker => exact commutes breaker

private theorem ensureInitialized_mapSwitch (breaker : Breaker τ ζ μ κ) :
    (breaker.mapSwitch forget).ensureInitialized =
      breaker.ensureInitialized.map (mapSwitch forget) := by
  cases known : breaker.initialized <;>
    simp [ensureInitialized, mapSwitch, known, Except.map]

variable (breaker : Breaker τ ζ μ κ)

theorem setObserved_mapSwitch (observed : Bool) :
    (breaker.mapSwitch forget).setObserved observed =
      (breaker.setObserved observed).map (mapSwitch forget) :=
  bind_mapSwitch (ensureInitialized_mapSwitch breaker) fun _ => rfl

variable [RecordStore κ]

private theorem persist_mapSwitch {α : Type} [Record α] (settings : α) :
    (breaker.mapSwitch forget).persist settings =
      (breaker.persist settings).mapSwitch forget := by
  unfold persist
  rw [show (breaker.mapSwitch forget).store = breaker.store from rfl]
  cases CircuitBreaker.persist breaker.store settings with
  | ok store => rfl
  | error error =>
      dsimp only
      rw [show (breaker.mapSwitch forget).lastSeen = breaker.lastSeen from rfl]
      cases breaker.lastSeen <;> rfl

theorem setPoints_mapSwitch (points : List CurvePoint) :
    (breaker.mapSwitch forget).setPoints points =
      (breaker.setPoints points).map (mapSwitch forget) := by
  refine bind_mapSwitch (ensureInitialized_mapSwitch breaker) fun breaker => ?_
  cases Curve.ofPoints? points with
  | error error => rfl
  | ok curve =>
      exact congrArg Except.ok (persist_mapSwitch
        { breaker with
          curve := { breaker.curve with curve }
          monitor := breaker.monitor.reset } _)

theorem setRecovery_mapSwitch (settings : RecoverySettings) :
    (breaker.mapSwitch forget).setRecovery settings =
      (breaker.setRecovery settings).map (mapSwitch forget) := by
  refine bind_mapSwitch (ensureInitialized_mapSwitch breaker) fun breaker => ?_
  rw [show (breaker.mapSwitch forget).lifecycle = breaker.lifecycle from rfl]
  cases breaker.lifecycle.configure settings with
  | error error => rfl
  | ok lifecycle => exact congrArg Except.ok (persist_mapSwitch { breaker with lifecycle } _)

theorem setModulation_mapSwitch (settings : ModulationSettings) :
    (breaker.mapSwitch forget).setModulation settings =
      (breaker.setModulation settings).map (mapSwitch forget) := by
  refine bind_mapSwitch (ensureInitialized_mapSwitch breaker) fun breaker => ?_
  rw [show (breaker.mapSwitch forget).lifecycle = breaker.lifecycle from rfl]
  cases breaker.lifecycle.configureModulation settings with
  | error error => rfl
  | ok lifecycle => exact congrArg Except.ok (persist_mapSwitch { breaker with lifecycle } _)

end Plain

end Breaker

/-!
## Calls that reach the switch
-/

namespace SwitchMap

variable [SwitchDriver τ] [SwitchDriver σ] {forget : τ → σ} (map : SwitchMap forget)
include map

section Events

variable (machine : Lifecycle) (clock : Clock) (event : Event) (switch : τ) (now : Nat)

theorem reclose :
    machine.reclose (forget switch) = Prod.map id forget (machine.reclose switch) := by
  unfold Lifecycle.reclose
  rw [map.turnOn]
  rcases SwitchDriver.turnOn switch with ⟨refusal | _, answered⟩ <;> rfl

theorem classifySupply :
    machine.classifySupply (forget switch) =
      Prod.map id forget (machine.classifySupply switch) := by
  unfold Lifecycle.classifySupply
  dsimp only
  split
  · rfl
  · exact map.reclose _ switch

theorem releaseSwitch :
    machine.releaseSwitch (forget switch) =
      Prod.map id forget (machine.releaseSwitch switch) := by
  unfold Lifecycle.releaseSwitch
  rw [map.isOn, map.turnOff]
  split
  · split <;> rfl
  · rfl

theorem handleOpening :
    machine.handleOpening clock (forget switch) now = machine.handleOpening clock switch now := by
  unfold Lifecycle.handleOpening
  rw [map.cause]

theorem modulation (modulation : Modulation) :
    modulation.handle event (forget switch) =
      Prod.map id forget (modulation.handle event switch) := by
  unfold Modulation.handle
  split
  · rfl
  · unfold Modulation.crossingWhileClosed
    rw [map.turnOff]
    dsimp only
    split <;> rfl
  · rfl
  · rfl
  · unfold Modulation.crossingWhileOpened
    rw [map.turnOn]
    dsimp only
    split <;> rfl
  · rfl
  · rfl

theorem leaveMode :
    machine.leaveMode (forget switch) = Prod.map id forget (machine.leaveMode switch) := by
  unfold Lifecycle.leaveMode
  dsimp only
  rw [map.isOn]
  split
  · rfl
  · split
    · rfl
    · exact map.reclose _ switch

theorem modeEvent :
    machine.modeEvent event (forget switch) =
      Prod.map id forget (machine.modeEvent event switch) := by
  unfold Lifecycle.modeEvent
  split
  · rfl
  · split
    · exact map.leaveMode _ switch
    · split
      · rw [map.modulation]
        rfl
      · rfl

theorem closedTransition :
    machine.closedTransition clock event (forget switch) now =
      Prod.map id forget (machine.closedTransition clock event switch now) := by
  cases event with
  | openCommand => exact map.releaseSwitch _ switch
  | overCurrentDuration => exact map.releaseSwitch _ switch
  | switchOpened => simp [Lifecycle.closedTransition, map.handleOpening]
  | _ => rfl

theorem transition :
    machine.transition clock event (forget switch) now =
      Prod.map id forget (machine.transition clock event switch now) := by
  unfold Lifecycle.transition
  cases machine.phase with
  | undefined => rfl
  | opened => cases event <;> rfl
  | supplyWait =>
      cases event with
      | supplyTimerExpired => exact map.classifySupply machine switch
      | _ => rfl
  | closeWait =>
      cases event with
      | openCommand => exact map.releaseSwitch _ switch
      | recoveryTimerExpired => exact map.reclose _ switch
      | zeroCrossing => exact map.reclose _ switch
      | _ => rfl
  | closed =>
      dsimp only
      rw [map.closedTransition]
      exact map.modeEvent _ _ _
  | openWait =>
      cases event with
      | zeroCrossing => simp [map.turnOff]
      | _ => rfl

theorem handle :
    machine.handle clock event (forget switch) now =
      (machine.handle clock event switch now).map (Prod.map id forget) := by
  unfold Lifecycle.handle
  split
  · rfl
  · split
    · rfl
    · rw [map.transition]
      rfl

end Events

section Calls

variable (breaker before after : Breaker τ ζ μ κ) (event : Event) (now : Nat)

theorem cause_mapSwitch : (breaker.mapSwitch forget).cause = breaker.cause := by
  unfold Breaker.cause
  simp only [Breaker.mapSwitch, map.cause]

theorem recordChanges :
    Breaker.recordChanges (before.mapSwitch forget) (after.mapSwitch forget) now =
      (Breaker.recordChanges before after now).mapSwitch forget := by
  have kept (breaker : Breaker τ ζ μ κ) :
      (breaker.mapSwitch forget).lifecycle = breaker.lifecycle := rfl
  have recorded (breaker : Breaker τ ζ μ κ) (event : LogEvent) :
      (breaker.mapSwitch forget).record event now =
        (breaker.record event now).mapSwitch forget := rfl
  unfold Breaker.recordChanges
  simp only [kept, recorded, ← apply_ite (Breaker.mapSwitch forget)]
  split
  · rfl
  · rw [← map.cause_mapSwitch]
    rfl

theorem apply :
    (breaker.mapSwitch forget).apply event now =
      (breaker.apply event now).map (Breaker.mapSwitch forget) := by
  unfold Breaker.apply
  refine Breaker.bind_mapSwitch (Breaker.ensureInitialized_mapSwitch breaker) fun breaker => ?_
  dsimp only [Breaker.mapSwitch]
  rw [map.handle]
  cases breaker.lifecycle.handle breaker.clock event breaker.switch now with
  | error error => rfl
  | ok answer =>
      exact congrArg Except.ok (map.recordChanges { breaker with lastSeen := some now }
        { breaker with lastSeen := some now, lifecycle := answer.1, switch := answer.2 } now)

theorem requestClose :
    (breaker.mapSwitch forget).requestClose now =
      (breaker.requestClose now).map (Breaker.mapSwitch forget) := by
  unfold Breaker.requestClose
  refine Breaker.bind_mapSwitch (Breaker.ensureInitialized_mapSwitch breaker) fun breaker => ?_
  rw [show (breaker.mapSwitch forget).lifecycle = breaker.lifecycle from rfl]
  split
  · rfl
  · exact Breaker.bind_mapSwitch
      (map.apply { breaker with monitor := breaker.monitor.reset } .closeCommand now)
      fun breaker => rfl

theorem requestOpen :
    (breaker.mapSwitch forget).requestOpen now =
      (breaker.requestOpen now).map (Breaker.mapSwitch forget) := by
  exact Breaker.bind_mapSwitch (map.apply breaker .openCommand now) fun breaker => rfl

theorem handleInput (input : Input) :
    (breaker.mapSwitch forget).handleInput input now =
      (breaker.handleInput input now).map (Breaker.mapSwitch forget) := by
  cases input with
  | switchChanged closed => cases closed <;> exact map.apply breaker _ now
  | zeroCrossing => exact map.apply breaker _ now
  | openRequest => exact map.requestOpen breaker now
  | closeRequest => exact map.requestClose breaker now

theorem fireTimers (rounds : Nat) :
    (breaker.mapSwitch forget).fireTimers now rounds =
      (breaker.fireTimers now rounds).map (Breaker.mapSwitch forget) := by
  induction rounds generalizing breaker with
  | zero => rfl
  | succ rounds ih =>
      unfold Breaker.fireTimers
      rw [show (breaker.mapSwitch forget).lifecycle = breaker.lifecycle from rfl]
      cases breaker.lifecycle.takeExpired now with
      | mk expired lifecycle =>
          cases expired with
          | none => rfl
          | some event =>
              exact Breaker.bind_mapSwitch (map.apply { breaker with lifecycle } event now) ih

theorem runMonitor [Meter μ] :
    (breaker.mapSwitch forget).runMonitor now =
      (breaker.runMonitor now).map (Breaker.mapSwitch forget) := by
  have ticks : (breaker.mapSwitch forget).monitor.runDue (breaker.mapSwitch forget).clock now
      (Meter.current (breaker.mapSwitch forget).meter)
      (breaker.mapSwitch forget).curve.curve.points
      ((breaker.mapSwitch forget).lifecycle.phase = .closed) =
      breaker.monitor.runDue breaker.clock now (Meter.current breaker.meter)
        breaker.curve.curve.points (breaker.lifecycle.phase = .closed) := rfl
  unfold Breaker.runMonitor
  rw [ticks]
  cases breaker.monitor.runDue breaker.clock now (Meter.current breaker.meter)
    breaker.curve.curve.points (breaker.lifecycle.phase = .closed) with
  | mk found monitor =>
      cases found with
      | none => rfl
      | some point => exact map.apply { breaker with monitor } .overCurrentDuration now

theorem poll [Meter μ] :
    (breaker.mapSwitch forget).poll now =
      (breaker.poll now).map (Breaker.mapSwitch forget) := by
  unfold Breaker.poll
  refine Breaker.bind_mapSwitch (Breaker.ensureInitialized_mapSwitch breaker) fun breaker => ?_
  exact Breaker.bind_mapSwitch (map.fireTimers { breaker with lastSeen := some now } now _)
    fun breaker => map.runMonitor breaker now

theorem setHardwareLimit [RecordStore κ] (limit : UInt8) :
    (breaker.mapSwitch forget).setHardwareLimit limit =
      (breaker.setHardwareLimit limit).map (Breaker.mapSwitch forget) := by
  refine Breaker.bind_mapSwitch (Breaker.ensureInitialized_mapSwitch breaker) fun breaker => ?_
  rw [show (breaker.mapSwitch forget).switch = forget breaker.switch from rfl, map.setLimit]
  cases SwitchDriver.setLimit breaker.switch limit with
  | error error => rfl
  | ok switch =>
      exact congrArg Except.ok (Breaker.persist_mapSwitch
        { breaker with switch, curve := { breaker.curve with hardwareLimit := limit } } _)

end Calls

end SwitchMap

end CircuitBreaker
