import CircuitBreaker.Config.Settings
import CircuitBreaker.Proofs.Restart

/-!
# Refused calls

Every call of a breaker as a routine that changes the breaker and the queue where they stand, one
change after the other. What such a routine changed before it fails stays changed, so that a
refusal that leaves everything alone is a property of the routines.
-/

set_option autoImplicit false

namespace CircuitBreaker

inductive Call where
  | init (now : Nat)
  | shutdown
  | close (now : Nat)
  | open (now : Nat)
  | handleInput (input : Input) (now : Nat)
  | drain (now : Nat)
  | poll (now : Nat)
  | setHardwareLimit (limit : UInt8)
  | setPoints (points : List CurvePoint)
  | setRecovery (settings : RecoverySettings)
  | setModulation (settings : ModulationSettings)
  | setObserved (observed : Bool)
  | dispatch
  | hardwareLimit
  | points
  | pointCount
  /-- The points, as many as there is room for. -/
  | copyPoints (room : Nat)
  | recovery
  | modulation

def Call.IsEvent : Call → Prop
  | close _ | .open _ | handleInput _ _ | drain _ | poll _ => True
  | _ => False

def Call.IsSetter : Call → Prop
  | setHardwareLimit _ | setPoints _ | setRecovery _ | setModulation _ => True
  | _ => False

inductive Answer where
  | done
  | handled (count : Nat)
  | notice (notice : Option Notice)
  | limit (limit : UInt8)
  | points (points : List CurvePoint)
  | count (count : Nat)
  | recovery (settings : RecoverySettings)
  | modulation (settings : ModulationSettings)

def Breaker.answer {σ ζ μ κ : Type} [SwitchDriver σ] [Mains ζ] [Meter μ] [RecordStore κ]
    (breaker : Breaker σ ζ μ κ) (queue : InputFeed) :
    Call → Except BreakerError (Answer × Breaker σ ζ μ κ × InputFeed)
  | .init now => .ok (.done, breaker.init now, queue)
  | .shutdown => breaker.shutdown.map (.done, ·, queue)
  | .close now => (breaker.requestClose now).map (.done, ·, queue)
  | .open now => (breaker.requestOpen now).map (.done, ·, queue)
  | .handleInput input now => (breaker.handleInput input now).map (.done, ·, queue)
  | .drain now =>
      (breaker.drain queue now).map fun (count, after) =>
        (.handled count, after, { queue with inputs := [] })
  | .poll now => (breaker.poll now).map (.done, ·, queue)
  | .setHardwareLimit limit => (breaker.setHardwareLimit limit).map (.done, ·, queue)
  | .setPoints points => (breaker.setPoints points).map (.done, ·, queue)
  | .setRecovery settings => (breaker.setRecovery settings).map (.done, ·, queue)
  | .setModulation settings => (breaker.setModulation settings).map (.done, ·, queue)
  | .setObserved observed => (breaker.setObserved observed).map (.done, ·, queue)
  | .dispatch => .ok (.notice breaker.dispatchNotice.1, breaker.dispatchNotice.2, queue)
  | .hardwareLimit => breaker.hardwareLimit.map (.limit ·, breaker, queue)
  | .points => breaker.points.map (.points ·, breaker, queue)
  | .pointCount => breaker.points.map (.count ·.length, breaker, queue)
  | .copyPoints room =>
      breaker.points.map fun points => (.points (points.take room), breaker, queue)
  | .recovery => breaker.recoverySettings.map (.recovery ·, breaker, queue)
  | .modulation => breaker.modulationSettings.map (.modulation ·, breaker, queue)

/-!
## Routines
-/

/-- Work on a breaker where it stands. -/
abbrev Routine (σ ζ μ κ α : Type) := EStateM BreakerError (Breaker σ ζ μ κ) α

namespace Routine

variable {σ ζ μ κ : Type}

def demand : Routine σ ζ μ κ Unit := do
  if !(← get).initialized then throw .notSupported

section Events

variable [SwitchDriver σ]

/-- Tells the instant, then handles the event and records what it changed. -/
def apply (event : Event) (now : Nat) : Routine σ ζ μ κ Unit := do
  demand
  modify (·.told now)
  let before ← get
  match before.lifecycle.handle before.clock event before.switch now with
  | .error _ => throw .notSupported
  | .ok (lifecycle, switch) =>
      set { before with lifecycle, switch }
      modify (before.recordChanges · now)

/-- The times are cleared before the lifecycle sees the command. -/
def requestClose (now : Nat) : Routine σ ζ μ κ Unit := do
  demand
  if (← get).lifecycle.phase = .closed then return
  modify fun breaker => { breaker with monitor := breaker.monitor.reset }
  apply .closeCommand now
  modify fun breaker => { breaker with monitor := breaker.monitor.start breaker.clock now }

def requestOpen (now : Nat) : Routine σ ζ μ κ Unit := do
  demand
  apply .openCommand now
  modify fun breaker => { breaker with monitor := breaker.monitor.stop }

def handleInput (now : Nat) : Input → Routine σ ζ μ κ Unit
  | .zeroCrossing => apply .zeroCrossing now
  | .switchChanged true => apply .switchClosed now
  | .switchChanged false => apply .switchOpened now
  | .openRequest => requestOpen now
  | .closeRequest => requestClose now

/-- A timer is disarmed before its event is handled. -/
def fireTimers (now : Nat) : Nat → Routine σ ζ μ κ Unit
  | 0 => pure ()
  | rounds + 1 => do
      match (← get).lifecycle.takeExpired now with
      | (none, _) => pure ()
      | (some event, lifecycle) =>
          modify fun breaker => { breaker with lifecycle }
          apply event now
          fireTimers now rounds

/-- The times are brought up to date before the trip that they cause. -/
def runMonitor [Meter μ] (now : Nat) : Routine σ ζ μ κ Unit := do
  let (found, monitor) := (← get).dueTicks now
  modify fun breaker => { breaker with monitor }
  if found.isSome then apply .overCurrentDuration now

def poll [Meter μ] (now : Nat) : Routine σ ζ μ κ Unit := do
  demand
  modify (·.told now)
  fireTimers now TimerId.all.length
  runMonitor now

end Events

section Sessions

variable [SwitchDriver σ] [Mains ζ]

def shutdown : Routine σ ζ μ κ Unit := do
  demand
  modify fun breaker => { breaker with switch := SwitchDriver.disableEvents breaker.switch }
  modify fun breaker => { breaker with mains := Mains.disableEvents breaker.mains }
  modify fun breaker => { breaker with lifecycle := breaker.lifecycle.stop }
  modify fun breaker => { breaker with monitor := breaker.monitor.stop.reset }
  modify fun breaker => { breaker with pending := none, initialized := false }

end Sessions

section Settings

variable [RecordStore κ]

/-- The driver is asked first; what it refuses is not remembered. -/
def setHardwareLimit [SwitchDriver σ] (limit : UInt8) : Routine σ ζ μ κ Unit := do
  demand
  match SwitchDriver.setLimit (← get).switch limit with
  | .error error => throw (.hardware error)
  | .ok switch =>
      modify fun breaker => { breaker with switch }
      modify fun breaker =>
        { breaker with curve := { breaker.curve with hardwareLimit := limit } }
      modify fun breaker => breaker.persist breaker.curve

def setPoints (points : List CurvePoint) : Routine σ ζ μ κ Unit := do
  demand
  match Curve.ofPoints? points with
  | .error error => throw (.ofConfig error)
  | .ok curve =>
      modify fun breaker => { breaker with curve := { breaker.curve with curve } }
      modify fun breaker => { breaker with monitor := breaker.monitor.reset }
      modify fun breaker => breaker.persist breaker.curve

def setRecovery (settings : RecoverySettings) : Routine σ ζ μ κ Unit := do
  demand
  match (← get).lifecycle.configure settings with
  | .error error => throw (.ofConfig error)
  | .ok lifecycle =>
      modify fun breaker => { breaker with lifecycle }
      modify (·.persist settings)

def setModulation (settings : ModulationSettings) : Routine σ ζ μ κ Unit := do
  demand
  match (← get).lifecycle.configureModulation settings with
  | .error error => throw (.ofConfig error)
  | .ok lifecycle =>
      modify fun breaker => { breaker with lifecycle }
      modify (·.persist settings)

end Settings

def setObserved (observed : Bool) : Routine σ ζ μ κ Unit := do
  demand
  modify fun breaker => { breaker with observed }

def dispatch : Routine σ ζ μ κ (Option Notice) := do
  let notice := (← get).pending
  modify fun breaker => { breaker with pending := none }
  return notice

def read {α : Type} (value : Breaker σ ζ μ κ → α) : Routine σ ζ μ κ α := do
  demand
  return value (← get)

/-- Work on a breaker beside its queue. -/
def beside {α : Type} (routine : Routine σ ζ μ κ α) :
    EStateM BreakerError (Breaker σ ζ μ κ × InputFeed) α := fun (breaker, queue) =>
  match routine.run breaker with
  | .ok answer after => .ok answer (after, queue)
  | .error error after => .error error (after, queue)

end Routine

namespace Call

variable {σ ζ μ κ : Type} [SwitchDriver σ]

/-- The queue lets go of an input before that is handled. However the feed ends, the loop ends
with it. -/
def takeInputs (now : Nat) : List Input → Nat →
    EStateM BreakerError (Breaker σ ζ μ κ × InputFeed) Nat
  | [], handled => return handled
  | input :: rest, handled => do
      modify fun (breaker, queue) => (breaker, { queue with inputs := rest })
      (Routine.handleInput now input).beside
      takeInputs now rest (handled + 1)

variable [Mains ζ] [Meter μ] [RecordStore κ]

def routine : Call → EStateM BreakerError (Breaker σ ζ μ κ × InputFeed) Answer
  | .init now => do
      modify fun (breaker, queue) => (breaker.init now, queue)
      return .done
  | .shutdown => do Routine.shutdown.beside; return .done
  | .close now => do (Routine.requestClose now).beside; return .done
  | .open now => do (Routine.requestOpen now).beside; return .done
  | .handleInput input now => do (Routine.handleInput now input).beside; return .done
  | .drain now => do
      Routine.demand.beside
      let (_, queue) ← get
      return .handled (← takeInputs now queue.inputs 0)
  | .poll now => do (Routine.poll now).beside; return .done
  | .setHardwareLimit limit => do (Routine.setHardwareLimit limit).beside; return .done
  | .setPoints curve => do (Routine.setPoints curve).beside; return .done
  | .setRecovery settings => do (Routine.setRecovery settings).beside; return .done
  | .setModulation settings => do (Routine.setModulation settings).beside; return .done
  | .setObserved observed => do (Routine.setObserved observed).beside; return .done
  | .dispatch => return .notice (← Routine.dispatch.beside)
  | .hardwareLimit => return .limit (← (Routine.read (·.curve.hardwareLimit)).beside)
  | .points => return .points (← (Routine.read (·.curve.curve.points)).beside)
  | .pointCount => return .count (← (Routine.read (·.curve.curve.points)).beside).length
  | .copyPoints room =>
      return .points ((← (Routine.read (·.curve.curve.points)).beside).take room)
  | .recovery => return .recovery (← (Routine.read (·.lifecycle.recovery)).beside)
  | .modulation => return .modulation (← (Routine.read (·.lifecycle.modulation.settings)).beside)

end Call

/-!
## Routines of a breaker that knows its session
-/

namespace Routine

open Breaker

variable {σ ζ μ κ : Type}

/-- How a routine ends that leaves the breaker as it was if it is refused. -/
def ending (breaker : Breaker σ ζ μ κ) :
    Except BreakerError (Breaker σ ζ μ κ) → EStateM.Result BreakerError (Breaker σ ζ μ κ) Unit
  | .ok after => .ok () after
  | .error error => .error error breaker

def Follows (routine : Routine σ ζ μ κ Unit) (breaker : Breaker σ ζ μ κ)
    (result : Except BreakerError (Breaker σ ζ μ κ)) : Prop :=
  routine.run breaker = ending breaker result

theorem demand_of_fresh {breaker : Breaker σ ζ μ κ} (fresh : breaker.initialized = false) :
    demand.run breaker = .error .notSupported breaker := by
  simp [demand, fresh]

theorem demand_of_initialized {breaker : Breaker σ ζ μ κ} (inside : breaker.initialized = true) :
    demand.run breaker = .ok () breaker := by
  simp [demand, inside]

/-- A routine that asks first whether the breaker is initialized does nothing to one that is not. -/
theorem demand_bind_of_fresh {α : Type} {breaker : Breaker σ ζ μ κ}
    (fresh : breaker.initialized = false) (routine : Routine σ ζ μ κ α) :
    (demand >>= fun _ => routine).run breaker = .error .notSupported breaker := by
  rw [EStateM.run_bind, demand_of_fresh fresh]

theorem demand_bind_of_initialized {α : Type} {breaker : Breaker σ ζ μ κ}
    (inside : breaker.initialized = true) (routine : Routine σ ζ μ κ α) :
    (demand >>= fun _ => routine).run breaker = routine.run breaker := by
  rw [EStateM.run_bind, demand_of_initialized inside]

theorem follows_of_fresh {breaker : Breaker σ ζ μ κ} (fresh : breaker.initialized = false)
    (routine : Routine σ ζ μ κ Unit)
    (result : Breaker σ ζ μ κ → Except BreakerError (Breaker σ ζ μ κ)) :
    Follows (demand >>= fun _ => routine) breaker (breaker.ensureInitialized >>= result) := by
  have refused : breaker.ensureInitialized = .error .notSupported := by
    simp [Breaker.ensureInitialized, fresh]
  rw [Follows, demand_bind_of_fresh fresh, refused]
  rfl

theorem follows_of_initialized {breaker : Breaker σ ζ μ κ} (inside : breaker.initialized = true)
    {routine : Routine σ ζ μ κ Unit}
    {result : Breaker σ ζ μ κ → Except BreakerError (Breaker σ ζ μ κ)}
    (follows : Follows routine breaker (result breaker)) :
    Follows (demand >>= fun _ => routine) breaker (breaker.ensureInitialized >>= result) := by
  have accepted : breaker.ensureInitialized = .ok breaker := by
    simp [Breaker.ensureInitialized, inside]
  rw [Follows, demand_bind_of_initialized inside, accepted]
  exact follows

theorem follows_demand {breaker : Breaker σ ζ μ κ}
    {routine : Routine σ ζ μ κ Unit}
    {result : Breaker σ ζ μ κ → Except BreakerError (Breaker σ ζ μ κ)}
    (follows : breaker.initialized = true → Follows routine breaker (result breaker)) :
    Follows (demand >>= fun _ => routine) breaker (breaker.ensureInitialized >>= result) := by
  cases inside : breaker.initialized with
  | false => exact follows_of_fresh inside routine result
  | true => exact follows_of_initialized inside (follows inside)

section Events

variable [SwitchDriver σ] {breaker : Breaker σ ζ μ κ}

theorem apply_run (session : breaker.InSession) (event : Event) (now : Nat) :
    ∃ after, breaker.apply event now = .ok after ∧
      (apply event now).run breaker = .ok () after := by
  refine ⟨_, session.apply_eq event now, ?_⟩
  have handled := session.ready.handle_eq_respond breaker.clock event breaker.switch now
  rw [apply, demand_bind_of_initialized session.initialized]
  simp only [EStateM.run_bind, EStateM.run_modify, EStateM.run_get, Breaker.told, handled,
    EStateM.run_set]

variable (known : breaker.initialized = true → breaker.InSession)
include known

theorem apply_follows (event : Event) (now : Nat) :
    Follows (apply event now) breaker (breaker.apply event now) := by
  cases inside : breaker.initialized with
  | false => exact follows_of_fresh inside _ _
  | true =>
      obtain ⟨after, applied, ran⟩ := apply_run (known inside) event now
      rw [Follows, applied, ran, ending]

theorem requestClose_follows (now : Nat) :
    Follows (requestClose now) breaker (breaker.requestClose now) := by
  refine follows_demand fun inside => ?_
  have session := known inside
  by_cases closed : breaker.lifecycle.phase = .closed
  · simp [Follows, closed, ending]
  · have watched := session.watch breaker.monitor.reset
    obtain ⟨after, applied, ran⟩ := apply_run watched .closeCommand now
    simp only [Follows, EStateM.run_bind, EStateM.run_get, if_neg closed, EStateM.run_modify, ran]
    rw [applied]
    rfl

theorem requestOpen_follows (now : Nat) :
    Follows (requestOpen now) breaker (breaker.requestOpen now) := by
  cases inside : breaker.initialized with
  | false =>
      rw [Follows, requestOpen, demand_bind_of_fresh inside, Breaker.requestOpen,
        apply_of_fresh inside]
      rfl
  | true =>
      obtain ⟨after, applied, ran⟩ := apply_run (known inside) .openCommand now
      rw [Follows, requestOpen, demand_bind_of_initialized inside, EStateM.run_bind, ran,
        Breaker.requestOpen, applied]
      rfl

theorem handleInput_follows (input : Input) (now : Nat) :
    Follows (handleInput now input) breaker (breaker.handleInput input now) := by
  cases input with
  | zeroCrossing => exact apply_follows known .zeroCrossing now
  | switchChanged closed =>
      cases closed with
      | false => exact apply_follows known .switchOpened now
      | true => exact apply_follows known .switchClosed now
  | openRequest => exact requestOpen_follows known now
  | closeRequest => exact requestClose_follows known now

omit known in
theorem fireTimers_run (session : breaker.InSession) (now rounds : Nat) :
    ∃ fired, breaker.fireTimers now rounds = .ok fired ∧ fired.InSession ∧
      (fireTimers now rounds).run breaker = .ok () fired := by
  induction rounds generalizing breaker with
  | zero => exact ⟨breaker, rfl, session, rfl⟩
  | succ rounds ih =>
      cases due : breaker.lifecycle.timers.firstDue now with
      | none =>
          have expired := takeExpired_of_none due
          refine ⟨breaker, by rw [Breaker.fireTimers, expired], session, ?_⟩
          simp [fireTimers, expired]
      | some timer =>
          have expired := takeExpired_of_some due
          have disarmed := session.disarm timer
          obtain ⟨middle, applied, ran⟩ := apply_run disarmed timer.event now
          obtain ⟨fired, firing, kept, runs⟩ := ih (disarmed.applied applied)
          refine ⟨fired, ?_, kept, ?_⟩
          · rw [Breaker.fireTimers, expired]
            dsimp only
            rw [show { breaker with lifecycle := (breaker.disarm timer).lifecycle } =
              breaker.disarm timer from rfl, applied]
            exact firing
          · simp only [fireTimers, EStateM.run_bind, EStateM.run_get, expired, EStateM.run_modify]
            rw [show { breaker with lifecycle := (breaker.disarm timer).lifecycle } =
              breaker.disarm timer from rfl, ran]
            exact runs

omit known in
theorem runMonitor_run [Meter μ] (session : breaker.InSession) (now : Nat) :
    ∃ after, breaker.runMonitor now = .ok after ∧ (runMonitor now).run breaker = .ok () after := by
  cases ticks : breaker.dueTicks now with
  | mk found monitor =>
      have runDue := ticks
      unfold dueTicks at runDue
      cases found with
      | none =>
          refine ⟨{ breaker with monitor }, by rw [Breaker.runMonitor, runDue], ?_⟩
          simp [runMonitor, ticks]
      | some point =>
          obtain ⟨after, applied, ran⟩ := apply_run (session.watch monitor) .overCurrentDuration now
          refine ⟨after, by rw [Breaker.runMonitor, runDue]; exact applied, ?_⟩
          simp [runMonitor, ticks, ran]

theorem poll_follows [Meter μ] (now : Nat) : Follows (poll now) breaker (breaker.poll now) := by
  refine follows_demand fun inside => ?_
  have session := known inside
  obtain ⟨fired, firing, kept, runs⟩ :=
    fireTimers_run (session.told now) now TimerId.all.length
  obtain ⟨after, monitored, ran⟩ := runMonitor_run kept now
  simp only [Follows, EStateM.run_bind, EStateM.run_modify, runs, ran]
  rw [show { breaker with lastSeen := some now } = breaker.told now from rfl, firing]
  exact congrArg (ending breaker) monitored.symm

end Events

section Settings

variable [SwitchDriver σ] {breaker : Breaker σ ζ μ κ}

theorem shutdown_follows [Mains ζ] : Follows shutdown breaker breaker.shutdown :=
  follows_demand fun _ => rfl

omit [SwitchDriver σ] in
theorem setObserved_follows (observed : Bool) :
    Follows (setObserved observed) breaker (breaker.setObserved observed) :=
  follows_demand fun _ => rfl

variable [RecordStore κ]

theorem setHardwareLimit_follows (limit : UInt8) :
    Follows (setHardwareLimit limit) breaker (breaker.setHardwareLimit limit) := by
  refine follows_demand fun _ => ?_
  cases limited : SwitchDriver.setLimit breaker.switch limit <;>
    simp [Follows, limited, ending]

omit [SwitchDriver σ] in
theorem setPoints_follows (points : List CurvePoint) :
    Follows (setPoints points) breaker (breaker.setPoints points) := by
  refine follows_demand fun _ => ?_
  cases Curve.ofPoints? points <;> simp [Follows, ending]

omit [SwitchDriver σ] in
theorem setRecovery_follows (settings : RecoverySettings) :
    Follows (setRecovery settings) breaker (breaker.setRecovery settings) := by
  refine follows_demand fun _ => ?_
  cases configured : breaker.lifecycle.configure settings <;>
    simp [Follows, configured, ending]

omit [SwitchDriver σ] in
theorem setModulation_follows (settings : ModulationSettings) :
    Follows (setModulation settings) breaker (breaker.setModulation settings) := by
  refine follows_demand fun _ => ?_
  cases configured : breaker.lifecycle.configureModulation settings <;>
    simp [Follows, configured, ending]

end Settings

end Routine

/-!
## Calls
-/

namespace Call

open Routine Breaker

variable {σ ζ μ κ : Type} {breaker : Breaker σ ζ μ κ} (queue : InputFeed)

/-- How a call ends that leaves the breaker and the queue as they were if it is refused. -/
def ending (breaker : Breaker σ ζ μ κ) (queue : InputFeed) :
    Except BreakerError (Answer × Breaker σ ζ μ κ × InputFeed) →
      EStateM.Result BreakerError (Breaker σ ζ μ κ × InputFeed) Answer
  | .ok (answer, after) => .ok answer after
  | .error error => .error error (breaker, queue)

theorem run_beside {α : Type} (routine : Routine σ ζ μ κ α) :
    routine.beside.run (breaker, queue) =
      match routine.run breaker with
      | .ok answer after => .ok answer (after, queue)
      | .error error after => .error error (after, queue) :=
  rfl

theorem done_of_follows {routine : Routine σ ζ μ κ Unit}
    {result : Except BreakerError (Breaker σ ζ μ κ)} (follows : Follows routine breaker result) :
    (do routine.beside; return Answer.done : EStateM _ _ _).run (breaker, queue) =
      ending breaker queue (result.map (.done, ·, queue)) := by
  rw [Follows] at follows
  rw [EStateM.run_bind, run_beside, follows]
  cases result <;> rfl

theorem read_ending {α : Type} (value : Breaker σ ζ μ κ → α) (answer : α → Answer)
    {result : Except BreakerError α}
    (read : result = if breaker.initialized then .ok (value breaker) else .error .notSupported) :
    (do return answer (← (Routine.read value).beside) : EStateM _ _ _).run (breaker, queue) =
      ending breaker queue (result.map fun found => (answer found, breaker, queue)) := by
  rw [EStateM.run_bind, run_beside, read]
  cases inside : breaker.initialized with
  | false =>
      rw [Routine.read, demand_bind_of_fresh inside]
      rfl
  | true =>
      rw [Routine.read, demand_bind_of_initialized inside]
      rfl

section Inputs

variable [SwitchDriver σ] [Meter μ] [RecordStore κ]

omit [SwitchDriver σ] [Meter μ] [RecordStore κ] in
private theorem emptied (inputs : List Input) : (if inputs = [] then inputs else []) = [] := by
  split <;> simp [*]

/-- In a session every input that the queue holds is taken and handled. -/
private theorem takeInputs_run (session : breaker.InSession) (inputs held : List Input)
    (feedEnd : FeedEnd) (now handled : Nat) :
    (takeInputs now inputs handled).run (breaker, ⟨held, feedEnd⟩) =
      .ok (handled + inputs.length)
        (breaker.run (inputs.map fun input => .input input now),
          ⟨if inputs = [] then held else [], feedEnd⟩) := by
  induction inputs generalizing breaker held handled with
  | nil => rfl
  | cons input rest ih =>
      obtain ⟨after, accepted, _⟩ := session.handleInput input now
      have acted : breaker.act (.input input now) = after := by
        simp [Breaker.act, accepted, afterCall]
      have kept := session.act (.input input now)
      have ran := handleInput_follows (fun _ => session) input now
      rw [acted] at kept
      rw [Follows, accepted, Routine.ending] at ran
      rw [takeInputs, EStateM.run_bind, EStateM.run_modify]
      dsimp only
      rw [EStateM.run_bind, run_beside, ran]
      dsimp only
      rw [ih kept rest (handled + 1)]
      rw [emptied, if_neg (List.cons_ne_nil input rest), List.length_cons, List.map_cons,
        Breaker.run, Breaker.run, List.foldl_cons, acted, Nat.add_right_comm, Nat.add_assoc]

end Inputs

variable [SwitchDriver σ] [Mains ζ] [Meter μ] [RecordStore κ]

private theorem drain_ending (known : breaker.initialized = true → breaker.InSession) (now : Nat) :
    (routine (.drain now)).run (breaker, queue) =
      ending breaker queue (breaker.answer queue (.drain now)) := by
  rw [routine, EStateM.run_bind, run_beside]
  cases inside : breaker.initialized with
  | false =>
      have refused : breaker.drain queue now = .error .notSupported := by
        simp [Breaker.drain, ensureInitialized, inside, bind, Except.bind]
      rw [demand_of_fresh inside, Breaker.answer, refused]
      rfl
  | true =>
      have session := known inside
      rw [demand_of_initialized inside, Breaker.answer, session.drain]
      dsimp only
      rw [EStateM.run_bind, EStateM.run_get]
      dsimp only
      rw [EStateM.run_bind, takeInputs_run session, emptied, Nat.zero_add]
      rfl

/-- A call leads to its answer; if it is refused, the breaker and the queue are as they were. -/
theorem routine_ending (known : breaker.initialized = true → breaker.InSession) (call : Call) :
    call.routine.run (breaker, queue) = ending breaker queue (breaker.answer queue call) := by
  cases call with
  | init now => rfl
  | shutdown => exact done_of_follows queue shutdown_follows
  | close now => exact done_of_follows queue (requestClose_follows known now)
  | «open» now => exact done_of_follows queue (requestOpen_follows known now)
  | handleInput input now => exact done_of_follows queue (handleInput_follows known input now)
  | drain now => exact drain_ending queue known now
  | poll now => exact done_of_follows queue (poll_follows known now)
  | setHardwareLimit limit => exact done_of_follows queue (setHardwareLimit_follows limit)
  | setPoints points => exact done_of_follows queue (setPoints_follows points)
  | setRecovery settings => exact done_of_follows queue (setRecovery_follows settings)
  | setModulation settings => exact done_of_follows queue (setModulation_follows settings)
  | setObserved observed => exact done_of_follows queue (setObserved_follows observed)
  | dispatch => rfl
  | hardwareLimit => exact read_ending queue (·.curve.hardwareLimit) .limit rfl
  | points => exact read_ending queue (·.curve.curve.points) .points rfl
  | pointCount => exact read_ending queue (·.curve.curve.points) (.count ·.length) rfl
  | copyPoints room =>
      exact read_ending queue (·.curve.curve.points) (fun points => .points (points.take room)) rfl
  | recovery => exact read_ending queue (·.lifecycle.recovery) .recovery rfl
  | modulation => exact read_ending queue (·.lifecycle.modulation.settings) .modulation rfl

end Call

/-!
## The latest instant
-/

namespace Breaker

variable {σ ζ μ κ : Type} [SwitchDriver σ] {breaker after : Breaker σ ζ μ κ} {now : Nat}

theorem InSession.lastSeen_apply (session : breaker.InSession) {event : Event}
    (applied : breaker.apply event now = .ok after) : after.lastSeen = some now := by
  obtain ⟨log, pending, same⟩ := recordChanges_eq (breaker.told now)
    { breaker with
      lastSeen := some now
      lifecycle := (breaker.lifecycle.respond breaker.clock event breaker.switch now).1
      switch := (breaker.lifecycle.respond breaker.clock event breaker.switch now).2 } now
  rw [session.apply_eq] at applied
  cases applied
  exact congrArg Breaker.lastSeen same

private theorem lastSeen_handleInput (session : breaker.InSession) {input : Input}
    (seen : breaker.lastSeen.isSome) (handled : breaker.handleInput input now = .ok after) :
    after.lastSeen.isSome := by
  have event {event : Event} {watched answered : Breaker σ ζ μ κ} (inside : watched.InSession)
      (applied : watched.apply event now = .ok answered) : answered.lastSeen.isSome := by
    rw [inside.lastSeen_apply applied]
    rfl
  cases input with
  | zeroCrossing => exact event session handled
  | switchChanged closed => cases closed <;> exact event session handled
  | openRequest =>
      obtain ⟨answered, applied, _⟩ := session.apply .openCommand now
      have told := event session applied
      rw [Breaker.handleInput, requestOpen, applied] at handled
      cases handled
      exact told
  | closeRequest =>
      have asked := ensured handled
      split at asked
      · cases asked
        exact seen
      · obtain ⟨answered, applied, _⟩ :=
          (session.watch breaker.monitor.reset).apply .closeCommand now
        have told := event (session.watch breaker.monitor.reset) applied
        rw [applied] at asked
        cases asked
        exact told

private theorem lastSeen_fireTimers (session : breaker.InSession) (rounds : Nat)
    (seen : breaker.lastSeen.isSome) (fired : breaker.fireTimers now rounds = .ok after) :
    after.InSession ∧ after.lastSeen.isSome := by
  induction rounds generalizing breaker with
  | zero =>
      cases fired
      exact ⟨session, seen⟩
  | succ rounds ih =>
      rcases session.fireTimers_succ now rounds with
        ⟨_, firing, _⟩ | ⟨timer, middle, due, applied, firing, _⟩
      · rw [firing] at fired
        cases fired
        exact ⟨session, seen⟩
      · rw [firing] at fired
        have disarmed := session.disarm timer
        refine ih (disarmed.applied applied) ?_ fired
        rw [disarmed.lastSeen_apply applied]
        rfl

private theorem lastSeen_poll [Meter μ] (session : breaker.InSession)
    (polled : breaker.poll now = .ok after) : after.lastSeen.isSome := by
  obtain ⟨fired, firing, _⟩ := Routine.fireTimers_run (session.told now) now TimerId.all.length
  obtain ⟨kept, seen⟩ := lastSeen_fireTimers (session.told now) _ rfl firing
  rw [session.poll_of_fired firing, runMonitor] at polled
  split at polled
  · cases polled
    exact seen
  · rw [(kept.watch _).lastSeen_apply polled]
    rfl

section Steps

variable [RecordStore κ]

omit [SwitchDriver σ] in
@[simp]
theorem lastSeen_persist {α : Type} [Record α] (set : Breaker σ ζ μ κ) (settings : α) :
    (set.persist settings).lastSeen = set.lastSeen := by
  obtain ⟨store, log, same⟩ := persist_eq set settings
  rw [same]

theorem lastSeen_adjust (breaker : Breaker σ ζ μ κ) (adjustment : Adjustment σ ζ μ κ) :
    (breaker.adjust adjustment).lastSeen = breaker.lastSeen := by
  rcases adjust_shape adjustment breaker with
    ⟨_, _, same, _⟩ | ⟨_, _, _, _, rfl⟩ | ⟨α, _, _, settings, _, _, _, _, same⟩
  · rw [same]
  · rfl
  · rw [same, lastSeen_persist]

omit [SwitchDriver σ] in
@[simp]
theorem lastSeen_restoreOrDefault (breaker : Breaker σ ζ μ κ) (α : Type) [Record α] :
    (breaker.restoreOrDefault α now).2.lastSeen = breaker.lastSeen := by
  obtain ⟨store, log, same⟩ := restoreOrDefault_eq breaker α now
  rw [same]

theorem lastSeen_init [Mains ζ] (fresh : breaker.initialized = false) :
    (breaker.init now).lastSeen = some now := by
  have notYet : ¬ breaker.initialized = true := by simp [fresh]
  unfold init
  rw [if_neg notYet]
  simp [record]

variable [Mains ζ] [Meter μ]

omit [Mains ζ] in
private theorem lastSeen_act {breaker : Breaker σ ζ μ κ} (session : breaker.InSession)
    (seen : breaker.lastSeen.isSome) (action : Action σ ζ μ κ) :
    (breaker.act action).lastSeen.isSome := by
  cases action with
  | input input now =>
      exact afterCall_of seen fun _ handled => lastSeen_handleInput session seen handled
  | poll now => exact afterCall_of seen fun _ polled => lastSeen_poll session polled
  | adjust adjustment =>
      rw [Breaker.act, lastSeen_adjust]
      exact seen

/-- A breaker that is initialized has been told an instant. -/
theorem lastSeen_history {breaker : Breaker σ ζ μ κ} (fresh : breaker.initialized = false)
    (steps : List (Step σ ζ μ κ)) (initialized : (breaker.history steps).initialized = true) :
    (breaker.history steps).lastSeen.isSome := by
  induction steps using List.reverseRecOn with
  | nil =>
      rw [show (breaker.history []).initialized = false from fresh] at initialized
      cases initialized
  | append_singleton steps step ih =>
      have known := inSession_history fresh steps
      rw [history_concat] at initialized ⊢
      cases inside : (breaker.history steps).initialized with
      | false =>
          rcases step_of_fresh inside step with ⟨now, rfl⟩ | ⟨outside, _⟩
          · rw [Breaker.step, lastSeen_init inside]
            rfl
          · rw [outside] at initialized
            cases initialized
      | true =>
          cases step with
          | act action => exact lastSeen_act (known inside) (ih inside) action
          | init now =>
              have same : (breaker.history steps).init now = breaker.history steps := by
                simp [Breaker.init, inside]
              rw [Breaker.step, same]
              exact ih inside
          | shutdown =>
              rw [(shutdown_of_inSession (known inside)).1] at initialized
              cases initialized

/-- A breaker after any number of steps, in a session or not. -/
def Built (breaker : Breaker σ ζ μ κ) : Prop :=
  ∃ clock switch mains meter store steps,
    (ofParts clock switch mains meter store).history steps = breaker

end Steps

end Breaker

/-!
## Setters whose record cannot be written
-/

def Configuration.settings (configuration : Configuration) : ConfigSection → Settings
  | .tripCurve => .curve configuration.curve
  | .recovery => .recovery configuration.recovery
  | .modulation => .modulation configuration.modulation

namespace Call

open Breaker

variable {σ ζ μ κ : Type} [SwitchDriver σ]

/-- The record that a setter writes if it is accepted. -/
def record? (breaker : Breaker σ ζ μ κ) : Call → Option Settings
  | setHardwareLimit limit =>
      match SwitchDriver.setLimit breaker.switch limit with
      | .ok _ => some (.curve { breaker.curve with hardwareLimit := limit })
      | .error _ => none
  | setPoints replacement =>
      match Curve.ofPoints? replacement with
      | .ok curve => some (.curve { breaker.curve with curve })
      | .error _ => none
  | setRecovery settings => if settings.Valid then some (.recovery settings) else none
  | setModulation settings => if settings.Valid then some (.modulation settings) else none
  | _ => none

variable [Mains ζ] [Meter μ] [RecordStore κ] {breaker : Breaker σ ζ μ κ} (queue : InputFeed)

/-- The settings are in force though the store did not take them, and the log tells so once. -/
structure Unstored (breaker : Breaker σ ζ μ κ) (settings : Settings) (now : Nat)
    (after : Breaker σ ζ μ κ) : Prop where
  inForce : after.configuration.settings settings.kind = settings
  store : after.store = breaker.store
  log : after.log = breaker.log.add (.configStoreFailed settings.kind) now

/-- The breaker runs with the settings and has not stored them yet. -/
structure Takes (breaker : Breaker σ ζ μ κ) (settings : Settings) (set : Breaker σ ζ μ κ) :
    Prop where
  inForce : set.configuration.settings settings.kind = settings
  store : set.store = breaker.store
  log : set.log = breaker.log
  lastSeen : set.lastSeen = breaker.lastSeen

def persistAny (breaker : Breaker σ ζ μ κ) : Settings → Breaker σ ζ μ κ
  | .curve settings => breaker.persist settings
  | .recovery settings => breaker.persist settings
  | .modulation settings => breaker.persist settings

omit [SwitchDriver σ] [Mains ζ] [Meter μ] in
theorem persistAny_of_failed {set : Breaker σ ζ μ κ} {settings : Settings} {now : Nat}
    {error : StoreError} (seen : set.lastSeen = some now)
    (failed : settings.persist set.store = .error error) :
    persistAny set settings =
      { set with log := set.log.add (.configStoreFailed settings.kind) now } := by
  cases settings <;>
  · simp only [Settings.persist] at failed
    simp only [persistAny, Breaker.persist, failed, seen, record]
    rfl

/-- Which setters are accepted does not depend on the store: the limits that the driver takes, the
curves in order, and the valid settings. An accepted one is in force before it is stored. -/
theorem answer_of_setter (inside : breaker.initialized = true) {call : Call}
    (setter : call.IsSetter) :
    (call.record? breaker = none ∧ ∃ error, breaker.answer queue call = .error error) ∨
      ∃ settings set, call.record? breaker = some settings ∧ Takes breaker settings set ∧
        breaker.answer queue call = .ok (.done, persistAny set settings, queue) := by
  have ensured {result : Breaker σ ζ μ κ → Except BreakerError (Breaker σ ζ μ κ)} :
      (breaker.ensureInitialized >>= result) = result breaker := by
    simp [ensureInitialized, inside, bind, Except.bind]
  cases call with
  | setHardwareLimit limit =>
      rw [record?, Breaker.answer, Breaker.setHardwareLimit, ensured]
      cases SwitchDriver.setLimit breaker.switch limit with
      | error error => exact .inl ⟨rfl, _, rfl⟩
      | ok switch =>
          refine .inr ⟨_, _, rfl, ?_, rfl⟩
          exact ⟨rfl, rfl, rfl, rfl⟩
  | setPoints replacement =>
      rw [record?, Breaker.answer, Breaker.setPoints, ensured]
      cases Curve.ofPoints? replacement with
      | error error => exact .inl ⟨rfl, _, rfl⟩
      | ok curve =>
          refine .inr ⟨_, _, rfl, ?_, rfl⟩
          exact ⟨rfl, rfl, rfl, rfl⟩
  | setRecovery settings =>
      rw [record?, Breaker.answer, Breaker.setRecovery, ensured, Lifecycle.configure,
        RecoverySettings.validate]
      by_cases valid : settings.Valid
      · rw [if_pos valid, if_pos valid]
        refine .inr ⟨_, _, rfl, ?_, rfl⟩
        exact ⟨rfl, rfl, rfl, rfl⟩
      · rw [if_neg valid, if_neg valid]
        exact .inl ⟨rfl, _, rfl⟩
  | setModulation settings =>
      rw [record?, Breaker.answer, Breaker.setModulation, ensured, Lifecycle.configureModulation,
        Modulation.configure, ModulationSettings.validate]
      by_cases valid : settings.Valid
      · rw [if_pos valid, if_pos valid]
        refine .inr ⟨_, _, rfl, ?_, rfl⟩
        exact ⟨rfl, rfl, rfl, rfl⟩
      · rw [if_neg valid, if_neg valid]
        exact .inl ⟨rfl, _, rfl⟩
  | _ => exact setter.elim

omit [SwitchDriver σ] [Mains ζ] [Meter μ] in
theorem Takes.unstored {set : Breaker σ ζ μ κ} {settings : Settings} {now : Nat}
    {error : StoreError} (takes : Takes breaker settings set) (seen : breaker.lastSeen = some now)
    (failed : settings.persist breaker.store = .error error) :
    Unstored breaker settings now (persistAny set settings) := by
  have told : set.lastSeen = some now := takes.lastSeen.trans seen
  rw [← takes.store] at failed
  rw [persistAny_of_failed told failed]
  refine ⟨?_, takes.store, by rw [takes.log]⟩
  exact takes.inForce

theorem answer_of_event (session : breaker.InSession) {call : Call} (event : call.IsEvent) :
    ∃ answer after, breaker.answer queue call = .ok (answer, after) := by
  cases call with
  | close now =>
      obtain ⟨after, accepted, _⟩ := session.handleInput .closeRequest now
      rw [Breaker.handleInput] at accepted
      exact ⟨_, _, by rw [Breaker.answer, accepted]; rfl⟩
  | «open» now =>
      obtain ⟨after, accepted, _⟩ := session.handleInput .openRequest now
      rw [Breaker.handleInput] at accepted
      exact ⟨_, _, by rw [Breaker.answer, accepted]; rfl⟩
  | handleInput input now =>
      obtain ⟨after, accepted, _⟩ := session.handleInput input now
      exact ⟨_, _, by rw [Breaker.answer, accepted]; rfl⟩
  | drain now => exact ⟨_, _, by rw [Breaker.answer, session.drain]; rfl⟩
  | poll now =>
      obtain ⟨fired, firing, kept, _⟩ :=
        Routine.fireTimers_run (session.told now) now TimerId.all.length
      obtain ⟨after, monitored, _⟩ := Routine.runMonitor_run kept now
      have polled := (session.poll_of_fired firing).trans monitored
      exact ⟨_, _, by rw [Breaker.answer, polled]; rfl⟩
  | _ => exact event.elim

/-- A call that is refused leaves breaker and queue as they were, whatever it changed on the way;
one that is accepted does what its definition says. In a session no event is refused. Whether a
setter is accepted does not depend on the store: where the record cannot be written, the settings
are in force nevertheless, and the log tells so once. -/
theorem refused_unchanged (built : breaker.Built) :
    (∀ call : Call,
      call.routine.run (breaker, queue) = ending breaker queue (breaker.answer queue call)) ∧
    (∀ (call : Call) (error : BreakerError) (left : Breaker σ ζ μ κ × InputFeed),
      call.routine.run (breaker, queue) = .error error left → left = (breaker, queue)) ∧
    (breaker.initialized = true →
      (∀ call : Call, call.IsEvent →
        ∃ answer left, call.routine.run (breaker, queue) = .ok answer left) ∧
      ∀ call : Call, call.IsSetter →
        (call.record? breaker = none ∧
          ∃ error, call.routine.run (breaker, queue) = .error error (breaker, queue)) ∨
        ∃ settings after, call.record? breaker = some settings ∧
          call.routine.run (breaker, queue) = .ok .done (after, queue) ∧
          ∀ error, settings.persist breaker.store = .error error →
            ∃ now, breaker.lastSeen = some now ∧ Unstored breaker settings now after) := by
  obtain ⟨clock, switch, mains, meter, store, steps, history⟩ := built
  have known : breaker.initialized = true → breaker.InSession :=
    history ▸ inSession_history rfl steps
  have ends (call : Call) := routine_ending queue known call
  refine ⟨ends, ?_, ?_⟩
  · intro call error left failed
    rw [ends call] at failed
    cases answered : breaker.answer queue call with
    | error error =>
        rw [answered] at failed
        cases failed
        rfl
    | ok answer =>
        rw [answered] at failed
        cases failed
  · intro inside
    have told : breaker.lastSeen.isSome := by
      rw [← history] at inside ⊢
      exact lastSeen_history rfl steps inside
    obtain ⟨now, seen⟩ := Option.isSome_iff_exists.mp told
    constructor
    · intro call event
      obtain ⟨answer, left, answered⟩ := answer_of_event queue (known inside) event
      exact ⟨answer, left, by rw [ends call, answered, ending]⟩
    · intro call setter
      rcases answer_of_setter queue inside setter with
        ⟨unwritten, error, refused⟩ | ⟨settings, set, written, takes, accepted⟩
      · exact .inl ⟨unwritten, error, by rw [ends call, refused, ending]⟩
      · refine .inr ⟨settings, _, written, by rw [ends call, accepted, ending], ?_⟩
        intro error failed
        exact ⟨now, seen, takes.unstored seen failed⟩

open Bench

/-- The bench, closed, over a store that takes nothing. -/
def storeless : BenchBreaker := (bench {} {}).history (session closed)

/-- Without a store a new limit is in force and a bad curve changes nothing; a queue that fails is
drained. -/
theorem refused_unchanged_storeless :
    (∃ after, (setHardwareLimit 20).routine.run (storeless, ⟨[], .empty⟩) =
        .ok .done (after, ⟨[], .empty⟩) ∧
      Unstored storeless (.curve { storeless.curve with hardwareLimit := 20 }) 200000 after) ∧
    (∃ error, (setPoints []).routine.run (storeless, ⟨[.openRequest], .failed⟩) =
      .error error (storeless, ⟨[.openRequest], .failed⟩)) ∧
    ∃ answer left, (drain 300000).routine.run (storeless, ⟨[.openRequest], .failed⟩) =
      .ok answer left := by
  have built : storeless.Built := ⟨_, _, _, _, _, session closed, rfl⟩
  have inside : storeless.initialized = true := by decide +kernel
  obtain ⟨_, setters⟩ := (refused_unchanged ⟨[], .empty⟩ built).2.2 inside
  obtain ⟨events, failing⟩ := (refused_unchanged ⟨[.openRequest], .failed⟩ built).2.2 inside
  refine ⟨?_, ?_, events (drain 300000) trivial⟩
  · have limit : (setHardwareLimit 20).record? storeless =
        some (.curve { storeless.curve with hardwareLimit := 20 }) := by decide +kernel
    rcases setters (setHardwareLimit 20) trivial with ⟨unwritten, _⟩ |
      ⟨settings, after, written, ran, unstored⟩
    · rw [limit] at unwritten
      cases unwritten
    · rw [limit] at written
      obtain rfl := Option.some.inj written
      obtain ⟨now, seen, unstored⟩ := unstored .outOfRange (by decide +kernel)
      have latest : storeless.lastSeen = some 200000 := by decide +kernel
      rw [latest] at seen
      obtain rfl := Option.some.inj seen
      exact ⟨after, ran, unstored⟩
  · have empty : (setPoints []).record? storeless = none := by decide +kernel
    rcases failing (setPoints []) trivial with ⟨_, refused⟩ | ⟨_, _, written, _⟩
    · exact refused
    · rw [empty] at written
      cases written

end Call

end CircuitBreaker
