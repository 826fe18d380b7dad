import CircuitBreaker.Proofs.Applied
import CircuitBreaker.Proofs.Journal

/-!
# Commands of a step

The commands to the switch that a step of a run gives, read from a journal that starts with
the step. Events alone command the switch: beginning a session, ending it and changing the
settings do not.
-/

set_option autoImplicit false

namespace CircuitBreaker

variable {τ σ ζ μ κ : Type}

def Action.journaled : Action σ ζ μ κ → Action (Journaled σ) ζ μ κ
  | .input request now => .input request now
  | .poll now => .poll now
  | .adjust adjustment => .adjust adjustment.journaled

def Step.journaled : Step σ ζ μ κ → Step (Journaled σ) ζ μ κ
  | .act action => .act action.journaled
  | .init now => .init now
  | .shutdown => .shutdown

namespace Application

def mapSwitch (forget : τ → σ) (application : Application τ ζ μ κ) : Application σ ζ μ κ where
  before := application.before.mapSwitch forget
  event := application.event
  now := application.now
  after := application.after.mapSwitch forget

variable [SwitchDriver σ]

def commands (application : Application σ ζ μ κ) : List JournalEntry :=
  match application.before.journaled.apply application.event application.now with
  | .ok after => after.switch.journal
  | .error _ => []

end Application

namespace Breaker

variable [SwitchDriver σ] [Mains ζ] [Meter μ] [RecordStore κ]

/-- The commands to the switch in the course of a step, the latest first. -/
def commandsIn (breaker : Breaker σ ζ μ κ) (step : Step σ ζ μ κ) : List JournalEntry :=
  (breaker.journaled.step step.journaled).switch.journal

end Breaker

/-!
## Applied events and maps between drivers
-/

namespace SwitchMap

variable [SwitchDriver τ] [SwitchDriver σ] {forget : τ → σ} (map : SwitchMap forget)
include map

theorem appliedEvent (breaker : Breaker τ ζ μ κ) (event : Event) (now : Nat) :
    (breaker.mapSwitch forget).appliedEvent event now =
      (breaker.appliedEvent event now).map (Application.mapSwitch forget) := by
  unfold Breaker.appliedEvent
  rw [map.apply]
  cases breaker.apply event now <;> rfl

theorem appliedInput (breaker : Breaker τ ζ μ κ) (input : Input) (now : Nat) :
    (breaker.mapSwitch forget).appliedInput input now =
      (breaker.appliedInput input now).map (Application.mapSwitch forget) := by
  cases input with
  | closeRequest =>
      unfold Breaker.appliedInput
      dsimp only
      rw [show (breaker.mapSwitch forget).lifecycle = breaker.lifecycle from rfl]
      split
      · rfl
      · exact map.appliedEvent { breaker with monitor := breaker.monitor.reset } _ now
  | switchChanged closed => cases closed <;> exact map.appliedEvent breaker _ now
  | zeroCrossing => exact map.appliedEvent breaker _ now
  | openRequest => exact map.appliedEvent breaker _ now

theorem appliedTimers (breaker : Breaker τ ζ μ κ) (now rounds : Nat) :
    (breaker.mapSwitch forget).appliedTimers now rounds =
      (breaker.appliedTimers now rounds).map (Application.mapSwitch forget) := by
  induction rounds generalizing breaker with
  | zero => rfl
  | succ rounds ih =>
      unfold Breaker.appliedTimers
      rw [show (breaker.mapSwitch forget).lifecycle = breaker.lifecycle from rfl]
      cases breaker.lifecycle.takeExpired now with
      | mk expired lifecycle =>
          cases expired with
          | none => rfl
          | some event =>
              have applied := map.apply { breaker with lifecycle } event now
              rw [show ({ breaker with lifecycle } : Breaker τ ζ μ κ).mapSwitch forget =
                { breaker.mapSwitch forget with lifecycle } from rfl] at applied
              dsimp only
              rw [applied]
              cases ({ breaker with lifecycle } : Breaker τ ζ μ κ).apply event now with
              | error error => rfl
              | ok after => exact congrArg (_ :: ·) (ih after)

variable [Meter μ]

theorem appliedPoll (breaker : Breaker τ ζ μ κ) (now : Nat) :
    (breaker.mapSwitch forget).appliedPoll now =
      (breaker.appliedPoll now).map (Application.mapSwitch forget) := by
  have ticked (fired : Breaker τ ζ μ κ) : (fired.mapSwitch forget).appliedTick now =
      (fired.appliedTick now).map (Application.mapSwitch forget) := by
    unfold Breaker.appliedTick
    rw [show (fired.mapSwitch forget).dueTicks now = fired.dueTicks now from rfl]
    cases fired.dueTicks now with
    | mk found monitor =>
        cases found with
        | none => rfl
        | some point => exact map.appliedEvent { fired with monitor } _ now
  unfold Breaker.appliedPoll
  rw [show (breaker.mapSwitch forget).told now = (breaker.told now).mapSwitch forget from rfl,
    map.appliedTimers, map.fireTimers, List.map_append]
  cases (breaker.told now).fireTimers now TimerId.all.length with
  | error error => rfl
  | ok fired => exact congrArg (_ ++ ·) (ticked fired)

end SwitchMap

/-!
## Commands are given by events
-/

def Journaled.onto (earlier : List JournalEntry) (switch : Journaled σ) : Journaled σ :=
  { switch with journal := switch.journal ++ earlier }

theorem Journaled.switchMap_onto [SwitchDriver σ] (earlier : List JournalEntry) :
    SwitchMap (Journaled.onto earlier : Journaled σ → Journaled σ) where
  turnOn _ := rfl
  turnOff _ := rfl
  isOn _ := rfl
  cause _ := rfl
  setLimit switch limit := by
    cases limited : SwitchDriver.setLimit switch.driver limit <;>
      simp [SwitchDriver.setLimit, Journaled.onto, limited, Except.map]

namespace Breaker

variable [SwitchDriver σ]

/-- An event puts its commands in front of the journal. -/
theorem journal_apply {before after : Breaker (Journaled σ) ζ μ κ} {event : Event} {now : Nat}
    (applied : before.apply event now = .ok after) :
    after.switch.journal =
      (Application.mapSwitch Journaled.driver ⟨before, event, now, after⟩).commands ++
        before.switch.journal := by
  have rejoined : before = (before.mapSwitch Journaled.driver).journaled.mapSwitch
      (Journaled.onto before.switch.journal) := rfl
  rw [rejoined, (Journaled.switchMap_onto _).apply] at applied
  unfold Application.commands Application.mapSwitch
  dsimp only
  cases answered : (before.mapSwitch Journaled.driver).journaled.apply event now with
  | error error => simp [answered, Except.map] at applied
  | ok answer =>
      simp only [answered, Except.map, Except.ok.injEq] at applied
      rw [← applied]
      rfl

private theorem journal_course {action : Action (Journaled σ) ζ μ κ} {now : Nat}
    {before final : Breaker (Journaled σ) ζ μ κ} {trail : List (Application (Journaled σ) ζ μ κ)}
    (course : Course action now before trail final) :
    final.switch.journal =
      (trail.map (Application.mapSwitch Journaled.driver)).reverse.flatMap Application.commands ++
        before.switch.journal := by
  induction course with
  | rest breaker => simp
  | aside monitor lastSeen later ih => exact ih
  | raise raised applied later ih =>
      rw [ih, journal_apply applied]
      simp
  | expire timer polling due applied later ih =>
      rw [ih, journal_apply applied]
      simp [disarm]

private theorem journal_setLimit {switch limited : Journaled σ} {limit : UInt8}
    (applied : SwitchDriver.setLimit switch limit = .ok limited) :
    limited.journal = switch.journal := by
  cases answer : SwitchDriver.setLimit switch.driver limit with
  | error error => simp [SwitchDriver.setLimit, answer, Except.map] at applied
  | ok driver =>
      simp only [SwitchDriver.setLimit, answer, Except.map, Except.ok.injEq] at applied
      rw [← applied]

/-- Sessions begin without a command to the switch. -/
theorem journal_init [Mains ζ] [RecordStore κ] (breaker : Breaker (Journaled σ) ζ μ κ) (now : Nat) :
    (breaker.init now).switch.journal = breaker.switch.journal := by
  cases inside : breaker.initialized with
  | true => simp [init, inside]
  | false =>
      obtain ⟨limited, taken, switch⟩ := init_switch inside now
      rw [switch]
      rcases taken with rfl | ⟨limit, accepted⟩
      · rfl
      · have kept := journal_setLimit accepted
        exact kept

variable [Mains ζ] [Meter μ] [RecordStore κ]

/-- An input is entered in the journal, and its commands after it. -/
theorem journal_input (breaker : Breaker σ ζ μ κ) (actions : List (Action σ ζ μ κ)) (input : Input)
    (now : Nat) :
    breaker.journal (actions ++ [.input input now]) =
      (breaker.run actions).commandsIn (.act (.input input now)) ++
        .input input :: breaker.journal actions := by
  let earlier := .input input :: breaker.journal actions
  have rejoined : (breaker.runJournaled actions).noted input =
      (breaker.run actions).journaled.mapSwitch (Journaled.onto earlier) := by
    rw [← mapSwitch_runJournaled]
    rfl
  have handled := (Journaled.switchMap_onto earlier).handleInput (breaker.run actions).journaled
    now input
  rw [journal, runJournaled_concat, actJournaled, rejoined, act, handled]
  cases answer : (breaker.run actions).journaled.handleInput input now <;>
    simp [commandsIn, Step.journaled, Action.journaled, step, act, answer, Except.map, afterCall,
      mapSwitch, Journaled.onto, earlier]

/-- The commands of a step are those of the events that it applies. -/
theorem commandsIn_eq {breaker : Breaker σ ζ μ κ}
    (known : breaker.initialized = true → breaker.InSession) (step : Step σ ζ μ κ) :
    breaker.commandsIn step = (breaker.applied step).reverse.flatMap Application.commands := by
  cases step with
  | act action =>
      cases inside : breaker.initialized with
      | false =>
          rw [applied_of_fresh inside, commandsIn, Step.journaled, Breaker.step]
          have outside : breaker.journaled.initialized = false := inside
          rcases act_of_fresh outside action.journaled with same | ⟨adjustment, adjusts⟩
          · rw [same]
            rfl
          · cases action with
            | adjust adjustment => exact journal_adjust breaker.journaled adjustment
            | _ => cases adjusts
      | true =>
          have session : breaker.journaled.InSession := ⟨inside, (known inside).ready⟩
          have same : breaker.journaled.mapSwitch Journaled.driver = breaker := rfl
          rw [commandsIn, Step.journaled, Breaker.step]
          rcases session.course action.journaled with ⟨adjustment, adjusts⟩ | ⟨instant, course⟩
          · cases action with
            | adjust adjustment => exact journal_adjust breaker.journaled adjustment
            | _ => cases adjusts
          · rw [journal_course course, show breaker.journaled.switch.journal = [] from rfl,
              List.append_nil]
            cases action with
            | input input now =>
                have trail := Journaled.switchMap_driver.appliedInput breaker.journaled input now
                rw [same] at trail
                rw [applied, trail]
                rfl
            | poll now =>
                have trail := Journaled.switchMap_driver.appliedPoll breaker.journaled now
                rw [same] at trail
                rw [applied, trail]
                rfl
            | adjust adjustment => rfl
  | init now =>
      rw [applied, commandsIn, Step.journaled, Breaker.step]
      exact journal_init breaker.journaled now
  | shutdown =>
      rw [applied, commandsIn, Step.journaled, Breaker.step]
      cases inside : breaker.initialized with
      | false =>
          have outside : breaker.journaled.initialized = false := inside
          rw [shutdown_of_fresh outside]
          rfl
      | true =>
          have accepted : breaker.journaled.ensureInitialized = .ok breaker.journaled := by
            simp [ensureInitialized, journaled, mapSwitch, inside]
          simp only [Breaker.shutdown, accepted, afterCall, bind, Except.bind]
          rfl

end Breaker

end CircuitBreaker
