import CircuitBreaker.Proofs.Run
import CircuitBreaker.Proofs.SwitchMap

/-!
# Journals

A driver that keeps a journal of its commands, with the inputs of the breaker between
them. Keeping it changes nothing: a journaled breaker does what the breaker does.
-/

set_option autoImplicit false

namespace CircuitBreaker

inductive JournalEntry where
  | input (input : Input)
  /-- With the cause of the refusal, if the switch refused. -/
  | turnedOn (refusal : Option SwitchCause)
  | turnedOff
deriving DecidableEq, Repr

structure Journaled (σ : Type) where
  driver : σ
  journal : List JournalEntry := []

namespace Journaled

variable {σ : Type}

def note (switch : Journaled σ) (entry : JournalEntry) : Journaled σ :=
  { switch with journal := entry :: switch.journal }

variable [SwitchDriver σ]

instance : SwitchDriver (Journaled σ) where
  turnOn switch :=
    match SwitchDriver.turnOn switch.driver with
    | (refusal, driver) => (refusal, { switch with driver }.note (.turnedOn refusal))
  turnOff switch :=
    { switch with driver := SwitchDriver.turnOff switch.driver }.note .turnedOff
  isOn switch := SwitchDriver.isOn switch.driver
  cause switch := SwitchDriver.cause switch.driver
  setLimit switch limit :=
    (SwitchDriver.setLimit switch.driver limit).map fun driver => { switch with driver }
  enableEvents switch := { switch with driver := SwitchDriver.enableEvents switch.driver }
  disableEvents switch := { switch with driver := SwitchDriver.disableEvents switch.driver }

theorem switchMap_driver : SwitchMap (driver : Journaled σ → σ) where
  turnOn _ := rfl
  turnOff _ := rfl
  isOn _ := rfl
  cause _ := rfl
  setLimit switch limit := by
    cases limited : SwitchDriver.setLimit switch.driver limit <;>
      simp [SwitchDriver.setLimit, limited, Except.map]

end Journaled

def Adjustment.journaled {σ ζ μ κ : Type} :
    Adjustment σ ζ μ κ → Adjustment (Journaled σ) ζ μ κ
  | .hardwareLimit limit => .hardwareLimit limit
  | .points curve => .points curve
  | .recovery settings => .recovery settings
  | .modulation settings => .modulation settings
  | .observed known => .observed known
  | .dispatch => .dispatch
  | .surroundings switch mains meter store =>
      .surroundings (fun journaled => { journaled with driver := switch journaled.driver })
        mains meter store

namespace Breaker

variable {σ ζ μ κ : Type}

def journaled (breaker : Breaker σ ζ μ κ) : Breaker (Journaled σ) ζ μ κ :=
  breaker.mapSwitch fun driver => { driver }

def noted (breaker : Breaker (Journaled σ) ζ μ κ) (input : Input) : Breaker (Journaled σ) ζ μ κ :=
  { breaker with switch := breaker.switch.note (.input input) }

variable [SwitchDriver σ] [Meter μ] [RecordStore κ]

def actJournaled (breaker : Breaker (Journaled σ) ζ μ κ) :
    Action σ ζ μ κ → Breaker (Journaled σ) ζ μ κ
  | .input input now => (breaker.noted input).act (.input input now)
  | .poll now => breaker.act (.poll now)
  | .adjust adjustment => breaker.adjust adjustment.journaled

def runJournaled (breaker : Breaker σ ζ μ κ) (actions : List (Action σ ζ μ κ)) :
    Breaker (Journaled σ) ζ μ κ :=
  actions.foldl actJournaled breaker.journaled

/-- The inputs and the commands to the switch during a part of a session, the latest
first. -/
def journal (breaker : Breaker σ ζ μ κ) (actions : List (Action σ ζ μ κ)) : List JournalEntry :=
  (breaker.runJournaled actions).switch.journal

@[simp]
theorem runJournaled_concat (breaker : Breaker σ ζ μ κ) (actions : List (Action σ ζ μ κ))
    (action : Action σ ζ μ κ) :
    breaker.runJournaled (actions ++ [action]) =
      (breaker.runJournaled actions).actJournaled action := by
  simp [runJournaled]

/-!
## The journal changes nothing
-/

section Erasure

variable (breaker : Breaker (Journaled σ) ζ μ κ)

omit [SwitchDriver σ] [Meter μ] [RecordStore κ] in
private theorem afterCall_mapSwitch {result : Except BreakerError (Breaker (Journaled σ) ζ μ κ)}
    {image : Except BreakerError (Breaker σ ζ μ κ)}
    (same : image = result.map (mapSwitch Journaled.driver)) :
    (breaker.mapSwitch Journaled.driver).afterCall image =
      (breaker.afterCall result).mapSwitch Journaled.driver := by
  rw [same]
  cases result <;> rfl

omit [Meter μ] in
private theorem mapSwitch_adjust (adjustment : Adjustment σ ζ μ κ) :
    (breaker.adjust adjustment.journaled).mapSwitch Journaled.driver =
      (breaker.mapSwitch Journaled.driver).adjust adjustment := by
  cases adjustment with
  | hardwareLimit limit =>
      exact (afterCall_mapSwitch breaker
        (Journaled.switchMap_driver.setHardwareLimit breaker limit)).symm
  | points points => exact (afterCall_mapSwitch breaker (setPoints_mapSwitch breaker points)).symm
  | recovery settings =>
      exact (afterCall_mapSwitch breaker (setRecovery_mapSwitch breaker settings)).symm
  | modulation settings =>
      exact (afterCall_mapSwitch breaker (setModulation_mapSwitch breaker settings)).symm
  | observed observed =>
      exact (afterCall_mapSwitch breaker (setObserved_mapSwitch breaker observed)).symm
  | dispatch => rfl
  | surroundings switch mains meter store => rfl

theorem mapSwitch_actJournaled (action : Action σ ζ μ κ) :
    (breaker.actJournaled action).mapSwitch Journaled.driver =
      (breaker.mapSwitch Journaled.driver).act action := by
  cases action with
  | input input now =>
      exact (afterCall_mapSwitch (breaker.noted input)
        (Journaled.switchMap_driver.handleInput (breaker.noted input) now input)).symm
  | poll now =>
      exact (afterCall_mapSwitch breaker (Journaled.switchMap_driver.poll breaker now)).symm
  | adjust adjustment => exact mapSwitch_adjust breaker adjustment

/-- Without its journal, a journaled run is the run. -/
theorem mapSwitch_runJournaled (start : Breaker σ ζ μ κ) (actions : List (Action σ ζ μ κ)) :
    (start.runJournaled actions).mapSwitch Journaled.driver = start.run actions := by
  induction actions using List.reverseRecOn with
  | nil => rfl
  | append_singleton actions action ih =>
      rw [runJournaled_concat, mapSwitch_actJournaled, ih, run_concat]

end Erasure

/-!
## Inductions along a journaled run
-/

theorem lifecycle_runJournaled (start : Breaker σ ζ μ κ) (actions : List (Action σ ζ μ κ)) :
    (start.runJournaled actions).lifecycle = (start.run actions).lifecycle := by
  rw [← mapSwitch_runJournaled]
  rfl

theorem InSession.actJournaled {breaker : Breaker (Journaled σ) ζ μ κ}
    (session : breaker.InSession) (action : Action σ ζ μ κ) :
    (breaker.actJournaled action).InSession := by
  have mapped : (breaker.mapSwitch Journaled.driver).InSession :=
    ⟨session.initialized, session.ready⟩
  have acted := mapped.act action
  rw [← mapSwitch_actJournaled] at acted
  exact ⟨acted.initialized, acted.ready⟩

theorem InSession.runJournaled {start : Breaker σ ζ μ κ} (session : start.InSession)
    (actions : List (Action σ ζ μ κ)) : (start.runJournaled actions).InSession := by
  have plain := session.run actions
  rw [← mapSwitch_runJournaled] at plain
  exact ⟨plain.initialized, plain.ready⟩

omit [Meter μ] in
/-- An adjustment leaves the journal alone. -/
theorem journal_adjust (breaker : Breaker (Journaled σ) ζ μ κ)
    (adjustment : Adjustment σ ζ μ κ) :
    (breaker.adjust adjustment.journaled).switch.journal = breaker.switch.journal := by
  refine @adjust_switch _ _ _ _ breaker _ _ adjustment.journaled
    (fun switch => switch.journal = breaker.switch.journal) ?_ ?_ rfl
  · intro before limit after applied same
    rw [← same]
    cases limited : SwitchDriver.setLimit before.driver limit with
    | error error => simp [SwitchDriver.setLimit, limited, Except.map] at applied
    | ok driver =>
        simp only [SwitchDriver.setLimit, limited, Except.map, Except.ok.injEq] at applied
        rw [← applied]
  · intro switch mains meter store given same
    cases adjustment <;> simp only [Adjustment.journaled, reduceCtorEq] at given
    cases given
    exact same

/-- What every journaled action keeps holds at the end of a run, if the run stays within
the bounds that the keeping asks for. -/
theorem runJournaled_keeps {Bound : Breaker σ ζ μ κ → Action σ ζ μ κ → Prop}
    {Invariant : Breaker (Journaled σ) ζ μ κ → Prop}
    (keeps : ∀ breaker action, Bound (breaker.mapSwitch Journaled.driver) action →
      Invariant breaker → Invariant (breaker.actJournaled action))
    (start : Breaker σ ζ μ κ) (actions : List (Action σ ζ μ κ))
    (within : Throughout act Bound start actions) (holds : Invariant start.journaled) :
    Invariant (start.runJournaled actions) := by
  induction actions using List.reverseRecOn with
  | nil => exact holds
  | append_singleton actions action ih =>
      rw [throughout_append] at within
      rw [runJournaled_concat]
      apply keeps _ _ _ (ih within.1)
      rw [mapSwitch_runJournaled]
      exact within.2.1

end Breaker

end CircuitBreaker
