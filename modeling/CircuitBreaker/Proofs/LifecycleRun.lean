import CircuitBreaker.Proofs.Applied

/-!
# Runs of a lifecycle

Everything that its owner can do to a lifecycle, as data. The switch may be another one in
every call. A breaker does nothing else to the lifecycle that it owns.
-/

set_option autoImplicit false

namespace CircuitBreaker

inductive LifecycleStep (σ : Type) where
  | start (switch : σ)
  | stop
  | handle (event : Event) (switch : σ) (now : Nat)
  | pollTimers (switch : σ) (now : Nat)
  | takeExpired (now : Nat)
  | takeNotice
  | configure (settings : RecoverySettings)
  | configureModulation (settings : ModulationSettings)

/-- A call between the events of a session. -/
def LifecycleStep.IsAside {σ : Type} : LifecycleStep σ → Prop
  | start _ | stop | handle _ _ _ | pollTimers _ _ => False
  | takeExpired _ | takeNotice | configure _ | configureModulation _ => True

namespace Lifecycle

def ofSettings (recovery : RecoverySettings) (modulation : ModulationSettings) : Lifecycle where
  recovery := recovery
  modulation := { settings := modulation }

variable {σ : Type} [SwitchDriver σ] (clock : Clock)

/-- The lifecycle after a call; one that is refused leaves it as it was. -/
def step (machine : Lifecycle) : LifecycleStep σ → Lifecycle
  | .start switch => machine.start switch
  | .stop => machine.stop
  | .handle event switch now =>
      match machine.handle clock event switch now with
      | .ok (machine, _) => machine
      | .error _ => machine
  | .pollTimers switch now =>
      match machine.pollTimers clock switch now with
      | .ok (_, machine, _) => machine
      | .error _ => machine
  | .takeExpired now => (machine.takeExpired now).2
  | .takeNotice => machine.takeNotice.2
  | .configure settings =>
      match machine.configure settings with
      | .ok machine => machine
      | .error _ => machine
  | .configureModulation settings =>
      match machine.configureModulation settings with
      | .ok machine => machine
      | .error _ => machine

def run (machine : Lifecycle) (steps : List (LifecycleStep σ)) : Lifecycle :=
  steps.foldl (step clock) machine

def Reachable (σ : Type) [SwitchDriver σ] (clock : Clock) (machine : Lifecycle) : Prop :=
  ∃ recovery modulation, ∃ steps : List (LifecycleStep σ),
    (ofSettings recovery modulation).run clock steps = machine

variable {clock}

theorem Reachable.step {machine : Lifecycle} (reachable : machine.Reachable σ clock)
    (call : LifecycleStep σ) : (machine.step clock call).Reachable σ clock := by
  obtain ⟨recovery, modulation, steps, rfl⟩ := reachable
  exact ⟨recovery, modulation, steps ++ [call], List.foldl_append⟩

/-- An event is dropped or refused, or the table moves a started lifecycle. -/
theorem step_handle (machine : Lifecycle) (event : Event) (switch : σ) (now : Nat) :
    machine.step clock (.handle event switch now) = machine ∨
      machine.phase ≠ .undefined ∧ machine.step clock (.handle event switch now) =
        (machine.transition clock event switch now).1 := by
  rw [step, handle]
  by_cases ignored : machine.filter.isIgnored event = true
  · left
    rw [if_pos ignored]
  · rw [if_neg ignored]
    by_cases stopped : machine.phase = .undefined
    · left
      rw [if_pos stopped]
    · right
      rw [if_neg stopped]
      exact ⟨stopped, rfl⟩

variable (clock) in
/-- Only events, starts and stops touch the phase, the filter and the class of the supply. -/
theorem step_aside (machine : Lifecycle) (call : LifecycleStep σ) (aside : call.IsAside) :
    (machine.step clock call).phase = machine.phase ∧
      (machine.step clock call).filter = machine.filter ∧
      (machine.step clock call).acSupply = machine.acSupply := by
  cases call with
  | takeExpired now => exact ⟨rfl, rfl, rfl⟩
  | takeNotice => exact ⟨rfl, rfl, rfl⟩
  | configure settings =>
      simp only [step, configure]
      cases settings.validate <;> exact ⟨rfl, rfl, rfl⟩
  | configureModulation settings =>
      simp only [step, configureModulation]
      cases machine.modulation.configure settings <;> exact ⟨rfl, rfl, rfl⟩
  | _ => exact aside.elim

/-!
## Invariants of every run
-/

section Invariants

variable {Invariant : Lifecycle → Prop}

section Polls

variable
  (taken : ∀ (machine : Lifecycle) (now : Nat),
    Invariant machine → Invariant (machine.takeExpired now).2)
  (handled : ∀ (machine : Lifecycle) (event : Event) (switch : σ) (now : Nat),
    Invariant machine → Invariant (machine.step clock (.handle event switch now)))
include taken handled

private theorem deliverDue_keeps {now rounds fired : Nat} {machine after : Lifecycle}
    {switch rest : σ} (holds : Invariant machine)
    (delivered : deliverDue clock now rounds machine switch = .ok (fired, after, rest)) :
    Invariant after := by
  induction rounds generalizing machine switch fired with
  | zero =>
      cases delivered
      exact holds
  | succ rounds ih =>
      have kept := taken machine now holds
      unfold deliverDue at delivered
      cases expired : machine.takeExpired now with
      | mk due disarmed =>
          rw [expired] at delivered kept
          cases due with
          | none =>
              cases delivered
              exact kept
          | some event =>
              have met := handled disarmed event switch now kept
              rw [Lifecycle.step] at met
              dsimp only at delivered
              cases answered : disarmed.handle clock event switch now with
              | error error => simp [answered, bind, Except.bind] at delivered
              | ok answer =>
                  rw [answered] at met
                  cases later : deliverDue clock now rounds answer.1 answer.2 with
                  | error error => simp [answered, later, bind, Except.bind] at delivered
                  | ok result =>
                      simp only [answered, later, bind, Except.bind, Except.ok.injEq,
                        Prod.mk.injEq] at delivered
                      apply ih met
                      rw [later, ← delivered.2.1, ← delivered.2.2]

/-- A poll takes the timers one by one and handles their events, and keeps what these keep. -/
theorem pollTimers_keeps {machine : Lifecycle} (holds : Invariant machine) (switch : σ)
    (now : Nat) : Invariant (machine.step clock (.pollTimers switch now)) := by
  rw [Lifecycle.step]
  split
  · next delivered => exact deliverDue_keeps taken handled holds delivered
  · exact holds

end Polls

/-- What a new lifecycle has and every call but a poll keeps, polls keep as well. -/
theorem Reachable.keeps
    (kept : ∀ (machine : Lifecycle) (call : LifecycleStep σ),
      (∀ switch now, call ≠ .pollTimers switch now) → Invariant machine →
        Invariant (machine.step clock call))
    {machine : Lifecycle} (reachable : machine.Reachable σ clock)
    (fresh : ∀ recovery modulation, Invariant (ofSettings recovery modulation)) :
    Invariant machine := by
  obtain ⟨recovery, modulation, steps, rfl⟩ := reachable
  induction steps using List.reverseRecOn with
  | nil => exact fresh recovery modulation
  | append_singleton steps call ih =>
      rw [run, List.foldl_append]
      by_cases polls : ∃ switch now, call = .pollTimers switch now
      · obtain ⟨switch, now, rfl⟩ := polls
        refine pollTimers_keeps ?_ ?_ ih switch now
        · exact fun machine now => kept machine (.takeExpired now) (by simp)
        · exact fun machine event switch now => kept machine (.handle event switch now) (by simp)
      · exact kept _ call (fun switch now same => polls ⟨switch, now, same⟩) ih

end Invariants

/-!
## Polls are never refused
-/

def IdleTimers (machine : Lifecycle) : Prop := machine.phase = .undefined → machine.timers = .empty

namespace IdleTimers

variable {machine : Lifecycle} (idle : machine.IdleTimers)
include idle

private theorem takeExpired (now : Nat) : (machine.takeExpired now).2.IdleTimers := by
  intro stopped
  have empty : machine.timers = .empty := idle stopped
  simp only [Lifecycle.takeExpired, empty]
  rfl

private theorem started_of_expired {now : Nat} {event : Event} {disarmed : Lifecycle}
    (expired : machine.takeExpired now = (some event, disarmed)) : disarmed.phase ≠ .undefined := by
  intro stopped
  have taken := congrArg (Lifecycle.phase ∘ Prod.snd) expired
  have empty : machine.timers = .empty := idle (taken.trans stopped)
  simp only [Lifecycle.takeExpired, empty] at expired
  cases expired

private theorem handle (event : Event) (switch : σ) (now : Nat) :
    (machine.step clock (.handle event switch now)).IdleTimers := by
  rcases step_handle machine event switch now with same | ⟨started, moved⟩
  · rw [same]
    exact idle
  · rw [moved]
    exact fun stopped => absurd stopped (transition_started clock event switch now started)

private theorem deliverDue (switch : σ) (now rounds : Nat) :
    ∃ answer, Lifecycle.deliverDue clock now rounds machine switch = .ok answer := by
  induction rounds generalizing machine switch with
  | zero => exact ⟨_, rfl⟩
  | succ rounds ih =>
      have kept := idle.takeExpired now
      unfold Lifecycle.deliverDue
      cases expired : machine.takeExpired now with
      | mk due disarmed =>
          rw [expired] at kept
          cases due with
          | none => exact ⟨_, rfl⟩
          | some event =>
              have started := idle.started_of_expired expired
              obtain ⟨answer, handled⟩ :
                  ∃ answer, disarmed.handle clock event switch now = .ok answer := by
                rw [Lifecycle.handle, if_neg started]
                split <;> exact ⟨_, rfl⟩
              have idleAfter := @IdleTimers.handle _ _ clock _ kept event switch now
              rw [Lifecycle.step, handled] at idleAfter
              obtain ⟨result, delivered⟩ := ih idleAfter answer.2
              exact ⟨_, by simp [handled, delivered, bind, Except.bind]; rfl⟩

end IdleTimers

theorem Reachable.idleTimers {machine : Lifecycle} (reachable : machine.Reachable σ clock) :
    machine.IdleTimers := by
  refine reachable.keeps ?_ (fun _ _ _ => rfl)
  intro machine call other idle
  cases call with
  | start switch =>
      have started : (machine.start switch).phase ≠ .undefined := (start_ready switch).started
      exact fun stopped => absurd stopped started
  | stop => exact fun _ => rfl
  | handle event switch now => exact idle.handle event switch now
  | pollTimers switch now => exact absurd rfl (other switch now)
  | takeExpired now => exact idle.takeExpired now
  | takeNotice => exact idle
  | configure settings =>
      simp only [Lifecycle.step, configure]
      cases settings.validate <;> exact idle
  | configureModulation settings =>
      simp only [Lifecycle.step, configureModulation]
      cases machine.modulation.configure settings <;> exact idle

/-- No poll is refused. -/
theorem Reachable.pollTimers_ok {machine : Lifecycle} (reachable : machine.Reachable σ clock)
    (switch : σ) (now : Nat) : ∃ answer, machine.pollTimers clock switch now = .ok answer :=
  reachable.idleTimers.deliverDue switch now _

end Lifecycle

/-!
## The lifecycle of a breaker
-/

namespace Breaker

variable {σ ζ μ κ : Type} [SwitchDriver σ] {clock : Clock}

/-- The lifecycle has been used the way any owner may use it. -/
structure Owns (clock : Clock) (breaker : Breaker σ ζ μ κ) : Prop where
  sameClock : breaker.clock = clock
  reachable : breaker.lifecycle.Reachable σ clock

namespace Owns

private theorem apply {before after : Breaker σ ζ μ κ} (owns : before.Owns clock)
    (session : before.InSession) {event : Event} {now : Nat}
    (applied : before.apply event now = .ok after) : after.Owns clock := by
  have reacts := session.reacts applied
  refine ⟨reacts.clock.trans owns.sameClock, ?_⟩
  have handled := (owns.reachable.step (.handle event before.switch now)).step .takeNotice
  rw [Lifecycle.step, Lifecycle.step, ← owns.sameClock, session.ready.handle_eq_respond] at handled
  rw [reacts.lifecycle, ← owns.sameClock]
  exact handled

private theorem disarm {before : Breaker σ ζ μ κ} (owns : before.Owns clock) {timer : TimerId}
    {now : Nat} (due : before.lifecycle.timers.firstDue now = some timer) :
    (before.disarm timer).Owns clock := by
  refine ⟨owns.sameClock, ?_⟩
  have taken := owns.reachable.step (.takeExpired now)
  rw [Lifecycle.step, Lifecycle.takeExpired, TimerBank.takeExpired, due] at taken
  exact taken

private theorem course {action : Action σ ζ μ κ} {now : Nat} {breaker final : Breaker σ ζ μ κ}
    {trail : List (Application σ ζ μ κ)} (course : Course action now breaker trail final)
    (session : breaker.InSession) (owns : breaker.Owns clock) : final.Owns clock := by
  induction course with
  | rest breaker => exact owns
  | aside monitor lastSeen later ih =>
      exact ih ⟨session.initialized, session.ready⟩ ⟨owns.sameClock, owns.reachable⟩
  | raise raised applied later ih =>
      exact ih (session.applied applied) (owns.apply session applied)
  | expire timer polling due applied later ih =>
      have inside := session.disarm timer
      exact ih (inside.applied applied) ((owns.disarm due).apply inside applied)

variable [Mains ζ] [Meter μ] [RecordStore κ]

omit [Meter μ] in
theorem init {breaker : Breaker σ ζ μ κ} (fresh : breaker.initialized = false) (now : Nat) :
    (breaker.init now).Owns breaker.clock := by
  obtain ⟨_, recovery, settings, same⟩ := init_fresh fresh now
  refine ⟨(init_of_fresh fresh now).2.1, ?_⟩
  rw [same]
  exact ⟨recovery, settings, [.start _], rfl⟩

theorem step {breaker : Breaker σ ζ μ κ} (owns : breaker.Owns clock)
    (known : breaker.initialized = true → breaker.InSession) (step : Step σ ζ μ κ) :
    (breaker.step step).Owns clock := by
  have taken := step_taken known step
  generalize breaker.applied step = trail at taken
  generalize breaker.step step = after at taken
  cases taken with
  | idle => exact owns
  | adjust adjustment =>
      refine ⟨(adjust_adjusted adjustment breaker).clock.trans owns.sameClock, ?_⟩
      rcases lifecycle_adjust adjustment breaker with same | ⟨settings, _, configured⟩ |
        ⟨settings, _, configured⟩
      · rw [same]
        exact owns.reachable
      · have changed := owns.reachable.step (.configure settings)
        rw [Lifecycle.step, configured] at changed
        exact changed
      · have changed := owns.reachable.step (.configureModulation settings)
        rw [Lifecycle.step, configured] at changed
        exact changed
  | begun now fresh => exact owns.sameClock ▸ Owns.init fresh now
  | ended session => exact ⟨owns.sameClock, owns.reachable.step .stop⟩
  | course session action now events => exact course events session owns

theorem run {start : Breaker σ ζ μ κ} (owns : start.Owns clock) (session : start.InSession)
    (actions : List (Action σ ζ μ κ)) : (start.run actions).Owns clock := by
  induction actions using List.reverseRecOn with
  | nil => exact owns
  | append_singleton actions action ih =>
      rw [run_concat]
      exact ih.step (fun _ => session.run actions) (.act action)

end Owns

variable [Mains ζ] [Meter μ] [RecordStore κ]

/-- However sessions begin, go on and end, a breaker uses its lifecycle the way any owner may. -/
theorem owns_history (clock : Clock) (switch : σ) (mains : ζ) (meter : μ) (store : κ)
    (steps : List (Step σ ζ μ κ)) :
    ((ofParts clock switch mains meter store).history steps).Owns clock := by
  induction steps using List.reverseRecOn with
  | nil => exact ⟨rfl, {}, {}, [], rfl⟩
  | append_singleton steps step ih =>
      rw [history_concat]
      exact ih.step (inSession_history rfl steps) step

end Breaker

end CircuitBreaker
