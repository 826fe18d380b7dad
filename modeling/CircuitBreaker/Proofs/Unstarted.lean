import CircuitBreaker.Proofs.Hearing

/-!
# Machines that are not started

A lifecycle that has not been started, or was stopped, refuses events and stays as it is. What it
drops on arrival it does not refuse, however, and a stop leaves the filter as the session had it: a
lifecycle stopped while it drops crossings goes on dropping them until the next start.
-/

set_option autoImplicit false

namespace CircuitBreaker

namespace Lifecycle

variable {σ : Type} [SwitchDriver σ] {clock : Clock} {machine : Lifecycle}

/-!
## Sessions begin with a start and end with a stop
-/

structure Stopped (filter : EventFilter) (machine : Lifecycle) : Prop where
  undefined : machine.phase = .undefined
  filter : machine.filter = filter

namespace Stopped

variable {filter : EventFilter} (stopped : machine.Stopped filter)
include stopped

theorem handle (event : Event) (switch : σ) (now : Nat) :
    (machine.step clock (.handle event switch now)).Stopped filter := by
  rcases step_handle machine event switch now with same | ⟨started, _⟩
  · rw [same]
    exact stopped
  · exact absurd stopped.undefined started

/-- Without a start a stopped lifecycle stays stopped, and its filter stays too. -/
theorem step {call : LifecycleStep σ} (other : ∀ switch, call ≠ .start switch) :
    (machine.step clock call).Stopped filter := by
  have aside := step_aside clock machine call
  cases call with
  | start switch => exact absurd rfl (other switch)
  | stop => exact ⟨rfl, stopped.filter⟩
  | handle event switch now => exact stopped.handle event switch now
  | pollTimers switch now =>
      refine pollTimers_keeps ?_ ?_ stopped switch now
      · exact fun machine now kept => ⟨kept.undefined, kept.filter⟩
      · exact fun machine event switch now kept => kept.handle event switch now
  | _ =>
      obtain ⟨phase, kept, _⟩ := aside trivial
      exact ⟨phase.trans stopped.undefined, kept.trans stopped.filter⟩

end Stopped

/-- Only a stop ends a session. -/
theorem step_of_started (started : machine.phase ≠ .undefined) {call : LifecycleStep σ}
    (other : call ≠ .stop) : (machine.step clock call).phase ≠ .undefined := by
  have handled (machine : Lifecycle) (event : Event) (switch : σ) (now : Nat)
      (started : machine.phase ≠ .undefined) :
      (machine.step clock (.handle event switch now)).phase ≠ .undefined := by
    rcases step_handle machine event switch now with same | ⟨_, moved⟩
    · rwa [same]
    · rw [moved]
      exact transition_started clock event switch now started
  have aside := step_aside clock machine call
  cases call with
  | start switch => exact (start_ready switch).started
  | stop => exact absurd rfl other
  | handle event switch now => exact handled machine event switch now started
  | pollTimers switch now =>
      exact pollTimers_keeps (fun _ _ holds => holds) handled started switch now
  | _ => exact (aside trivial).1 ▸ started

theorem run_concat (calls : List (LifecycleStep σ)) (call : LifecycleStep σ) :
    machine.run clock (calls ++ [call]) = (machine.run clock calls).step clock call :=
  List.foldl_append

variable (clock) in
/-- The last session has been stopped while it dropped crossings, and no other one has begun. -/
def StoppedDeaf (machine : Lifecycle) (calls : List (LifecycleStep σ)) : Prop :=
  ∃ session later, calls = session ++ .stop :: later ∧
    (∀ call ∈ later, ∀ switch, call ≠ .start switch) ∧
    (machine.run clock session).phase ≠ .undefined ∧
    (machine.run clock session).filter.isIgnored .zeroCrossing = true

namespace StoppedDeaf

variable {calls : List (LifecycleStep σ)}

theorem concat (deaf : machine.StoppedDeaf clock calls) {call : LifecycleStep σ}
    (other : ∀ switch, call ≠ .start switch) : machine.StoppedDeaf clock (calls ++ [call]) := by
  obtain ⟨session, later, rfl, none, begun, drops⟩ := deaf
  refine ⟨session, later ++ [call], by simp, ?_, begun, drops⟩
  intro each member
  rcases List.mem_append.mp member with before | last
  · exact none each before
  · rw [List.mem_singleton.mp last]
    exact other

/-- What the session dropped is dropped still. -/
theorem stopped (deaf : machine.StoppedDeaf clock calls) :
    ∃ filter, (machine.run clock calls).Stopped filter ∧
      filter.isIgnored .zeroCrossing = true := by
  obtain ⟨session, later, rfl, none, _, drops⟩ := deaf
  refine ⟨_, ?_, drops⟩
  induction later using List.reverseRecOn with
  | nil =>
      rw [run_concat]
      exact ⟨rfl, rfl⟩
  | append_singleton later call ih =>
      have kept := ih fun each member => none each (List.mem_append_left _ member)
      have other := none call (List.mem_append_right _ List.mem_cons_self)
      rw [← List.cons_append, ← List.append_assoc, run_concat]
      exact kept.step other

end StoppedDeaf

/-- A stopped lifecycle drops crossings exactly if the session before it did. -/
theorem stoppedDeaf_iff (hears : machine.filter.isIgnored .zeroCrossing = false)
    (calls : List (LifecycleStep σ)) :
    machine.StoppedDeaf clock calls ↔
      (machine.run clock calls).phase = .undefined ∧
        (machine.run clock calls).filter.isIgnored .zeroCrossing = true := by
  constructor
  · intro deaf
    obtain ⟨filter, stopped, drops⟩ := deaf.stopped
    exact ⟨stopped.undefined, stopped.filter ▸ drops⟩
  · rintro ⟨undefined, drops⟩
    induction calls using List.reverseRecOn with
    | nil => exact absurd drops (by simp [run, hears])
    | append_singleton calls call ih =>
        rw [run_concat] at undefined drops
        by_cases before : (machine.run clock calls).phase = .undefined
        · have other : ∀ switch, call ≠ .start switch := by
            rintro switch rfl
            exact (start_ready switch).started undefined
          have stopped : (machine.run clock calls).Stopped (machine.run clock calls).filter :=
            ⟨before, rfl⟩
          have same : ((machine.run clock calls).step clock call).filter =
              (machine.run clock calls).filter := (stopped.step other).filter
          exact (ih before (same ▸ drops)).concat other
        · have stop : call = .stop := by
            by_contra other
            exact step_of_started before other undefined
          subst stop
          exact ⟨calls, [], rfl, by simp, before, drops⟩

/-!
## Refusals
-/

theorem handle_refused_iff (event : Event) (switch : σ) (now : Nat) :
    machine.handle clock event switch now = .error .notStarted ↔
      machine.phase = .undefined ∧ machine.filter.isIgnored event = false := by
  unfold handle
  cases machine.filter.isIgnored event with
  | true => simp
  | false =>
      by_cases undefined : machine.phase = .undefined <;> simp [undefined]

theorem underway_of_undefined (undefined : machine.phase = .undefined) (event : Event) (switch : σ)
    (now count : Nat) : machine.underway clock event switch now count = (machine, switch) := by
  have idle : machine.effects clock event switch now = [] := by
    unfold effects line
    simp only [undefined, ite_self]
  unfold underway
  rw [idle]
  simp [Effect.performAll]

variable (clock)

theorem run_refused_iff (recovery : RecoverySettings) (modulation : ModulationSettings)
    (calls : List (LifecycleStep σ)) (event : Event) (switch : σ) (now : Nat) :
    ((ofSettings recovery modulation).run clock calls).handle clock event switch now =
        .error .notStarted ↔
      ((ofSettings recovery modulation).run clock calls).phase = .undefined ∧
        ¬ (event = .zeroCrossing ∧ (ofSettings recovery modulation).StoppedDeaf clock calls) := by
  have reachable : ((ofSettings recovery modulation).run clock calls).Reachable σ clock :=
    ⟨recovery, modulation, calls, rfl⟩
  rw [handle_refused_iff, stoppedDeaf_iff (by simp [ofSettings])]
  constructor
  · rintro ⟨undefined, heard⟩
    refine ⟨undefined, ?_⟩
    rintro ⟨rfl, _, drops⟩
    exact Bool.false_ne_true (heard.symm.trans drops)
  · rintro ⟨undefined, spared⟩
    refine ⟨undefined, Bool.eq_false_iff.mpr ?_⟩
    intro drops
    obtain rfl := reachable.attentive.others event drops
    exact spared ⟨rfl, undefined, drops⟩

/-- A lifecycle that is not started refuses every event, but for crossings where the last session
has been stopped while it dropped them. Whether it refuses or drops an event, it stays as it is, and
so does its switch. -/
theorem refuses_iff_undefined (recovery : RecoverySettings) (modulation : ModulationSettings)
    (calls : List (LifecycleStep σ)) (switch : σ) (now : Nat) :
    let fresh := ofSettings recovery modulation
    let machine := fresh.run clock calls
    (∀ event, machine.handle clock event switch now = .error .notStarted ↔
      machine.phase = .undefined ∧ ¬ (event = .zeroCrossing ∧ fresh.StoppedDeaf clock calls)) ∧
    ((∀ event, machine.handle clock event switch now = .error .notStarted ↔
      machine.phase = .undefined) ↔ ¬ fresh.StoppedDeaf clock calls) ∧
    (machine.phase = .undefined → ∀ event,
      (machine.handle clock event switch now = .error .notStarted ∨
        machine.handle clock event switch now = .ok (machine, switch)) ∧
      ∀ count, machine.underway clock event switch now count = (machine, switch)) := by
  intro fresh machine
  have refused (event : Event) := run_refused_iff clock recovery modulation calls event switch now
  refine ⟨refused, ⟨?_, ?_⟩, ?_⟩
  · intro always deaf
    obtain ⟨_, stopped, _⟩ := deaf.stopped
    have crossing := (always .zeroCrossing).mpr stopped.undefined
    exact ((refused .zeroCrossing).mp crossing).2 ⟨rfl, deaf⟩
  · intro hearing event
    rw [refused event]
    exact and_iff_left fun dropped => hearing dropped.2
  · intro undefined event
    refine ⟨?_, underway_of_undefined undefined event switch now⟩
    cases drops : machine.filter.isIgnored event with
    | true => exact .inr (if_pos drops)
    | false => exact .inl ((handle_refused_iff event switch now).mpr ⟨undefined, drops⟩)

open Bench

def stoppedClosed : List (LifecycleStep ScriptedSwitch) := [.start { on := true }, .stop]

theorem refuses_iff_undefined_closed :
    let machine := (ofSettings {} {}).run .micros stoppedClosed
    ∀ event, machine.handle .micros event ({} : ScriptedSwitch) 0 = .error .notStarted ∧
      ∀ count, machine.underway .micros event ({} : ScriptedSwitch) 0 count = (machine, {}) := by
  intro machine event
  obtain ⟨refused, _, unchanged⟩ :=
    refuses_iff_undefined .micros {} {} stoppedClosed ({} : ScriptedSwitch) 0
  have undefined : machine.phase = .undefined := rfl
  refine ⟨(refused event).mpr ⟨undefined, ?_⟩, (unchanged undefined event).2⟩
  rintro ⟨_, deaf⟩
  have drops := ((stoppedDeaf_iff rfl stoppedClosed).mp deaf).2
  exact absurd drops (by decide)

/-- After a session with an open switch a crossing is accepted, and an open command is refused. -/
theorem unrefused_after_stop :
    let machine := (ofSettings {} {}).run .micros [.start ({} : ScriptedSwitch), .stop]
    machine.phase = .undefined ∧
      machine.handle .micros .zeroCrossing ({} : ScriptedSwitch) 0 = .ok (machine, {}) ∧
      machine.handle .micros .openCommand ({} : ScriptedSwitch) 0 = .error .notStarted := by
  exact ⟨rfl, rfl, rfl⟩

end Lifecycle

end CircuitBreaker
