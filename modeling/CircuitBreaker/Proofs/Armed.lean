import CircuitBreaker.Proofs.Schedule

/-!
# Curve protection

Whether the monitor watches the current, over any number of sessions. Instants never
decrease; the switch, the readings and the store may do anything.
-/

set_option autoImplicit false

namespace CircuitBreaker

def latestInstant {σ ζ μ κ : Type} (steps : List (Step σ ζ μ κ)) : Option Nat :=
  (steps.filterMap Step.instant?).getLast?

namespace Breaker

open Bench

variable {σ ζ μ κ : Type}

/-- The monitor runs unless the breaker is open or on the way there, and its next tick
is due within one interval of the latest instant. -/
structure Armed (breaker : Breaker σ ζ μ κ) (latest : Option Nat) : Prop where
  watched : breaker.initialized = true →
    breaker.monitor.isRunning = true ∨ breaker.lifecycle.phase.IsOpening
  soon : ∀ tick, breaker.monitor.nextTick = some tick →
    ∃ instant, latest = some instant ∧ tick ≤ breaker.clock.after instant Monitor.interval

namespace Armed

variable {before : Breaker σ ζ μ κ} {latest : Option Nat}

/-- Time alone keeps a breaker armed. -/
theorem later (armed : before.Armed latest) (next : Option Nat)
    (ordered : ∀ instant now, latest = some instant → next = some now → instant ≤ now) :
    before.Armed (next.or latest) where
  watched := armed.watched
  soon tick due := by
    obtain ⟨instant, seen, soon⟩ := armed.soon tick due
    cases next with
    | none => exact ⟨instant, seen, soon⟩
    | some now =>
        refine ⟨now, rfl, Nat.le_trans soon ?_⟩
        exact before.clock.after_mono (ordered instant now seen rfl) Monitor.interval

private theorem scheduled (armed : before.Armed latest) :
    before.Scheduled before.clock fun tick =>
      ∃ instant, latest = some instant ∧ tick ≤ before.clock.after instant Monitor.interval :=
  ⟨rfl, armed.watched, armed.soon⟩

theorem step [SwitchDriver σ] [Mains ζ] [Meter μ] [RecordStore κ]
    (known : before.initialized = true → before.InSession) (armed : before.Armed latest)
    (step : Step σ ζ μ κ)
    (ordered : ∀ instant now, latest = some instant → step.instant? = some now → instant ≤ now) :
    (before.step step).Armed (step.instant?.or latest) := by
  have scheduled : (before.step step).Scheduled before.clock fun tick => ∃ instant,
      step.instant?.or latest = some instant ∧
        tick ≤ before.clock.after instant Monitor.interval := by
    cases starts : before.monitorStart? step with
    | some now =>
        refine .of_monitorStart known rfl starts ⟨now, ?_, Nat.le_refl _⟩
        rw [instant_of_monitorStart starts]
        rfl
    | none =>
        refine (armed.later step.instant? ordered).scheduled.step known starts ?_
        rintro now rfl due within _
        exact ⟨now, rfl, before.clock.after_mono within Monitor.interval⟩
  obtain ⟨clock, watched, among⟩ := scheduled
  exact ⟨watched, clock ▸ among⟩

end Armed

/-- However sessions begin, go on and end, the curve protects a breaker that is not open
or on the way there, and the monitor never waits for longer than one interval. -/
theorem armed_history [SwitchDriver σ] [Mains ζ] [Meter μ] [RecordStore κ] (clock : Clock)
    (switch : σ) (mains : ζ) (meter : μ) (store : κ) (steps : List (Step σ ζ μ κ))
    (ordered : (steps.filterMap Step.instant?).Pairwise (· ≤ ·)) :
    ((ofParts clock switch mains meter store).history steps).Armed (latestInstant steps) := by
  induction steps using List.reverseRecOn with
  | nil =>
      constructor
      · intro session
        cases session
      · intro tick due
        cases due
  | append_singleton steps step ih =>
      rw [List.filterMap_append, List.pairwise_append] at ordered
      obtain ⟨earlier, _, between⟩ := ordered
      have latest : latestInstant (steps ++ [step]) = step.instant?.or (latestInstant steps) := by
        cases told : step.instant? <;> simp [latestInstant, told]
      rw [history_concat, latest]
      apply (ih earlier).step (inSession_history rfl steps)
      intro instant now seen told
      exact between instant (List.mem_of_getLast? seen) now (by simp [told])

theorem armed_history_closed :
    ((bench {} {}).history (session closed)).initialized = true ∧
      ((bench {} {}).history (session closed)).Armed (some 200000) := by
  refine ⟨by decide +kernel, ?_⟩
  apply armed_history
  decide

end Breaker

end CircuitBreaker
