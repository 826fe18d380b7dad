import CircuitBreaker.Monitor

/-!
# Facts about the monitor

When the ticks due at an instant can trip, and when the next one is due after them.
-/

set_option autoImplicit false

namespace CircuitBreaker

theorem Clock.after_mono (clock : Clock) {first second : Nat} (ordered : first ≤ second)
    (wait : Nat) : clock.after first wait ≤ clock.after second wait := by
  unfold Clock.after
  omega

namespace Monitor

/-- No tick trips a breaker that is not closed. -/
theorem runFrom_of_not_closed (clock : Clock) (now : Nat) (current : UInt32)
    (points : List CurvePoint) (deadline : Nat) (spent : SpentTimes) :
    (runFrom clock now current points false deadline spent).1 = none := by
  fun_induction runFrom clock now current points false deadline spent with
  | case1 => rfl
  | case2 _ _ _ _ _ evaluated => simp [SpentTimes.evaluate] at evaluated
  | case3 _ _ _ _ _ _ ih => exact ih
  | case4 => rfl

theorem runDue_of_not_closed (monitor : Monitor) (clock : Clock) (now : Nat)
    (current : UInt32) (points : List CurvePoint) :
    (monitor.runDue clock now current points false).1 = none := by
  unfold runDue
  split
  · rfl
  · exact runFrom_of_not_closed clock now current points _ monitor.spent

/-- Ticks stop with a trip and go on otherwise. The next one is among `ticks` if the first one is,
and with each that is due the one an interval later. -/
theorem runFrom_nextTick (clock : Clock) (now : Nat) (current : UInt32)
    (points : List CurvePoint) (closed : Bool) {ticks : Nat → Prop}
    (next : ∀ due ≤ now, ticks due → ticks (clock.after due interval)) (deadline : Nat)
    (spent : SpentTimes) (among : ticks deadline) :
    ((runFrom clock now current points closed deadline spent).1.isSome ∧
        (runFrom clock now current points closed deadline spent).2.nextTick = none) ∨
      ∃ tick, (runFrom clock now current points closed deadline spent).2.nextTick = some tick ∧
        (runFrom clock now current points closed deadline spent).1 = none ∧ ticks tick := by
  fun_induction runFrom clock now current points closed deadline spent with
  | case1 deadline => exact .inr ⟨deadline, rfl, rfl, among⟩
  | case2 => exact .inl ⟨rfl, rfl⟩
  | case3 deadline _ due _ _ _ ih => exact ih (next deadline (Nat.le_of_not_lt due) among)
  | case4 deadline _ due =>
      exact .inr ⟨_, rfl, rfl, next deadline (Nat.le_of_not_lt due) among⟩

/-- A trip stops the monitor. Other ticks leave it running or stopped, as it was. -/
theorem runDue_nextTick (monitor : Monitor) (clock : Clock) (now : Nat) (current : UInt32)
    (points : List CurvePoint) (closed : Bool) {ticks : Nat → Prop}
    (next : ∀ due ≤ now, ticks due → ticks (clock.after due interval))
    (among : ∀ tick, monitor.nextTick = some tick → ticks tick) :
    ((monitor.runDue clock now current points closed).1.isSome = true ∧
        (monitor.runDue clock now current points closed).2.nextTick = none) ∨
      (monitor.runDue clock now current points closed).1 = none ∧
        (monitor.runDue clock now current points closed).2.isRunning = monitor.isRunning ∧
        ∀ tick, (monitor.runDue clock now current points closed).2.nextTick = some tick →
          ticks tick := by
  unfold runDue
  cases scheduled : monitor.nextTick with
  | none => exact .inr ⟨rfl, rfl, among⟩
  | some deadline =>
      rcases runFrom_nextTick clock now current points closed next deadline monitor.spent
        (among deadline scheduled) with tripped | ⟨later, found, quiet, kept⟩
      · exact .inl tripped
      · refine .inr ⟨quiet, by simp [isRunning, found, scheduled], fun tick due => ?_⟩
        exact Option.some.inj (found.symm.trans due) ▸ kept

end Monitor

end CircuitBreaker
