/-!
# Steppers

A machine that takes one item after the other and answers each.
-/

set_option autoImplicit false

namespace CircuitBreaker

variable {σ α β : Type}

/-- Runs a machine with the answers so far, newest first. -/
def runOnto (step : σ → α → β × σ) : List α → σ → List β → List β × σ
  | [], state, answers => (answers.reverse, state)
  | item :: rest, state, answers =>
      let (answer, state) := step state item
      runOnto step rest state (answer :: answers)

/-- The answers of a machine to a row of items, and the state that it ends in. -/
def runAll (step : σ → α → β × σ) (items : List α) (state : σ) : List β × σ :=
  runOnto step items state []

/-- The answers that there are, each with the place of its item. -/
def runPlaces (step : σ → α → Option β × σ) (items : List α) (state : σ) :
    List (Nat × β) × σ :=
  let (answers, state) := runAll step items state
  (answers.zipIdx.filterMap fun (answer, place) => answer.map fun value => (place, value), state)

theorem runOnto_eq (step : σ → α → β × σ) (items : List α) (state : σ) (answers : List β) :
    runOnto step items state answers =
      (answers.reverse ++ (runAll step items state).1, (runAll step items state).2) := by
  induction items generalizing state answers with
  | nil => simp [runOnto, runAll]
  | cons item rest ih =>
      simp only [runAll, runOnto]
      rw [ih, ih (step state item).2 [(step state item).1]]
      simp

/-- Running a machine on two rows is running it on one after the other. -/
theorem runAll_append (step : σ → α → β × σ) (first second : List α) (state : σ) :
    runAll step (first ++ second) state =
      ((runAll step first state).1 ++ (runAll step second (runAll step first state).2).1,
        (runAll step second (runAll step first state).2).2) := by
  induction first generalizing state with
  | nil => simp [runAll, runOnto]
  | cons item rest ih =>
      simp only [List.cons_append, runAll, runOnto] at ih ⊢
      rw [runOnto_eq, runOnto_eq step rest]
      simp only [runAll, ih]
      simp

end CircuitBreaker
