import CircuitBreaker.Board.PowerStage
import CircuitBreaker.Proofs.Run
import Mathlib.Data.List.Infix

/-!
# Self-tests

A self-test raises the line of its direction, and only a command to the switch that is carried out
lowers the lines again: neither the end of the test nor the start of another one does. So the two
lines are high together exactly where a test in each direction has been started since.
-/

set_option autoImplicit false

namespace CircuitBreaker.Board

inductive StageInput where
  | turnOn
  | turnOff
  | startTest (direction : TestDirection)
  | edge (high : Bool)
  | measured (temperatures : Temperatures)
deriving DecidableEq, Repr

/-!
## Lines
-/

/-- The level of an output line after some writes, newest first; it starts low. -/
def levelAfter (writes : List LineWrite) (line : ControlLine) : Bool :=
  (writtenLevel writes line).getD false

theorem levelAfter_cons (write : LineWrite) (writes : List LineWrite) (line : ControlLine) :
    levelAfter (write :: writes) line =
      if write.line = line then write.high else levelAfter writes line := by
  unfold levelAfter writtenLevel
  rw [List.find?_cons]
  by_cases same : write.line = line <;> simp [same]

/-- After some writes, newest first, a self-test is driven in both directions. -/
def BothDriven (writes : List LineWrite) : Prop :=
  ∀ direction, levelAfter writes (.ofDirection direction) = true

/-- At no moment in the course of some writes is a self-test driven in both directions. -/
def NeverBoth (writes : List LineWrite) : Prop :=
  ∀ moment, moment <:+ writes → ¬ BothDriven moment

theorem neverBoth_cons (write : LineWrite) (writes : List LineWrite) :
    NeverBoth (write :: writes) ↔ ¬ BothDriven (write :: writes) ∧ NeverBoth writes := by
  simp [NeverBoth, List.suffix_cons_iff, or_imp, forall_and]

/-- A write that lowers a test line, or goes to another line, leaves things as they are. -/
theorem neverBoth_cons_of_spared {write : LineWrite} {writes : List LineWrite}
    (spared : write.high = true → ∀ direction, write.line ≠ .ofDirection direction) :
    NeverBoth (write :: writes) ↔ NeverBoth writes := by
  rw [neverBoth_cons, and_iff_right_iff_imp]
  intro never both
  apply never writes (List.suffix_refl writes)
  intro direction
  have driven := both direction
  rw [levelAfter_cons] at driven
  split at driven
  · next same => exact absurd same (spared driven direction)
  · exact driven

/-- Writes to other lines leave the test lines as they are. -/
def ToOthers (writes : List LineWrite) : Prop :=
  ∀ write ∈ writes, ∀ direction, write.line ≠ .ofDirection direction

theorem levelAfter_others {others : List LineWrite} (apart : ToOthers others)
    (writes : List LineWrite) (direction : TestDirection) :
    levelAfter (others ++ writes) (.ofDirection direction) =
      levelAfter writes (.ofDirection direction) := by
  induction others with
  | nil => rfl
  | cons write others ih =>
      obtain ⟨other, apart⟩ := List.forall_mem_cons.mp apart
      rw [List.cons_append, levelAfter_cons, if_neg (other direction), ih apart]

theorem neverBoth_others {others : List LineWrite} (apart : ToOthers others)
    (writes : List LineWrite) : NeverBoth (others ++ writes) ↔ NeverBoth writes := by
  induction others with
  | nil => rfl
  | cons write others ih =>
      obtain ⟨other, apart⟩ := List.forall_mem_cons.mp apart
      rw [List.cons_append, neverBoth_cons_of_spared fun _ => other, ih apart]

theorem ofDirection_inj {direction other : TestDirection} :
    ControlLine.ofDirection direction = .ofDirection other ↔ direction = other := by
  cases direction <;> cases other <;> decide

theorem eq_or_opposite (direction other : TestDirection) :
    direction = other ∨ direction.opposite = other := by
  cases direction <;> cases other <;> simp [TestDirection.opposite]

/-- A test line that is raised meets the other one. -/
theorem bothDriven_raised (direction : TestDirection) (writes : List LineWrite) :
    BothDriven (⟨.ofDirection direction, true⟩ :: writes) ↔
      levelAfter writes (.ofDirection direction.opposite) = true := by
  have different : direction ≠ direction.opposite := by cases direction <;> decide
  simp only [BothDriven, levelAfter_cons, ofDirection_inj]
  constructor
  · intro both
    simpa [different] using both direction.opposite
  · intro opposite other
    rcases eq_or_opposite direction other with rfl | rfl
    · simp
    · simpa [different] using opposite

namespace PowerStage

def meet (stage : PowerStage) : StageInput → PowerStage
  | .turnOn => stage.turnOn.2
  | .turnOff => stage.turnOff
  | .startTest direction =>
      match stage.startTest direction with
      | .ok stage => stage
      | .error _ => stage
  | .edge high => stage.takeEdge high
  | .measured temperatures => { stage with temperatures }

def run (stage : PowerStage) (inputs : List StageInput) : PowerStage := inputs.foldl meet stage

theorem run_concat (stage : PowerStage) (inputs : List StageInput) (input : StageInput) :
    stage.run (inputs ++ [input]) = (stage.run inputs).meet input := by
  rw [run, List.foldl_append]
  rfl

/-- The input starts a self-test in this direction. -/
def Starts (stage : PowerStage) (direction : TestDirection) : StageInput → Prop
  | .startTest other => other = direction ∧ stage.conducting = true
  | _ => False

/-- The input is a command to the switch that is carried out. -/
def Releases (stage : PowerStage) : StageInput → Prop
  | .turnOn => stage.conducting = false ∧ stage.temperatures.closingRefusal = none
  | .turnOff => True
  | _ => False

/-!
## One input
-/

variable (stage : PowerStage) (input : StageInput)

inductive Drives (after : PowerStage) : Prop where
  | release (carried : stage.Releases input) (ended : after.testActive = false)
      (others : List LineWrite) (apart : ToOthers others)
      (writes : after.writes = others ++ stage.releaseTest.writes)
  | raise (direction : TestDirection) (spares : ¬ stage.Releases input)
      (starts : ∀ other, stage.Starts other input ↔ direction = other)
      (writes : after.writes = ⟨.ofDirection direction, true⟩ :: stage.writes)
  | keep (spares : ¬ stage.Releases input) (unstarted : ∀ direction, ¬ stage.Starts direction input)
      (writes : after.writes = stage.writes)
      (active : after.testActive = true → stage.testActive = true)

variable {input} in
theorem unstarted_of_releases (carried : stage.Releases input) (direction : TestDirection) :
    ¬ stage.Starts direction input := by
  cases input with
  | startTest other => exact carried.elim
  | _ => exact id

private theorem drives_turnOn : stage.Drives .turnOn (stage.meet .turnOn) := by
  by_cases carried : stage.Releases .turnOn
  · obtain ⟨interrupts, permitted⟩ := carried
    have closed : stage.meet .turnOn = stage.releaseTest.resetProtection.command true := by
      simp [meet, turnOn, interrupts, permitted]
    rw [closed]
    refine .release ⟨interrupts, permitted⟩ rfl
      [⟨.onCommand, true⟩, ⟨.protectionReset, false⟩, ⟨.protectionReset, true⟩] ?_ rfl
    intro write member direction
    cases direction <;> revert write <;> decide
  · obtain ⟨cause, same⟩ : ∃ cause, stage.turnOn.2 = { stage with cause } := by
      unfold turnOn
      split
      · exact ⟨stage.cause, rfl⟩
      · next interrupts =>
        split
        · next cause _ => exact ⟨cause, rfl⟩
        · next permitted => exact absurd ⟨Bool.eq_false_iff.mpr interrupts, permitted⟩ carried
    rw [meet, same]
    exact .keep carried (fun _ => id) rfl id

private theorem drives_startTest (direction : TestDirection) :
    stage.Drives (.startTest direction) (stage.meet (.startTest direction)) := by
  by_cases conducts : stage.conducting = true
  · have raised : stage.meet (.startTest direction) =
        { stage.drive (.ofDirection direction) true with testActive := true } := by
      simp [meet, startTest, conducts]
    rw [raised]
    exact .raise direction id (fun _ => and_iff_left conducts) rfl
  · have refused : stage.meet (.startTest direction) = stage := by
      simp [meet, startTest, conducts]
    rw [refused]
    exact .keep id (fun _ starts => conducts starts.2) rfl id

theorem drives_meet : stage.Drives input (stage.meet input) := by
  cases input with
  | turnOn => exact stage.drives_turnOn
  | turnOff =>
      refine .release trivial rfl [⟨.onCommand, false⟩] ?_ rfl
      intro write member direction
      cases direction <;> revert write <;> decide
  | startTest direction => exact stage.drives_startTest direction
  | edge high =>
      cases high with
      | true => exact .keep id (fun _ => id) rfl id
      | false => exact .keep id (fun _ => id) rfl nofun
  | measured temperatures => exact .keep id (fun _ => id) rfl id

theorem neverBoth_releaseTest : NeverBoth stage.releaseTest.writes ↔ NeverBoth stage.writes := by
  have lowered (line : ControlLine) (writes : List LineWrite) :
      NeverBoth (⟨line, false⟩ :: writes) ↔ NeverBoth writes :=
    neverBoth_cons_of_spared fun raised => nomatch raised
  exact (lowered .negativeTest _).trans (lowered .positiveTest _)

theorem levelAfter_releaseTest (direction : TestDirection) :
    levelAfter stage.releaseTest.writes (.ofDirection direction) = false := by
  cases direction <;> rfl

/-- A test line is high after an input that starts a test in its direction, and after one that
does not release the lines if it was high before. -/
theorem level_meet (direction : TestDirection) :
    (stage.meet input).level (.ofDirection direction) = true ↔
      ¬ stage.Releases input ∧
        (stage.Starts direction input ∨ stage.level (.ofDirection direction) = true) := by
  show levelAfter _ _ = true ↔ ¬ _ ∧ (_ ∨ levelAfter _ _ = true)
  cases stage.drives_meet input with
  | release carried ended others apart writes =>
      simp [writes, levelAfter_others apart, levelAfter_releaseTest, carried]
  | raise raised spares starts writes =>
      simp [writes, levelAfter_cons, ofDirection_inj, spares, starts]
  | keep spares unstarted writes active => simp [writes, spares, unstarted direction]

/-- An input that never drives the test lines together leaves it to the one that starts a test to
drive them so, if the other line is high. -/
theorem neverBoth_meet :
    NeverBoth (stage.meet input).writes ↔
      NeverBoth stage.writes ∧ ∀ direction, stage.Starts direction input →
        stage.level (.ofDirection direction.opposite) = false := by
  cases stage.drives_meet input with
  | release carried ended others apart writes =>
      rw [writes, neverBoth_others apart, neverBoth_releaseTest]
      refine (and_iff_left ?_).symm
      exact fun direction starts => absurd starts (stage.unstarted_of_releases carried direction)
  | raise direction spares starts writes =>
      rw [writes, neverBoth_cons, bothDriven_raised, and_comm]
      simp [starts, level, levelAfter]
  | keep spares unstarted writes active =>
      rw [writes]
      exact (and_iff_left fun direction starts => absurd starts (unstarted direction)).symm

/-- Only the start of a test sets the mark of one, and it raises a line. No input lowers a line and
leaves the mark. -/
theorem active_meet
    (held : stage.testActive = true →
      ∃ direction, stage.level (.ofDirection direction) = true)
    (active : (stage.meet input).testActive = true) :
    ∃ direction, (stage.meet input).level (.ofDirection direction) = true := by
  cases stage.drives_meet input with
  | release carried ended others apart writes => cases ended.symm.trans active
  | raise direction spares starts writes =>
      exact ⟨direction, (level_meet stage input direction).mpr ⟨spares, .inl ((starts _).mpr rfl)⟩⟩
  | keep spares unstarted writes marked =>
      obtain ⟨direction, high⟩ := held (marked active)
      exact ⟨direction, (level_meet stage input direction).mpr ⟨spares, .inr high⟩⟩

/-!
## Runs
-/

section Runs

variable (start : PowerStage) (inputs : List StageInput) (direction : TestDirection)

/-- A self-test in this direction has been started, and no command that was carried out has released
the test lines since. -/
def Unreleased : Prop :=
  ∃ before after, inputs = before ++ .startTest direction :: after ∧
    (start.run before).conducting = true ∧
    Throughout meet (fun stage input => ¬ stage.Releases input)
      (start.run (before ++ [.startTest direction])) after

theorem unreleased_concat (input : StageInput) :
    start.Unreleased (inputs ++ [input]) direction ↔
      ¬ (start.run inputs).Releases input ∧
        ((start.run inputs).Starts direction input ∨ start.Unreleased inputs direction) := by
  constructor
  · rintro ⟨before, after, same, conducts, spares⟩
    rcases List.eq_nil_or_concat after with rfl | ⟨after, last, rfl⟩
    · obtain ⟨rfl, given⟩ := List.append_inj' same rfl
      cases given
      exact ⟨id, .inl ⟨rfl, conducts⟩⟩
    · rw [List.concat_eq_append, ← List.cons_append, ← List.append_assoc] at same
      obtain ⟨rfl, given⟩ := List.append_inj' same rfl
      cases given
      rw [List.concat_eq_append, throughout_append] at spares
      obtain ⟨spares, kept, _⟩ := spares
      refine ⟨?_, .inr ⟨before, after, rfl, conducts, spares⟩⟩
      simpa [run] using kept
  · rintro ⟨kept, starts | ⟨before, after, rfl, conducts, spares⟩⟩
    · cases input with
      | startTest other =>
          obtain ⟨rfl, conducts⟩ := starts
          exact ⟨inputs, [], rfl, conducts, trivial⟩
      | _ => exact starts.elim
    · refine ⟨before, after ++ [input], by simp, conducts, ?_⟩
      rw [throughout_append]
      refine ⟨spares, ?_, trivial⟩
      simpa [run] using kept

variable {start} (low : start.writes = [])
include low

/-- A test line is high as long as a test in its direction has not been released. -/
theorem level_run :
    (start.run inputs).level (.ofDirection direction) = true ↔
      start.Unreleased inputs direction := by
  induction inputs using List.reverseRecOn with
  | nil =>
      have silent : start.level (.ofDirection direction) = false := by
        rw [level, low]
        rfl
      constructor
      · intro high
        cases silent.symm.trans high
      · rintro ⟨before, after, same, _⟩
        simp at same
  | append_singleton inputs input ih => rw [run_concat, level_meet, unreleased_concat, ih]

theorem neverBoth_run :
    NeverBoth (start.run inputs).writes ↔
      ∀ before direction, before ++ [.startTest direction] <+: inputs →
        (start.run before).conducting = true → ¬ start.Unreleased before direction.opposite := by
  induction inputs using List.reverseRecOn with
  | nil =>
      rw [run, List.foldl_nil, low]
      constructor
      · intro _ before direction within
        simp at within
      · intro _ moment within both
        rw [List.suffix_nil.mp within] at both
        cases both .positive
  | append_singleton inputs input ih =>
      rw [run_concat, neverBoth_meet, ih]
      constructor
      · rintro ⟨apart, lowered⟩ before direction within conducts unreleased
        rcases List.prefix_concat_iff.mp within with same | earlier
        · obtain ⟨rfl, given⟩ := List.append_inj' same rfl
          cases given
          have high := (level_run before direction.opposite low).mpr unreleased
          exact Bool.false_ne_true ((lowered direction ⟨rfl, conducts⟩).symm.trans high)
        · exact apart before direction earlier conducts unreleased
      · intro apart
        refine ⟨fun before direction within => ?_, fun direction starts => ?_⟩
        · exact apart before direction (within.trans (List.prefix_append _ _))
        · cases input with
          | startTest other =>
              obtain ⟨rfl, conducts⟩ := starts
              rw [← Bool.not_eq_true, level_run inputs _ low]
              exact apart inputs other (List.prefix_refl _) conducts
          | _ => exact starts.elim

end Runs

/-- From low lines on, the lines of the two directions are never high together exactly if no test is
started in one direction while one in the other direction has not been released. The mark of a
running test is set only while one of the lines is high. -/
theorem driven_apart_iff {start : PowerStage} (low : start.writes = [])
    (idle : start.testActive = false) (inputs : List StageInput) :
    (NeverBoth (start.run inputs).writes ↔
        ∀ before direction, before ++ [.startTest direction] <+: inputs →
          (start.run before).conducting = true → ¬ start.Unreleased before direction.opposite) ∧
      ((start.run inputs).testActive = true →
        (start.run inputs).level .positiveTest = true ∨
          (start.run inputs).level .negativeTest = true) := by
  refine ⟨neverBoth_run inputs low, ?_⟩
  have held : (start.run inputs).testActive = true →
      ∃ direction, (start.run inputs).level (.ofDirection direction) = true := by
    induction inputs using List.reverseRecOn with
    | nil =>
        intro active
        cases idle.symm.trans active
    | append_singleton inputs input ih =>
        rw [run_concat]
        exact active_meet _ input ih
  intro active
  obtain ⟨direction, high⟩ := held active
  cases direction with
  | positive => exact .inl high
  | negative => exact .inr high

/-- A test that opens the switch, and one in the other direction after the next close. -/
def testedApart : List StageInput :=
  [.turnOn, .edge true, .startTest .positive, .edge false, .turnOn, .edge true,
    .startTest .negative]

/-- The close between the two tests lowers both lines. -/
theorem driven_apart_closed :
    NeverBoth (run {} testedApart).writes ∧ (run {} testedApart).testActive = true ∧
      (run {} testedApart).level .negativeTest = true := by
  have lowered : ∀ taken ∈ testedApart.inits, ∀ direction ∈ [TestDirection.positive, .negative],
      taken.getLast? = some (.startTest direction) →
        (run {} taken.dropLast).level (.ofDirection direction.opposite) = false := by
    decide +kernel
  refine ⟨(driven_apart_iff rfl rfl testedApart).1.mpr ?_, by decide +kernel, by decide +kernel⟩
  intro before direction within conducts unreleased
  have high := (level_run before direction.opposite rfl).mpr unreleased
  have low := lowered _ ((List.mem_inits _ _).mpr within) direction (by cases direction <;> simp)
    List.getLast?_concat
  rw [List.dropLast_concat] at low
  exact Bool.false_ne_true (low.symm.trans high)

/-- A test that fails to open the switch leaves its line high, and the next one in the other
direction raises the other line beside it. -/
theorem driven_together :
    let stage := run {} [.turnOn, .edge true, .startTest .positive, .startTest .negative]
    stage.level .positiveTest = true ∧ stage.level .negativeTest = true := by
  decide +kernel

end PowerStage

end CircuitBreaker.Board
