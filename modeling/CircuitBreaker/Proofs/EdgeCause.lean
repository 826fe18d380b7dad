import CircuitBreaker.Proofs.Journal
import CircuitBreaker.Proofs.Turns

/-!
# The cause of an edge

A power stage holds one cause. The task at the status line latches that of an edge there and
reports the edge, but commands to the stage latch a cause as well, and those given while the
report waits in the queue come after the edge. What the controller reads when it comes to the
report is then the cause of the latest command.
-/

set_option autoImplicit false

namespace CircuitBreaker

/-- The cause that a command leaves in a power stage that does not conduct. -/
def JournalEntry.latched? : JournalEntry → Option SwitchCause
  | .input _ => none
  | .turnedOn refusal => some (refusal.getD .external)
  | .turnedOff => some .external

namespace Board

/-!
## One command
-/

/-- The stage does not conduct, and holds the cause of the latest command in its journal, or
else the cause of the edge. -/
structure HoldsLatest (edge : SwitchCause) (switch : Journaled PowerStage) : Prop where
  interrupts : switch.driver.conducting = false
  cause : switch.driver.cause = (switch.journal.findSome? JournalEntry.latched?).getD edge

namespace HoldsLatest

variable {edge : SwitchCause} {switch : Journaled PowerStage}

theorem turnOn (holds : HoldsLatest edge switch) :
    HoldsLatest edge (SwitchDriver.turnOn switch).2 := by
  have interrupts := holds.interrupts
  simp only [SwitchDriver.turnOn, PowerStage.turnOn, interrupts, Bool.false_eq_true, if_false]
  cases switch.driver.temperatures.closingRefusal with
  | none => exact ⟨interrupts, rfl⟩
  | some refusal => exact ⟨rfl, rfl⟩

theorem turnOff (holds : HoldsLatest edge switch) :
    HoldsLatest edge (SwitchDriver.turnOff switch) :=
  ⟨holds.interrupts, rfl⟩

theorem setLimit {limit : UInt8} {limited : Journaled PowerStage}
    (accepted : SwitchDriver.setLimit switch limit = .ok limited)
    (holds : HoldsLatest edge switch) : HoldsLatest edge limited := by
  have same : limited = switch := by
    simp only [SwitchDriver.setLimit] at accepted
    split at accepted
    · cases accepted
    · exact (Except.ok.inj accepted).symm
  rw [same]
  exact holds

variable {κ : Type} [RecordStore κ]
  {breaker : Breaker (Journaled PowerStage) PublishedMains PublishedMeter κ}

private theorem act (session : breaker.InSession) (holds : HoldsLatest edge breaker.switch)
    (action : Action (Journaled PowerStage) PublishedMains PublishedMeter κ)
    (surrounded : ∀ switch mains meter store,
      action = .adjust (.surroundings switch mains meter store) →
      HoldsLatest edge breaker.switch → HoldsLatest edge (switch breaker.switch)) :
    HoldsLatest edge (breaker.act action).switch :=
  @Breaker.InSession.act_keeps _ _ _ _ _ _ _ breaker session action (HoldsLatest edge)
    (fun _ held => held.turnOn) (fun _ held => held.turnOff)
    (fun _ _ _ accepted held => held.setLimit accepted) surrounded holds

theorem actJournaled (session : breaker.InSession) (holds : HoldsLatest edge breaker.switch)
    (action : Action PowerStage PublishedMains PublishedMeter κ) (spares : SparesLatch action) :
    HoldsLatest edge (breaker.actJournaled action).switch := by
  cases action with
  | input input now =>
      have noted : HoldsLatest edge (breaker.noted input).switch := ⟨holds.interrupts, holds.cause⟩
      have session : (breaker.noted input).InSession := ⟨session.initialized, session.ready⟩
      exact act session noted (.input input now) fun _ _ _ _ given => by cases given
  | poll now => exact act session holds (.poll now) fun _ _ _ _ given => by cases given
  | adjust adjustment =>
      refine act session holds (.adjust adjustment.journaled) ?_
      intro switch mains meter store given held
      cases adjustment <;>
        simp only [Adjustment.journaled, Action.adjust.injEq, reduceCtorEq] at given
      cases given
      obtain ⟨conducting, cause⟩ := spares breaker.switch.driver
      exact ⟨conducting.trans held.interrupts, cause.trans held.cause⟩

end HoldsLatest

/-!
## Runs
-/

section Runs

variable {κ : Type} [RecordStore κ]

/-- While no edge comes, a stage that does not conduct holds the cause of the latest command,
or else the cause that it held before. -/
theorem cause_run {breaker : ControlledBreaker κ} (session : breaker.InSession)
    (interrupts : breaker.switch.conducting = false)
    (actions : List (Action PowerStage PublishedMains PublishedMeter κ))
    (spares : ∀ action ∈ actions, SparesLatch action) :
    (breaker.run actions).switch.cause =
      ((breaker.journal actions).findSome? JournalEntry.latched?).getD breaker.switch.cause := by
  have held : HoldsLatest breaker.switch.cause (breaker.runJournaled actions).switch := by
    induction actions using List.reverseRecOn with
    | nil => exact ⟨interrupts, rfl⟩
    | append_singleton actions action ih =>
        rw [Breaker.runJournaled_concat]
        rw [List.forall_mem_append] at spares
        exact (ih spares.1).actJournaled (session.runJournaled actions) action
          (spares.2 action (List.mem_singleton_self action))
  rw [← Breaker.mapSwitch_runJournaled]
  exact held.cause

end Runs

namespace Core

open LawfulQueue (inputs inputs_submit inputs_submit_of_room inputs_take)

variable {κ χ : Type}

def Still : Turn κ → Prop
  | .edge _ => False
  | .submit _ | .take _ | .act .. => True

def isTake : Turn κ → Bool
  | .take _ => true
  | .edge _ | .submit _ | .act .. => false

variable [InputProducer χ] [InputConsumer χ] [RecordStore κ]

/-- The cause that the latest command in the course of some turns has latched. -/
def latest? (core : Core κ χ) (turns : List (Turn κ)) : Option SwitchCause :=
  (core.breaker.journal (core.actionsAlong turns)).findSome? JournalEntry.latched?

theorem sparesLatch_of_still {core : Core κ χ} {turns : List (Turn κ)}
    (still : ∀ turn ∈ turns, Still turn) :
    ∀ action ∈ core.actionsAlong turns, SparesLatch action := by
  induction turns generalizing core with
  | nil => exact List.forall_mem_nil _
  | cons turn rest ih =>
      obtain ⟨first, still⟩ := List.forall_mem_cons.mp still
      refine List.forall_mem_append.mpr ⟨?_, ih still⟩
      cases turn with
      | edge high => exact first.elim
      | submit input => exact List.forall_mem_nil _
      | take now =>
          intro action member
          obtain ⟨input, _, rfl⟩ := Option.map_eq_some_iff.mp (Option.mem_toList.mp member)
          trivial
      | act action spares => exact List.forall_mem_singleton.mpr spares

/-!
## The queue
-/

variable [LawfulQueue χ]

/-- A turn takes the oldest input or leaves it; it may add one behind the others. -/
private theorem inputs_turn (core : Core κ χ) (turn : Turn κ) :
    ∃ behind, inputs (core.turn turn).queue =
      (if isTake turn then (inputs core.queue).tail else inputs core.queue) ++ behind := by
  cases turn with
  | edge high =>
      by_cases reports : core.breaker.switch.reporting = true
      · simpa [Core.turn, queueAfter, isTake, reports] using inputs_submit core.queue _
      · exact ⟨[], by simp [Core.turn, queueAfter, isTake, reports]⟩
  | submit input => exact inputs_submit core.queue input
  | take now => exact ⟨[], by simp [Core.turn, queueAfter, isTake, inputs_take]⟩
  | act action spares => exact ⟨[], by simp [Core.turn, queueAfter, isTake]⟩

/-- An input is the oldest one once those ahead of it have been taken. -/
theorem oldest_of_taken {core : Core κ χ} {ahead behind : List Input} {input : Input}
    (queued : inputs core.queue = ahead ++ input :: behind) {turns : List (Turn κ)}
    (taken : turns.countP isTake = ahead.length) :
    (inputs (core.turns turns).queue).head? = some input := by
  induction turns generalizing core ahead behind with
  | nil =>
      have none : ahead = [] := List.length_eq_zero_iff.mp taken.symm
      simp [turns, queued, none]
  | cons turn rest ih =>
      obtain ⟨later, waiting⟩ := inputs_turn core turn
      rw [queued] at waiting
      cases takes : isTake turn with
      | false =>
          rw [List.countP_cons_of_neg (by simp [takes])] at taken
          exact ih (by simpa [takes] using waiting) taken
      | true =>
          rw [List.countP_cons_of_pos takes] at taken
          cases ahead with
          | nil => cases taken
          | cons first ahead =>
              exact ih (by simpa [takes] using waiting) (Nat.succ.inj taken)

/-!
## The report of a falling edge
-/

/-- Once the inputs ahead of the report of a falling edge have been taken, the controller comes to
the report, and reads the cause of the edge if and only if no command since then has latched
another one. -/
theorem edge_cause_read_iff {core : Core κ χ} (session : core.breaker.InSession)
    (reports : core.breaker.switch.reporting = true)
    (room : (inputs core.queue).length < LawfulQueue.capacity χ) {turns : List (Turn κ)}
    (still : ∀ turn ∈ turns, Still turn)
    (taken : turns.countP isTake = (inputs core.queue).length) :
    (inputs ((core.turn (.edge false)).turns turns).queue).head? = some (.switchChanged false) ∧
      (((core.turn (.edge false)).turns turns).breaker.switch.cause =
          (core.breaker.switch.takeEdge false).cause ↔
        ∀ cause ∈ (core.turn (.edge false)).latest? turns,
          cause = (core.breaker.switch.takeEdge false).cause) := by
  constructor
  · have queued : inputs (core.turn (.edge false)).queue =
        inputs core.queue ++ .switchChanged false :: [] := by
      simpa [turn, queueAfter, reports] using inputs_submit_of_room (.switchChanged false) room
    exact oldest_of_taken queued taken
  · have struck : (core.turn (.edge false)).breaker.InSession :=
      inSession_turns session [.edge false]
    have read := cause_run struck rfl ((core.turn (.edge false)).actionsAlong turns)
      (sparesLatch_of_still still)
    rw [← breaker_turns] at read
    rw [read, latest?]
    generalize List.findSome? JournalEntry.latched? _ = latest
    cases latest with
    | none => exact ⟨fun _ _ given => (Option.not_mem_none _ given).elim, fun _ => rfl⟩
    | some cause => simp

open Bench

def idle (breaker : ControlledBreaker κ) : Core κ (InputQueue boardQueueDepth) where
  breaker
  queue := .empty

omit [RecordStore κ] in
theorem inSession_idle {breaker : ControlledBreaker κ} (session : breaker.InSession) :
    (idle breaker).breaker.InSession := session

abbrev BenchTurn := Turn (FramedStore FaultyMemory)

def resting : ControlledBreaker (FramedStore FaultyMemory) :=
  .ofParts .micros {} {} {} { storage := .erased 0 0 }

def crossing (now : Nat) : List BenchTurn := [.submit .zeroCrossing, .take now]

/-- A close on an AC supply under a closed-state mode, up to a crossing that waits in the queue. -/
def closedIn (mode : ClosedMode) : List BenchTurn :=
  [.act (.adjust (.recovery { mode, enabled := true, attempts := 1 })) trivial,
    .act (.adjust (.modulation { whileClosed := 1, period := 2 })) trivial,
    .act (.input .closeRequest 0) trivial] ++
  [20000, 30000, 40000, 50000].flatMap crossing ++ [.act (.poll 200000) trivial] ++
  crossing 210000 ++ [.edge true, .take 210500] ++ [220000, 230000].flatMap crossing ++
  [.submit .zeroCrossing]

/-- In the steady mode the crossing ahead of the report gives no command, and the controller
reads that the protection has fired. -/
theorem edge_cause_read_steady :
    ((idle (resting.init 0)).turns (closedIn .steady)).breaker.lifecycle.phase = .closed ∧
      ((((idle (resting.init 0)).turns (closedIn .steady)).turn (.edge false)).turns
        [.take 240000]).breaker.switch.cause = .hardwareOvercurrent := by
  have fresh : resting.initialized = false := rfl
  have session := inSession_turns (inSession_idle (Breaker.init_of_fresh fresh 0).1)
    (closedIn .steady)
  have read := edge_cause_read_iff session (by decide +kernel) (by decide +kernel)
    (show ∀ turn ∈ [Turn.take 240000], Still turn by simp [Still]) (by decide +kernel)
  exact ⟨by decide +kernel, (read.2.2 (by decide +kernel)).trans (by decide +kernel)⟩

/-- In the modulated mode that crossing commands the switch off. The controller reads an opening
on command, which it ignores, in place of the trip of the protection. -/
theorem edge_cause_overwritten :
    let struck := ((idle (resting.init 0)).turns (closedIn .modulated)).turn (.edge false)
    let read := struck.turns [.take 240000]
    let handled := read.turn (.take 240000)
    struck.breaker.switch.cause = .hardwareOvercurrent ∧
      read.queue.inputs = [.switchChanged false] ∧ read.breaker.lifecycle.phase = .closed ∧
      read.breaker.switch.cause = .external ∧ handled.breaker.lifecycle.phase = .closed ∧
      handled.breaker.lifecycle.attemptsLeft = 1 ∧ handled.breaker.pending = none := by
  decide +kernel

end Core

end Board

end CircuitBreaker
