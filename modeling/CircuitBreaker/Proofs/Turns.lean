import CircuitBreaker.Board
import CircuitBreaker.Proofs.Execute

/-!
# Turns of the tasks of a board

The tasks of a board meet at the breaker of its controller, which holds all that they share,
and at the queue of its inputs, which may be any that obeys the laws of a queue. A turn is what
one task does before another can run. Turns may follow one another in any order; the rounds of a
board are one such order.
-/

set_option autoImplicit false

namespace CircuitBreaker.Board

theorem Controller.poll_eq_act {κ : Type} [RecordStore κ] (breaker : ControlledBreaker κ)
    (now : Nat) : poll breaker now = breaker.act (.poll now) := by
  unfold poll
  cases accepted : breaker.poll now <;>
    simp [Breaker.act, accepted, Breaker.afterCall]

/-- What the tasks of a board meet at. -/
structure Core (κ χ : Type) where
  breaker : ControlledBreaker κ
  queue : χ

/-- The action writes neither the position of the power stage nor the cause latched there,
unless it commands the stage. -/
def SparesLatch {κ : Type} : Action PowerStage PublishedMains PublishedMeter κ → Prop
  | .adjust (.surroundings switch _ _ _) =>
      ∀ stage, (switch stage).conducting = stage.conducting ∧ (switch stage).cause = stage.cause
  | .input .. | .poll _ | .adjust _ => True

inductive Turn (κ : Type) where
  /-- The task at the status line takes an edge, and reports it if it is to. -/
  | edge (high : Bool)
  /-- Another task sends an input. -/
  | submit (input : Input)
  /-- The controller takes the oldest input and applies it. -/
  | take (now : Nat)
  /-- The controller, or another task, acts on the breaker past the queue. -/
  | act (action : Action PowerStage PublishedMains PublishedMeter κ) (spares : SparesLatch action)

namespace Core

variable {κ χ : Type} [InputProducer χ] [InputConsumer χ]

def action? (core : Core κ χ) : Turn κ → Option (Action PowerStage PublishedMains PublishedMeter κ)
  | .edge high => some (.adjust (.surroundings (fun stage => stage.takeEdge high) id id id))
  | .submit _ => none
  | .take now => (InputConsumer.take core.queue).1.map fun input => .input input now
  | .act action _ => some action

def queueAfter (core : Core κ χ) : Turn κ → χ
  | .edge high =>
      if core.breaker.switch.reporting then
        (InputProducer.submit core.queue (.switchChanged high)).2
      else core.queue
  | .submit input => (InputProducer.submit core.queue input).2
  | .take _ => (InputConsumer.take core.queue).2
  | .act .. => core.queue

variable [RecordStore κ]

def turn (core : Core κ χ) (turn : Turn κ) : Core κ χ where
  breaker := core.breaker.run (core.action? turn).toList
  queue := core.queueAfter turn

def turns (core : Core κ χ) (turns : List (Turn κ)) : Core κ χ := turns.foldl turn core

def actionsAlong :
    Core κ χ → List (Turn κ) → List (Action PowerStage PublishedMains PublishedMeter κ)
  | _, [] => []
  | core, turn :: rest => (core.action? turn).toList ++ (core.turn turn).actionsAlong rest

theorem breaker_turns (core : Core κ χ) (turns : List (Turn κ)) :
    (core.turns turns).breaker = core.breaker.run (core.actionsAlong turns) := by
  induction turns generalizing core with
  | nil => rfl
  | cons turn rest ih =>
      have later := ih (core.turn turn)
      rw [actionsAlong, Breaker.run, List.foldl_append]
      exact later

theorem inSession_turns {core : Core κ χ} (session : core.breaker.InSession)
    (turns : List (Turn κ)) : (core.turns turns).breaker.InSession := by
  rw [breaker_turns]
  exact session.run _

/-!
## Turns between two states
-/

def Reaches (core after : Core κ χ) : Prop := ∃ turns, core.turns turns = after

theorem Reaches.refl (core : Core κ χ) : core.Reaches core := ⟨[], rfl⟩

theorem Reaches.trans {core middle after : Core κ χ} (first : core.Reaches middle)
    (second : middle.Reaches after) : core.Reaches after := by
  obtain ⟨before, rfl⟩ := first
  obtain ⟨rest, rfl⟩ := second
  exact ⟨before ++ rest, List.foldl_append⟩

theorem Reaches.turn (core : Core κ χ) (turn : Turn κ) : core.Reaches (core.turn turn) :=
  ⟨[turn], rfl⟩

theorem Reaches.act (core : Core κ χ) (action : Action PowerStage PublishedMains PublishedMeter κ)
    (spares : SparesLatch action) :
    core.Reaches { core with breaker := core.breaker.act action } :=
  .turn core (.act action spares)

/-!
## The controller
-/

theorem reaches_poll (core : Core κ χ) (now : Nat) :
    core.Reaches { core with breaker := Controller.poll core.breaker now } := by
  rw [Controller.poll_eq_act]
  exact .act core (.poll now) trivial

theorem reaches_remember (core : Core κ χ) (intent : Intent) :
    core.Reaches { core with breaker := Controller.remember core.breaker intent } := by
  unfold Controller.remember
  cases intent.save core.breaker.store with
  | ok store =>
      exact .act core (.adjust (.surroundings id id id fun _ => store)) fun stage => ⟨rfl, rfl⟩
  | error error => exact .refl core

theorem reaches_apply [LawfulQueue χ] (core : Core κ χ) (input : Input) (now : Nat)
    (oldest : (LawfulQueue.inputs core.queue).head? = some input) :
    core.Reaches
      { breaker := Controller.apply core.breaker input now
        queue := (InputConsumer.take core.queue).2 } := by
  have taken := Reaches.turn core (.take now)
  simp only [turn, action?, queueAfter, LawfulQueue.taken_eq, oldest, Option.map_some,
    Option.toList_some] at taken
  unfold Controller.apply
  cases accepted : core.breaker.handleInput input now with
  | error error =>
      simpa [Breaker.run, Breaker.act, accepted, Breaker.afterCall] using taken
  | ok after =>
      simp only [Breaker.run, List.foldl_cons, List.foldl_nil, Breaker.act, accepted,
        Breaker.afterCall] at taken
      cases Intent.ofInput input with
      | none => exact taken
      | some intent => exact taken.trans (reaches_remember _ intent)

theorem reaches_inputs [LawfulQueue χ] (core : Core κ χ) (now : Nat) :
    ∃ drained, LawfulQueue.inputs drained = [] ∧
      core.Reaches
        { breaker :=
            (Controller.work core.breaker (.inputs (LawfulQueue.inputs core.queue)) now).2
          queue := drained } := by
  generalize waiting : LawfulQueue.inputs core.queue = inputs
  induction inputs generalizing core with
  | nil => exact ⟨core.queue, waiting, .refl core⟩
  | cons input rest ih =>
      have taken := reaches_apply core input now (by rw [waiting, List.head?_cons])
      obtain ⟨drained, empty, others⟩ := ih
        { breaker := Controller.apply core.breaker input now
          queue := (InputConsumer.take core.queue).2 }
        (by rw [LawfulQueue.inputs_take, waiting, List.tail_cons])
      exact ⟨drained, empty, taken.trans others⟩

theorem reaches_line (core : Core κ χ) (line : String) (now : Nat) :
    core.Reaches
      { core with breaker := (Controller.work core.breaker (.line line) now).2 } := by
  have responded :
      core.Reaches { core with breaker := (core.breaker.respond line now).2 } := by
    have executes := core.breaker.respond_executes line now
    generalize (core.breaker.respond line now).2 = answered at executes ⊢
    cases executes with
    | shows => exact .refl core
    | requests input request accepted =>
        have acted := Reaches.act core (.input input now) trivial
        simpa [Breaker.act, accepted, Breaker.afterCall] using acted
    | sets adjustment setting =>
        refine .act core (.adjust adjustment) ?_
        cases adjustment <;> first | exact setting.elim | trivial
  simp only [Controller.work]
  generalize (core.breaker.respond line now).2 = answered at responded ⊢
  cases (core.breaker.respond line now).1.intent with
  | none => exact responded
  | some intent => exact responded.trans (reaches_remember _ intent)

theorem reaches_selfTest (core : Core κ χ) (direction : TestDirection) (now : Nat) :
    core.Reaches
      { core with breaker := (Controller.work core.breaker (.selfTest direction) now).2 } := by
  simp only [Controller.work, PowerStage.startTest]
  cases core.breaker.switch.conducting with
  | false => exact .refl core
  | true =>
      exact .act core
        (.adjust (.surroundings
          (fun stage => { stage.drive (.ofDirection direction) true with testActive := true })
          id id id))
        fun stage => ⟨rfl, rfl⟩

end Core

/-!
## Rounds
-/

def core (board : Board) : Core (FramedStore Flash) (InputQueue boardQueueDepth) where
  breaker := board.breaker
  queue := board.queue

private theorem submit_reaches (board : Board) (input : Input) :
    board.core.Reaches (board.submit input).core :=
  .turn board.core (.submit input)

private theorem sample_reaches (board : Board) : board.core.Reaches board.sample.core := by
  unfold sample
  split
  · exact .refl _
  · next readings sampler _ =>
    exact .act board.core
      (.adjust (.surroundings (fun stage => { stage with temperatures := readings.temperatures }) id
        (fun _ => { readings }) id))
      fun _ => ⟨rfl, rfl⟩

private theorem watchStatus_reaches (board : Board) :
    board.core.Reaches board.watchStatus.core := by
  have reporting : (board.breaker.switch.takeEdge board.statusLine.high).reporting =
      board.breaker.switch.reporting := by
    cases board.statusLine.high <;> rfl
  have turned := Core.Reaches.turn board.core (.edge board.statusLine.high)
  unfold watchStatus
  split
  · dsimp only
    rw [reporting]
    split
    · next reports =>
      have queued : board.core.queueAfter (.edge board.statusLine.high) =
          (InputProducer.submit board.queue (.switchChanged board.statusLine.high)).2 :=
        if_pos reports
      rw [Core.turn, queued] at turned
      exact turned
    · next silent =>
      have queued : board.core.queueAfter (.edge board.statusLine.high) = board.queue :=
        if_neg silent
      rw [Core.turn, queued] at turned
      exact turned
  · exact .refl _

private theorem publishFrequency_reaches (board : Board) (frequency : Option UInt32) :
    board.core.Reaches (board.publishFrequency frequency).core := by
  cases frequency with
  | none => exact .refl _
  | some frequency =>
      exact .act board.core
        (.adjust (.surroundings id (fun mains => { mains with frequency }) id id))
        fun _ => ⟨rfl, rfl⟩

private theorem watchMains_reaches (board : Board) : board.core.Reaches board.watchMains.core := by
  unfold watchMains
  split
  · dsimp only
    have published := publishFrequency_reaches
      { board with
        mainsLine := { high := board.mainsLine.high }
        crossings := (board.crossings.see board.clock board.now).2 }
      (board.crossings.see board.clock board.now).1
    split
    · exact published.trans (submit_reaches _ .zeroCrossing)
    · exact published
  · exact publishFrequency_reaches
      { board with crossings := (board.crossings.expire board.clock board.now).2 } _

/-- A served wake is a poll, the work of the wake and a notice that is taken. -/
private theorem serve_reaches {board : Board}
    {core : Core (FramedStore Flash) (InputQueue boardQueueDepth)} {wake : Wake}
    (worked : ∀ breaker : ControlledBreaker (FramedStore Flash), Core.Reaches { core with breaker }
      { board.core with breaker := (Controller.work breaker wake board.now).2 }) :
    Core.Reaches { core with breaker := board.breaker } (board.serve wake).core := by
  have polled := Core.reaches_poll { core with breaker := board.breaker } board.now
  have served := polled.trans (worked (Controller.poll board.breaker board.now))
  exact served.trans (.act _ (.adjust .dispatch) trivial)

private theorem serveInputs_reaches (board : Board) :
    board.core.Reaches board.serveInputs.core := by
  unfold serveInputs
  split
  · exact .refl _
  · next inputs _ =>
    refine @serve_reaches { board with queue := .empty } board.core (.inputs board.queue.inputs)
      fun breaker => ?_
    obtain ⟨drained, none, worked⟩ := Core.reaches_inputs { board.core with breaker } board.now
    cases InputQueue.eq_empty none
    exact worked

private theorem serveRequest_reaches (board : Board) :
    board.core.Reaches board.serveRequest.core := by
  unfold serveRequest
  split
  · exact .refl _
  · next line _ =>
    exact @serve_reaches { board with request := none } board.core (.line line)
      fun breaker => Core.reaches_line { board.core with breaker } line board.now

private theorem serveSelfTest_reaches (board : Board) :
    board.core.Reaches board.serveSelfTest.core := by
  unfold serveSelfTest
  split
  · exact .refl _
  · next direction _ =>
    exact @serve_reaches { board with selfTest := none } board.core (.selfTest direction)
      fun breaker => Core.reaches_selfTest { board.core with breaker } direction board.now

private theorem control_reaches (board : Board) : board.core.Reaches board.control.core := by
  unfold control
  split
  · exact ((serveInputs_reaches board).trans (serveRequest_reaches _)).trans
      (serveSelfTest_reaches _)
  · split
    · exact @serve_reaches board board.core .deadline fun breaker => .refl _
    · exact .refl _

private theorem watchButton_reaches (board : Board) :
    board.core.Reaches board.watchButton.core := by
  have obeyed (pressed : Board) (press : Option Press) (same : pressed.core = board.core) :
      board.core.Reaches (pressed.obey press).core := by
    rw [← same]
    cases press with
    | none => exact .refl _
    | some press =>
        cases press with
        | short => exact submit_reaches pressed _
        | long => exact .refl _
  unfold watchButton
  split
  · dsimp only
    split
    · split <;> exact .refl _
    · split
      · exact obeyed _ _ rfl
      · exact .refl _
  · exact .refl _

theorem round_reaches (board : Board) : board.core.Reaches board.round.core := by
  have sampled := sample_reaches board
  have watched := (sampled.trans (watchStatus_reaches _)).trans (watchMains_reaches _)
  have controlled := watched.trans (control_reaches _)
  -- The console and the lamp touch nothing that is shared.
  exact controlled.trans (watchButton_reaches board.sample.watchStatus.watchMains.control.converse)

private theorem runRounds_reaches (rounds : Nat) (board : Board) :
    board.core.Reaches (runRounds rounds board).core := by
  induction rounds generalizing board with
  | zero => exact .refl _
  | succ rounds ih =>
      unfold runRounds
      dsimp only
      split
      · exact round_reaches board
      · exact (round_reaches board).trans (ih board.round)

/-- However long a board takes to come to rest, its tasks take turns. -/
theorem rest_reaches (board : Board) : board.core.Reaches board.rest.core :=
  runRounds_reaches (board.serial.received.length + 6) board

end CircuitBreaker.Board
