import CircuitBreaker.Input

/-!
# Input queues

Producers never wait: an input that finds no room is dropped. The consumer takes
the inputs one at a time, in the order in which they were accepted.
-/

set_option autoImplicit false

namespace CircuitBreaker

inductive EnqueueError (ε : Type) where
  | full
  /-- Nobody takes inputs any more. -/
  | disconnected
  | other (error : ε)
deriving DecidableEq, Repr

def EnqueueError.mapOther {ε δ : Type} (change : ε → δ) : EnqueueError ε → EnqueueError δ
  | full => .full
  | disconnected => .disconnected
  | other error => .other (change error)

inductive DequeueError (ε : Type) where
  /-- Nobody sends inputs any more. -/
  | disconnected
  | other (error : ε)
deriving DecidableEq, Repr

def DequeueError.mapOther {ε δ : Type} (change : ε → δ) : DequeueError ε → DequeueError δ
  | disconnected => .disconnected
  | other error => .other (change error)

/-- The sending side of a queue. A queue need not know its capacity or its length. -/
class InputProducer (κ : Type) where
  enqueue : κ → Input → Except (EnqueueError Unit) κ
  capacity? : κ → Option Nat := fun _ => none
  length? : κ → Option Nat := fun _ => none

namespace InputProducer

variable {κ : Type} [InputProducer κ]

def isEmpty? (queue : κ) : Option Bool := (length? queue).map (· == 0)

/-- Sends an input, and drops it if it is not accepted. -/
def submit (queue : κ) (input : Input) : Bool × κ :=
  match enqueue queue input with
  | .ok queue => (true, queue)
  | .error _ => (false, queue)

end InputProducer

class InputConsumer (κ : Type) where
  /-- Takes the oldest input, if there is one. -/
  dequeue : κ → Except (DequeueError Unit) (Option Input × κ)

/-- Takes the oldest input; a queue that fails has none to give. -/
def InputConsumer.take {κ : Type} [InputConsumer κ] (queue : κ) : Option Input × κ :=
  match dequeue queue with
  | .ok taken => taken
  | .error _ => (none, queue)

/-- A queue that accepts inputs behind those that wait as long as there is room, refuses them
when there is none, and gives the oldest one back. -/
class LawfulQueue (κ : Type) [InputProducer κ] [InputConsumer κ] where
  capacity : Nat
  /-- The inputs that wait, the oldest first. -/
  inputs : κ → List Input
  enqueue_of_room : ∀ queue input, (inputs queue).length < capacity →
    ∃ longer, InputProducer.enqueue queue input = .ok longer ∧
      inputs longer = inputs queue ++ [input]
  enqueue_of_full : ∀ queue input, capacity ≤ (inputs queue).length →
    InputProducer.enqueue queue input = .error .full
  dequeue_eq : ∀ queue, ∃ rest,
    InputConsumer.dequeue queue = .ok ((inputs queue).head?, rest) ∧
      inputs rest = (inputs queue).tail

namespace LawfulQueue

variable {κ : Type} [InputProducer κ] [InputConsumer κ] [LawfulQueue κ]

theorem inputs_submit_of_room {queue : κ} (input : Input)
    (room : (inputs queue).length < capacity κ) :
    inputs (InputProducer.submit queue input).2 = inputs queue ++ [input] := by
  obtain ⟨longer, accepted, waiting⟩ := enqueue_of_room queue input room
  rw [InputProducer.submit, accepted]
  exact waiting

theorem submit_of_full {queue : κ} (input : Input)
    (full : capacity κ ≤ (inputs queue).length) :
    InputProducer.submit queue input = (false, queue) := by
  rw [InputProducer.submit, enqueue_of_full queue input full]

theorem inputs_submit (queue : κ) (input : Input) :
    ∃ behind, inputs (InputProducer.submit queue input).2 = inputs queue ++ behind := by
  rcases Nat.lt_or_ge (inputs queue).length (capacity κ) with room | full
  · exact ⟨[input], inputs_submit_of_room input room⟩
  · exact ⟨[], by rw [submit_of_full input full, List.append_nil]⟩

theorem taken_eq (queue : κ) : (InputConsumer.take queue).1 = (inputs queue).head? := by
  obtain ⟨rest, taken, _⟩ := dequeue_eq queue
  rw [InputConsumer.take, taken]

theorem inputs_take (queue : κ) :
    inputs (InputConsumer.take queue).2 = (inputs queue).tail := by
  obtain ⟨rest, taken, waiting⟩ := dequeue_eq queue
  rw [InputConsumer.take, taken]
  exact waiting

end LawfulQueue

/-- A queue of bounded capacity, the oldest input first. -/
structure InputQueue (capacity : Nat) where
  inputs : List Input
  size_le : inputs.length ≤ capacity
deriving DecidableEq, Repr

namespace InputQueue

variable {capacity : Nat}

def empty : InputQueue capacity where
  inputs := []
  size_le := Nat.zero_le _

def push (queue : InputQueue capacity) (input : Input) :
    Except (EnqueueError Unit) (InputQueue capacity) :=
  if room : queue.inputs.length < capacity then
    .ok {
      inputs := queue.inputs ++ [input]
      size_le := by
        rw [List.length_append]
        exact room }
  else .error .full

def pop : InputQueue capacity → Option Input × InputQueue capacity
  | ⟨[], size_le⟩ => (none, ⟨[], size_le⟩)
  | ⟨input :: inputs, size_le⟩ => (some input, ⟨inputs, Nat.le_of_succ_le size_le⟩)

instance : InputProducer (InputQueue capacity) where
  enqueue := push
  capacity? _ := some capacity
  length? queue := some queue.inputs.length

instance : InputConsumer (InputQueue capacity) where
  dequeue queue := .ok queue.pop

instance : LawfulQueue (InputQueue capacity) where
  capacity := capacity
  inputs := inputs
  enqueue_of_room _ _ room := ⟨_, dif_pos room, rfl⟩
  enqueue_of_full _ _ full := dif_neg (Nat.not_lt.mpr full)
  dequeue_eq
    | ⟨[], _⟩ => ⟨_, rfl, rfl⟩
    | ⟨_ :: _, _⟩ => ⟨_, rfl, rfl⟩

theorem eq_empty {queue : InputQueue capacity} (none : LawfulQueue.inputs queue = []) :
    queue = .empty := by
  obtain ⟨inputs, size_le⟩ := queue
  cases none
  rfl

end InputQueue

/-- How many inputs the queue between the tasks of a board holds: the edges of half
a mains cycle, and commands. -/
def boardQueueDepth : Nat := 8

/-- How a feed ends once its inputs are used up. -/
inductive FeedEnd where
  /-- More inputs may come later. -/
  | empty
  | disconnected
  | failed
deriving DecidableEq, Repr

/-- What a consumer finds when it takes inputs until there are none. -/
structure InputFeed where
  inputs : List Input
  ending : FeedEnd := .empty
deriving DecidableEq, Repr

end CircuitBreaker
