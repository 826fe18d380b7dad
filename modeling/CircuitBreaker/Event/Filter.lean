import CircuitBreaker.Event

/-!
# Event filter

The set of events that the lifecycle drops on arrival. Its view is `isIgnored`:
each operation changes the answer for one event and for no other.
-/

set_option autoImplicit false

namespace CircuitBreaker

structure EventFilter where
  marks : Vector Bool 9
deriving DecidableEq, Repr

namespace EventFilter

def empty : EventFilter := ⟨Vector.replicate 9 false⟩

def isIgnored (filter : EventFilter) (event : Event) : Bool :=
  filter.marks[event.index]

def ignore (filter : EventFilter) (event : Event) : EventFilter :=
  ⟨filter.marks.set event.index true⟩

def accept (filter : EventFilter) (event : Event) : EventFilter :=
  ⟨filter.marks.set event.index false⟩

/-- The dropped events, in index order. -/
def ignored (filter : EventFilter) : List Event :=
  Event.all.filter filter.isIgnored

@[simp]
theorem isIgnored_empty (event : Event) : empty.isIgnored event = false := by
  simp [empty, isIgnored]

private theorem index_ne {left right : Event} (different : left ≠ right) :
    (left.index : Nat) ≠ right.index :=
  fun same => different (Event.index_inj.mp (Fin.ext same))

@[simp]
theorem isIgnored_ignore (filter : EventFilter) (event other : Event) :
    (filter.ignore event).isIgnored other = (decide (other = event) || filter.isIgnored other) := by
  by_cases same : other = event
  · subst same
    simp [ignore, isIgnored]
  · simp [ignore, isIgnored, same, index_ne (Ne.symm same)]

@[simp]
theorem isIgnored_accept (filter : EventFilter) (event other : Event) :
    (filter.accept event).isIgnored other =
      (!decide (other = event) && filter.isIgnored other) := by
  by_cases same : other = event
  · subst same
    simp [accept, isIgnored]
  · simp [accept, isIgnored, same, index_ne (Ne.symm same)]

theorem mem_ignored {filter : EventFilter} {event : Event} :
    event ∈ filter.ignored ↔ filter.isIgnored event = true := by
  simp [ignored, Event.mem_all]

end EventFilter

end CircuitBreaker
