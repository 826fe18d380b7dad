import CircuitBreaker.Clock
import CircuitBreaker.Event

/-!
# Timers

The one-shot timers of the lifecycle. A timer is a deadline that is looked at
from the same place that handles events, so cancelling one takes effect before
any later event.
-/

set_option autoImplicit false

namespace CircuitBreaker

inductive TimerId where
  | supplyDetect
  | recovery
  | recoveryReset
deriving DecidableEq, Repr

namespace TimerId

/-- Every timer, in the order in which equal deadlines fire. -/
def all : List TimerId := [supplyDetect, recovery, recoveryReset]

theorem mem_all (timer : TimerId) : timer ∈ all := by
  cases timer <;> decide

def event : TimerId → Event
  | supplyDetect => .supplyTimerExpired
  | recovery => .recoveryTimerExpired
  | recoveryReset => .recoveryResetTimerExpired

def name : TimerId → String
  | supplyDetect => "SupplyDetect"
  | recovery => "Recovery"
  | recoveryReset => "RecoveryReset"

end TimerId

structure TimerBank where
  supplyDetect : Option Nat := none
  recovery : Option Nat := none
  recoveryReset : Option Nat := none
deriving DecidableEq, Repr

namespace TimerBank

def empty : TimerBank := {}

def deadline (bank : TimerBank) : TimerId → Option Nat
  | .supplyDetect => bank.supplyDetect
  | .recovery => bank.recovery
  | .recoveryReset => bank.recoveryReset

def set (bank : TimerBank) (timer : TimerId) (deadline : Option Nat) : TimerBank :=
  match timer with
  | .supplyDetect => { bank with supplyDetect := deadline }
  | .recovery => { bank with recovery := deadline }
  | .recoveryReset => { bank with recoveryReset := deadline }

/-- Arms `timer` to fire `wait` after `now`, replacing any earlier deadline. -/
def arm (bank : TimerBank) (clock : Clock) (timer : TimerId) (now : Nat) (wait : Nat) :
    TimerBank :=
  bank.set timer (some (clock.after now wait))

def cancel (bank : TimerBank) (timer : TimerId) : TimerBank := bank.set timer none

def isArmed (bank : TimerBank) (timer : TimerId) : Bool := (bank.deadline timer).isSome

def deadlines (bank : TimerBank) : List Nat := TimerId.all.filterMap bank.deadline

def nextDeadline (bank : TimerBank) : Option Nat := bank.deadlines.min?

def isDue (bank : TimerBank) (now : Nat) (timer : TimerId) : Bool :=
  match bank.deadline timer with
  | some deadline => deadline ≤ now
  | none => false

/-- Of two due timers the one with the earlier deadline; the first one on a tie. -/
def earlier (bank : TimerBank) (first second : TimerId) : TimerId :=
  if (bank.deadline second).getD 0 < (bank.deadline first).getD 0 then second else first

/-- The timer that fires first among those due at `now`. -/
def firstDue (bank : TimerBank) (now : Nat) : Option TimerId :=
  match TimerId.all.filter (bank.isDue now) with
  | [] => none
  | timer :: rest => some (rest.foldl bank.earlier timer)

def takeExpired (bank : TimerBank) (now : Nat) : Option TimerId × TimerBank :=
  match bank.firstDue now with
  | none => (none, bank)
  | some timer => (some timer, bank.cancel timer)

@[simp]
theorem deadline_empty (timer : TimerId) : empty.deadline timer = none := by
  cases timer <;> rfl

@[simp]
theorem deadline_set (bank : TimerBank) (timer other : TimerId) (deadline : Option Nat) :
    (bank.set timer deadline).deadline other =
      if other = timer then deadline else bank.deadline other := by
  cases timer <;> cases other <;> rfl

@[simp]
theorem deadline_arm (bank : TimerBank) (clock : Clock) (timer other : TimerId) (now : Nat)
    (wait : Nat) :
    (bank.arm clock timer now wait).deadline other =
      if other = timer then some (clock.after now wait) else bank.deadline other :=
  deadline_set _ _ _ _

@[simp]
theorem deadline_cancel (bank : TimerBank) (timer other : TimerId) :
    (bank.cancel timer).deadline other = if other = timer then none else bank.deadline other :=
  deadline_set _ _ _ _

private theorem foldl_earlier_mem (bank : TimerBank) (timer : TimerId) (rest : List TimerId) :
    rest.foldl bank.earlier timer ∈ timer :: rest := by
  induction rest generalizing timer with
  | nil => exact List.mem_cons_self
  | cons next rest ih =>
      have member := ih (bank.earlier timer next)
      rw [List.foldl_cons]
      rcases List.mem_cons.mp member with same | later
      · rw [same]
        unfold earlier
        split <;> simp
      · exact List.mem_cons_of_mem _ (List.mem_cons_of_mem _ later)

/-- Only a timer that is due fires. -/
theorem isDue_of_firstDue {bank : TimerBank} {now : Nat} {timer : TimerId}
    (first : bank.firstDue now = some timer) : bank.isDue now timer = true := by
  unfold firstDue at first
  split at first
  · cases first
  · next head rest due =>
    cases first
    have member := foldl_earlier_mem bank head rest
    rw [← due] at member
    exact (List.mem_filter.mp member).2

theorem isArmed_of_firstDue {bank : TimerBank} {now : Nat} {timer : TimerId}
    (first : bank.firstDue now = some timer) : bank.isArmed timer = true := by
  have due := isDue_of_firstDue first
  unfold isDue at due
  unfold isArmed
  cases armed : bank.deadline timer with
  | none => simp [armed] at due
  | some deadline => rfl

end TimerBank

end CircuitBreaker
