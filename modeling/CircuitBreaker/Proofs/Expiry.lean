import CircuitBreaker.Proofs.Replenishment
import Mathlib.Data.Prod.Lex
import Mathlib.Order.Bounds.Defs

/-!
# The order of expiry

Timers are taken from a bank one by one until none is due. They come by their deadlines, and among
equal deadlines by their place among all timers, whatever calls armed and disarmed them before. The
timers that are not due yet stand as they did.
-/

set_option autoImplicit false

namespace CircuitBreaker

namespace TimerId

def place (timer : TimerId) : Nat := all.idxOf timer

theorem place_injective : Function.Injective place := by
  intro left right same
  exact (List.idxOf_inj left.mem_all).mp same

theorem all_ordered : all.Pairwise (·.place < ·.place) := by decide

/-- A timer fires before another one by its deadline, or by its place if the deadlines are equal. -/
def FiresBefore (deadline : TimerId → Option Nat) (first second : TimerId) : Prop :=
  ∃ sooner later, deadline first = some sooner ∧ deadline second = some later ∧
    (sooner < later ∨ sooner = later ∧ first.place < second.place)

end TimerId

inductive TimerCall where
  | arm (timer : TimerId) (now wait : Nat)
  | cancel (timer : TimerId)
  | cancelAll
deriving DecidableEq, Repr

namespace TimerCall

variable (clock : Clock)

/-- The deadline that a call gives a timer, or takes from it, if it is about the timer. -/
def deadline? (timer : TimerId) : TimerCall → Option (Option Nat)
  | arm other now wait => if timer = other then some (some (clock.after now wait)) else none
  | cancel other => if timer = other then some none else none
  | cancelAll => some none

def lastDeadline (calls : List TimerCall) (timer : TimerId) : Option Nat :=
  (calls.filterMap (deadline? clock timer)).getLast?.join

theorem lastDeadline_concat (calls : List TimerCall) (call : TimerCall) (timer : TimerId) :
    lastDeadline clock (calls ++ [call]) timer =
      (call.deadline? clock timer).getD (lastDeadline clock calls timer) := by
  unfold lastDeadline
  cases about : call.deadline? clock timer with
  | none => simp [about]
  | some deadline => simp [about]

end TimerCall

namespace TimerBank

/-!
## Histories of calls
-/

section Calls

open TimerCall

variable (clock : Clock)

def perform (bank : TimerBank) : TimerCall → TimerBank
  | .arm timer now wait => bank.arm clock timer now wait
  | .cancel timer => bank.cancel timer
  | .cancelAll => empty

def after (calls : List TimerCall) : TimerBank := calls.foldl (perform clock) empty

theorem deadline_after (calls : List TimerCall) (timer : TimerId) :
    (after clock calls).deadline timer = lastDeadline clock calls timer := by
  induction calls using List.reverseRecOn with
  | nil => exact deadline_empty timer
  | append_singleton calls call ih =>
      have last : after clock (calls ++ [call]) = (after clock calls).perform clock call :=
        List.foldl_append
      rw [last, lastDeadline_concat]
      cases call with
      | arm other now wait =>
          by_cases about : timer = other
          · simp [perform, deadline?, about]
          · simp [perform, deadline?, about, ih]
      | cancel other =>
          by_cases about : timer = other
          · simp [perform, deadline?, about]
          · simp [perform, deadline?, about, ih]
      | cancelAll => exact deadline_empty timer

end Calls

/-!
## The next deadline
-/

def IsNext (deadline : TimerId → Option Nat) : Option Nat → Prop
  | none => ∀ timer, deadline timer = none
  | some next => IsLeast {armed | ∃ timer, deadline timer = some armed} next

theorem isNext_nextDeadline (bank : TimerBank) : IsNext bank.deadline bank.nextDeadline := by
  cases next : bank.nextDeadline with
  | none =>
      intro timer
      have none := List.filterMap_eq_nil_iff.mp (List.min?_eq_none_iff.mp next)
      exact none timer timer.mem_all
  | some deadline =>
      obtain ⟨member, least⟩ := List.min?_eq_some_iff.mp next
      obtain ⟨timer, _, armed⟩ := List.mem_filterMap.mp member
      refine ⟨⟨timer, armed⟩, ?_⟩
      rintro later ⟨other, waiting⟩
      exact least later (List.mem_filterMap.mpr ⟨other, other.mem_all, waiting⟩)

theorem nextDeadline_bound_iff (bank : TimerBank) (bound : Nat) :
    (∀ deadline ∈ bank.nextDeadline, bound ≤ deadline) ↔
      ∀ timer deadline, bank.deadline timer = some deadline → bound ≤ deadline := by
  have next := bank.isNext_nextDeadline
  cases earliest : bank.nextDeadline with
  | none =>
      rw [earliest] at next
      refine iff_of_true nofun ?_
      intro timer deadline armed
      cases (next timer).symm.trans armed
  | some first =>
      rw [earliest] at next
      obtain ⟨⟨timer, armed⟩, least⟩ := next
      constructor
      · intro ahead other deadline waiting
        exact (ahead first rfl).trans (least ⟨other, waiting⟩)
      · rintro all deadline ⟨⟩
        exact all timer first armed

/-!
## One timer
-/

/-- Where an armed timer stands in the order of expiry. -/
def rank (bank : TimerBank) (timer : TimerId) : Nat ×ₗ Nat :=
  toLex ((bank.deadline timer).getD 0, timer.place)

theorem rank_injective (bank : TimerBank) : Function.Injective bank.rank := by
  intro left right same
  exact TimerId.place_injective (congrArg (·.2) (toLex.injective same))

variable {bank : TimerBank} {now : Nat} {timer : TimerId}

theorem rank_earlier_le (bank : TimerBank) {first second : TimerId}
    (ordered : first.place < second.place) :
    bank.rank (bank.earlier first second) ≤ bank.rank first ∧
      bank.rank (bank.earlier first second) ≤ bank.rank second := by
  unfold earlier
  split
  · next later =>
    exact ⟨Prod.Lex.toLex_le_toLex.mpr (.inl later), le_rfl⟩
  · next sooner =>
    refine ⟨le_rfl, Prod.Lex.toLex_le_toLex.mpr ?_⟩
    rcases Nat.lt_or_eq_of_le (Nat.le_of_not_lt sooner) with lower | same
    · exact .inl lower
    · exact .inr ⟨same, Nat.le_of_lt ordered⟩

theorem rank_foldl_earlier_le {rest : List TimerId}
    (ordered : (timer :: rest).Pairwise (·.place < ·.place)) :
    ∀ other ∈ timer :: rest, bank.rank (rest.foldl bank.earlier timer) ≤ bank.rank other := by
  induction rest generalizing timer with
  | nil =>
      intro other member
      rw [List.mem_singleton.mp member]
      exact le_rfl
  | cons next rest ih =>
      intro other member
      obtain ⟨headLater, nextLater⟩ :=
        bank.rank_earlier_le (List.rel_of_pairwise_cons ordered List.mem_cons_self)
      have chosen : (bank.earlier timer next :: rest).Pairwise (·.place < ·.place) := by
        unfold earlier
        split
        · exact ordered.of_cons
        · exact ordered.sublist ((List.sublist_cons_self next rest).cons_cons timer)
      have least := ih chosen
      rw [List.foldl_cons]
      rcases List.mem_cons.mp member with rfl | member
      · exact (least _ List.mem_cons_self).trans headLater
      · rcases List.mem_cons.mp member with rfl | member
        · exact (least _ List.mem_cons_self).trans nextLater
        · exact least other (List.mem_cons_of_mem _ member)

theorem rank_firstDue_le (first : bank.firstDue now = some timer) {other : TimerId}
    (due : bank.isDue now other = true) : bank.rank timer ≤ bank.rank other := by
  have member : other ∈ TimerId.all.filter (bank.isDue now) :=
    List.mem_filter.mpr ⟨other.mem_all, due⟩
  have ordered := TimerId.all_ordered.filter (bank.isDue now)
  unfold firstDue at first
  split at first
  · cases first
  · next head rest found =>
    cases first
    rw [found] at member ordered
    exact rank_foldl_earlier_le ordered other member

theorem isDue_iff :
    bank.isDue now timer = true ↔ ∃ deadline ≤ now, bank.deadline timer = some deadline := by
  unfold isDue
  cases bank.deadline timer <;> simp

@[simp]
theorem isDue_cancel (other : TimerId) :
    (bank.cancel timer).isDue now other = (!decide (other = timer) && bank.isDue now other) := by
  unfold isDue
  by_cases same : other = timer <;> simp [same]

/-!
## Until none is due
-/

/-- The timers that are taken from a bank until there is none to take, and the bank then. -/
inductive Drains (now : Nat) : TimerBank → List TimerId → TimerBank → Prop where
  | done {bank left : TimerBank} (exhausted : bank.takeExpired now = (none, left)) :
      Drains now bank [] left
  | take {bank disarmed left : TimerBank} {timer : TimerId} {taken : List TimerId}
      (expired : bank.takeExpired now = (some timer, disarmed))
      (later : Drains now disarmed taken left) : Drains now bank (timer :: taken) left

theorem undue_of_exhausted {left : TimerBank} (exhausted : bank.takeExpired now = (none, left)) :
    left = bank ∧ ∀ timer, ¬ bank.isDue now timer = true := by
  unfold takeExpired at exhausted
  split at exhausted
  · next none =>
    cases exhausted
    have undue := List.countP_eq_zero.mp (dueCount_of_firstDue none)
    exact ⟨rfl, fun timer => undue timer timer.mem_all⟩
  · cases exhausted

theorem first_of_expired {disarmed : TimerBank}
    (expired : bank.takeExpired now = (some timer, disarmed)) :
    disarmed = bank.cancel timer ∧ bank.isDue now timer = true ∧
      ∀ other, bank.isDue now other = true → bank.rank timer ≤ bank.rank other := by
  unfold takeExpired at expired
  split at expired
  · cases expired
  · next first =>
    cases expired
    exact ⟨rfl, isDue_of_firstDue first, fun other => rank_firstDue_le first⟩

theorem exists_drains (bank : TimerBank) (now : Nat) :
    ∃ taken left, bank.Drains now taken left := by
  induction count : bank.dueCount now using Nat.strong_induction_on generalizing bank with
  | _ count ih =>
      cases expired : bank.takeExpired now with
      | mk answer disarmed =>
          cases answer with
          | none => exact ⟨[], disarmed, .done expired⟩
          | some timer =>
              obtain ⟨rfl, due, _⟩ := first_of_expired expired
              have fewer := dueCount_lt (fun _ => .inr rfl) due
              obtain ⟨taken, left, later⟩ := ih _ (count ▸ fewer) _ rfl
              exact ⟨timer :: taken, left, .take expired later⟩

namespace Drains

variable {left : TimerBank} {taken : List TimerId}

theorem unique (drains : bank.Drains now taken left) {others : List TimerId} {other : TimerBank}
    (again : bank.Drains now others other) : others = taken ∧ other = left := by
  induction drains generalizing others with
  | done exhausted =>
      cases again with
      | done also => exact ⟨rfl, (Prod.mk.inj (also.symm.trans exhausted)).2⟩
      | take expired => cases exhausted.symm.trans expired
  | take expired _ ih =>
      cases again with
      | done exhausted => cases exhausted.symm.trans expired
      | take also later =>
          cases also.symm.trans expired
          obtain ⟨rfl, rfl⟩ := ih later
          exact ⟨rfl, rfl⟩

theorem mem_iff (drains : bank.Drains now taken left) (timer : TimerId) :
    timer ∈ taken ↔ bank.isDue now timer = true := by
  induction drains with
  | done exhausted => exact iff_of_false List.not_mem_nil ((undue_of_exhausted exhausted).2 timer)
  | @take bank _ _ first _ expired _ ih =>
      obtain ⟨rfl, due, _⟩ := first_of_expired expired
      by_cases same : timer = first
      · subst same
        exact iff_of_true List.mem_cons_self due
      · simp [ih, same]

theorem deadline (drains : bank.Drains now taken left) (timer : TimerId) :
    left.deadline timer = (bank.deadline timer).filter (now < ·) := by
  induction drains with
  | @done _ left exhausted =>
      obtain ⟨rfl, undue⟩ := undue_of_exhausted exhausted
      cases armed : left.deadline timer with
      | none => rfl
      | some deadline =>
          have ahead : now < deadline :=
            Nat.lt_of_not_le fun due => undue timer (isDue_iff.mpr ⟨deadline, due, armed⟩)
          simp [Option.filter_some, ahead]
  | @take bank _ _ first _ expired _ ih =>
      obtain ⟨rfl, due, _⟩ := first_of_expired expired
      by_cases same : timer = first
      · subst same
        obtain ⟨deadline, reached, armed⟩ := isDue_iff.mp due
        simp [ih, armed, Option.filter_some, reached]
      · simp [ih, same]

/-- No timer moves while another one is taken, so that each goes before those taken after it. -/
theorem ordered (drains : bank.Drains now taken left) :
    taken.Pairwise fun first second => bank.rank first < bank.rank second := by
  induction drains with
  | done => exact .nil
  | @take bank _ _ first taken expired later ih =>
      obtain ⟨rfl, _, least⟩ := first_of_expired expired
      have remains : ∀ timer ∈ taken, timer ≠ first ∧ bank.isDue now timer = true := by
        intro timer member
        simpa using (later.mem_iff timer).mp member
      have unmoved : ∀ timer ∈ taken, (bank.cancel first).rank timer = bank.rank timer := by
        intro timer member
        simp [rank, (remains timer member).1]
      refine List.pairwise_cons.mpr ⟨?_, ?_⟩
      · intro timer member
        obtain ⟨other, due⟩ := remains timer member
        exact lt_of_le_of_ne (least timer due) fun same => other (bank.rank_injective same).symm
      · refine ih.imp_of_mem ?_
        intro before after earlier later inOrder
        rwa [unmoved before earlier, unmoved after later] at inOrder

theorem firesBefore (drains : bank.Drains now taken left) :
    taken.Pairwise (TimerId.FiresBefore bank.deadline) := by
  refine drains.ordered.imp_of_mem ?_
  intro first second before after inOrder
  obtain ⟨sooner, _, armed⟩ := isDue_iff.mp ((drains.mem_iff first).mp before)
  obtain ⟨later, _, waiting⟩ := isDue_iff.mp ((drains.mem_iff second).mp after)
  unfold rank at inOrder
  rw [armed, waiting] at inOrder
  exact ⟨sooner, later, armed, waiting, Prod.Lex.toLex_lt_toLex.mp inOrder⟩

end Drains

open TimerCall

/-- Timers that are taken, after some calls, until there is none to take, and the bank that is
left. -/
structure TakenInOrder (clock : Clock) (calls : List TimerCall) (now : Nat) (taken : List TimerId)
    (left : TimerBank) : Prop where
  drains : Drains now (after clock calls) taken left
  unique : ∀ others other, Drains now (after clock calls) others other →
    others = taken ∧ other = left
  /-- They are those whose deadline has been reached. -/
  due : ∀ timer, timer ∈ taken ↔ ∃ deadline ≤ now, lastDeadline clock calls timer = some deadline
  once : taken.Nodup
  /-- They go by deadline and then by place. -/
  ordered : taken.Pairwise (TimerId.FiresBefore (lastDeadline clock calls))
  /-- The other timers keep the deadlines that they had. -/
  waiting : ∀ timer, left.deadline timer = (lastDeadline clock calls timer).filter (now < ·)
  nextBefore : IsNext (lastDeadline clock calls) (after clock calls).nextDeadline
  nextAfter : IsNext left.deadline left.nextDeadline

/-- Whatever calls came before, the timers that are due are taken in order, and there is an end to
it. -/
theorem expires_in_order (clock : Clock) (calls : List TimerCall) (now : Nat) :
    ∃ taken left, TakenInOrder clock calls now taken left := by
  obtain ⟨taken, left, drains⟩ := exists_drains (after clock calls) now
  have history : (after clock calls).deadline = lastDeadline clock calls :=
    funext (deadline_after clock calls)
  refine ⟨taken, left, {
    drains
    unique := fun _ _ again => drains.unique again
    due := ?_
    once := ?_
    ordered := ?_
    waiting := ?_
    nextBefore := ?_
    nextAfter := isNext_nextDeadline left }⟩
  · intro timer
    rw [drains.mem_iff, isDue_iff, history]
  · refine drains.ordered.imp ?_
    intro first second inOrder same
    exact lt_irrefl _ (same ▸ inOrder)
  · rw [← history]
    exact drains.firesBefore
  · rw [← history]
    exact drains.deadline
  · rw [← history]
    exact isNext_nextDeadline _

/-- Two timers for the same instant, armed against their order, and one that is armed anew. -/
def tiedCalls : List TimerCall :=
  [.arm .recoveryReset 10 (Duration.ofMicros 40), .arm .recovery 0 (Duration.ofMicros 20),
    .arm .supplyDetect 30 (Duration.ofMicros 20), .arm .recovery 30 (Duration.ofMicros 70)]

/-- The tied timers are taken in their order, and the other one waits for its new deadline. -/
theorem expires_in_order_tied :
    let bank := after .micros tiedCalls
    bank.nextDeadline = some 50 ∧
      ∃ left, Drains 60 bank [.supplyDetect, .recoveryReset] left ∧
        left.deadline .recovery = some 100 ∧ left.nextDeadline = some 100 := by
  intro bank
  obtain ⟨taken, left, inOrder⟩ := expires_in_order .micros tiedCalls 60
  obtain ⟨rfl, rfl⟩ := inOrder.unique _ _ (.take rfl (.take rfl (.done rfl)))
  exact ⟨rfl, _, inOrder.drains, (inOrder.waiting .recovery).trans rfl, rfl⟩

end TimerBank

end CircuitBreaker
