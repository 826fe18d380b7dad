import CircuitBreaker.Stepper
import CircuitBreaker.Telemetry
import Mathlib.Data.List.DropRight
import Mathlib.Data.List.ReduceOption

/-!
# The newest records

What a log holds after any records and clears, compared with all that was ever recorded: the newest
records since the last clear, as many as it has room for. Their numbers go on through every clear
and every record that gave way.
-/

set_option autoImplicit false

namespace CircuitBreaker

inductive LogCall where
  | record (event : LogEvent) (time : Nat)
  | clear
deriving DecidableEq, Repr

namespace LogCall

def logged? : LogCall → Option (LogEvent × Nat)
  | record event time => some (event, time)
  | clear => none

/-- Every record that some calls make, those that gave way or were cleared too, oldest first. -/
def made (calls : List LogCall) : List LogRecord :=
  (calls.filterMap logged?).mapIdx fun earlier (event, time) => ⟨UInt32.ofNat earlier, time, event⟩

def madeSinceClear (calls : List LogCall) : List LogRecord :=
  (made calls).rtake (calls.rtakeWhile (· ≠ .clear)).length

variable (calls : List LogCall) (event : LogEvent) (time : Nat)

theorem made_record :
    made (calls ++ [.record event time]) =
      made calls ++ [⟨UInt32.ofNat (made calls).length, time, event⟩] := by
  simp [made, logged?, List.mapIdx_append]

theorem made_clear : made (calls ++ [.clear]) = made calls := by
  rw [made, List.filterMap_append]
  exact congrArg (List.mapIdx _) (List.append_nil _)

theorem length_made : (made calls).length = calls.countP (· ≠ .clear) := by
  rw [made, List.length_mapIdx, List.length_filterMap_eq_countP]
  apply List.countP_congr
  intro call _
  cases call <;> simp [logged?]

theorem madeSinceClear_record :
    madeSinceClear (calls ++ [.record event time]) =
      madeSinceClear calls ++ [⟨UInt32.ofNat (made calls).length, time, event⟩] := by
  rw [madeSinceClear, List.rtakeWhile_concat_pos _ _ _ (by simp), made_record,
    List.length_append, List.length_singleton, List.rtake_concat_succ]
  rfl

theorem madeSinceClear_clear : madeSinceClear (calls ++ [.clear]) = [] := by
  rw [madeSinceClear, List.rtakeWhile_concat_neg _ _ _ (by simp), List.length_nil, List.rtake_zero]

end LogCall

namespace EventLog

open LogCall

variable {capacity : Nat}

/-- A call, answered with the number of the record that it makes. -/
def meet (log : EventLog capacity) : LogCall → Option UInt32 × EventLog capacity
  | .record event time => (some log.nextId, log.add event time)
  | .clear => (none, log.clear)

def after (capacity : Nat) (calls : List LogCall) : EventLog capacity :=
  (runAll meet calls .empty).2

def numbers (capacity : Nat) (calls : List LogCall) : List UInt32 :=
  (runAll (@meet capacity) calls .empty).1.reduceOption

variable (calls : List LogCall)

theorem after_concat (call : LogCall) :
    after capacity (calls ++ [call]) = ((after capacity calls).meet call).2 := by
  rw [after, runAll_append]
  rfl

theorem numbers_concat (call : LogCall) :
    numbers capacity (calls ++ [call]) =
      numbers capacity calls ++ ((after capacity calls).meet call).1.toList := by
  rw [numbers, runAll_append, List.reduceOption_append]
  cases call <;> rfl

/-- What gave way before does not matter for what gives way now. -/
theorem rtake_rtake_concat {α : Type} (size : Nat) (items : List α) (item : α) :
    (items.rtake size ++ [item]).rtake size = (items ++ [item]).rtake size := by
  cases size with
  | zero => simp
  | succ size =>
      simp only [List.rtake_concat_succ]
      congr 1
      simp only [List.rtake_eq_reverse_take_reverse, List.reverse_reverse, List.take_take]
      congr 2
      omega

/-- The next number counts every record that was made. -/
theorem nextId_after : (after capacity calls).nextId = UInt32.ofNat (made calls).length := by
  induction calls using List.reverseRecOn with
  | nil => rfl
  | append_singleton calls call ih =>
      rw [after_concat]
      cases call with
      | record event time =>
          rw [made_record, List.length_append, List.length_singleton, UInt32.ofNat_add, ← ih]
          rfl
      | clear =>
          rw [made_clear, ← ih]
          rfl

theorem numbers_eq : numbers capacity calls = (made calls).map LogRecord.id := by
  induction calls using List.reverseRecOn with
  | nil => rfl
  | append_singleton calls call ih =>
      rw [numbers_concat, ih]
      cases call with
      | record event time =>
          rw [made_record, List.map_append, ← @nextId_after capacity]
          rfl
      | clear =>
          rw [made_clear]
          exact List.append_nil _

theorem records_after :
    (after capacity calls).records = (madeSinceClear calls).rtake capacity := by
  induction calls using List.reverseRecOn with
  | nil => simp [after, runAll, runOnto, empty, madeSinceClear, made, List.rtake]
  | append_singleton calls call ih =>
      rw [after_concat]
      cases call with
      | record event time =>
          rw [madeSinceClear_record, ← rtake_rtake_concat, ← ih, ← @nextId_after capacity]
          rfl
      | clear =>
          rw [madeSinceClear_clear, List.rtake_nil]
          rfl

/-- Records are numbered from zero on in 32 bits, whatever is cleared. A log holds the newest of
those made since the last clear, as many as it has room for, in the order in which they were made,
and its latest record is the last one of these. -/
theorem newest_kept (positive : 0 < capacity) :
    (numbers capacity calls).length = calls.countP (· ≠ .clear) ∧
      (∀ earlier number, (numbers capacity calls)[earlier]? = some number →
        number.toNat = earlier % 0x100000000) ∧
      (after capacity calls).records = (madeSinceClear calls).rtake capacity ∧
      (after capacity calls).records.length = min (madeSinceClear calls).length capacity ∧
      (after capacity calls).latest = (madeSinceClear calls).getLast? := by
  refine ⟨?_, ?_, records_after calls, ?_, ?_⟩
  · rw [numbers_eq, List.length_map, length_made]
  · intro earlier number given
    rw [numbers_eq, List.getElem?_map, made, List.getElem?_mapIdx, Option.map_map,
      Option.map_eq_some_iff] at given
    obtain ⟨entry, _, rfl⟩ := given
    exact UInt32.toNat_ofNat'
  · rw [records_after, List.rtake, List.length_drop]
    omega
  · rw [latest, records_after, List.rtake, List.getLast?_drop]
    split
    · next short =>
      have silent : madeSinceClear calls = [] := List.length_eq_zero_iff.mp (by omega)
      rw [silent]
      rfl
    · rfl

/-- Ten records into room for four, a clear and one more record: the four newest ones had stayed,
and the last one is number ten. -/
theorem newest_kept_trips :
    let ten := (List.range 10).map fun time => LogCall.record (.tripped .overCurrentHardware) time
    let more : List LogCall := [.clear, .record (.tripped .external) 11]
    (after 4 ten).records = (madeSinceClear ten).rtake 4 ∧
      ((after 4 ten).records.map fun record => record.id.toNat) = [6, 7, 8, 9] ∧
      (after 4 (ten ++ more)).latest = some ⟨10, 11, .tripped .external⟩ := by
  intro ten more
  have kept := @newest_kept 4 ten (by decide)
  have cleared := @newest_kept 4 (ten ++ more) (by decide)
  refine ⟨kept.2.2.1, ?_, ?_⟩
  · rw [kept.2.2.1]
    decide +kernel
  · rw [cleared.2.2.2.2]
    decide +kernel

end EventLog

end CircuitBreaker
