import Mathlib.Algebra.Order.Ring.Nat
import Mathlib.Data.List.DropRight
import Mathlib.Data.List.Induction
import Mathlib.Data.Nat.Sqrt
import CircuitBreaker.Meter.Rms

/-!
# Windows of samples

An RMS window counts from the last reset: every `size`-th sample since then completes it, and what
it gives is the root mean square of the last `size` samples, however many windows went before.
-/

set_option autoImplicit false

namespace CircuitBreaker

/-!
## Whole windows
-/

/-- The items behind the last whole window. -/
def underWay {α : Type} (size : Nat) (items : List α) : List α :=
  items.drop (items.length / size * size)

section Windows

variable {α : Type} {size : Nat}

theorem underWay_nil : underWay size ([] : List α) = [] := List.drop_nil

theorem length_underWay (items : List α) : (underWay size items).length = items.length % size := by
  rw [underWay, List.length_drop, Nat.mod_eq_sub_div_mul]

theorem length_rtake_le (size : Nat) (items : List α) : (items.rtake size).length ≤ size := by
  rw [List.rtake, List.length_drop]
  omega

theorem dvd_succ_iff (positive : 0 < size) (count : Nat) :
    size ∣ count + 1 ↔ ¬ count % size + 1 < size := by
  obtain ⟨last, rfl⟩ : ∃ last, size = last + 1 := ⟨size - 1, by omega⟩
  have bound := Nat.mod_lt count positive
  rw [Nat.dvd_iff_mod_eq_zero, Nat.succ_mod_succ_eq_zero_iff]
  omega

theorem whole_of_dvd (positive : 0 < size) {count : Nat} (completes : size ∣ count + 1) :
    (count / size + 1) * size = count + 1 := by
  have last := (dvd_succ_iff positive count).mp completes
  have bound := Nat.mod_lt count positive
  have division := Nat.div_add_mod' count size
  rw [Nat.succ_mul]
  omega

theorem underWay_concat (positive : 0 < size) (items : List α) (item : α) :
    underWay size (items ++ [item]) =
      if size ∣ items.length + 1 then [] else underWay size items ++ [item] := by
  rw [underWay, List.length_append, List.length_singleton, Nat.succ_div]
  split
  · next completes =>
    rw [whole_of_dvd positive completes]
    exact List.drop_eq_nil_of_le (by simp)
  · exact List.drop_append_of_le_length (Nat.div_mul_le_self _ _)

/-- The item that completes a window does so together with those under way. -/
theorem rtake_concat (positive : 0 < size) {items : List α} {item : α}
    (completes : size ∣ items.length + 1) :
    (items ++ [item]).rtake size = underWay size items ++ [item] := by
  have whole := whole_of_dvd positive completes
  rw [Nat.succ_mul] at whole
  rw [List.rtake, underWay, List.length_append, List.length_singleton, ← whole,
    Nat.add_sub_cancel]
  exact List.drop_append_of_le_length (Nat.div_mul_le_self _ _)

end Windows

/-!
## The accumulator
-/

/-- What an RMS window meets. -/
inductive RmsInput where
  | sample (code : UInt16)
  /-- The samples under way are discarded. -/
  | reset
deriving DecidableEq, Repr

namespace RmsInput

def sinceReset (inputs : List RmsInput) : List UInt16 :=
  inputs.foldl (fun codes input =>
    match input with
    | .sample code => codes ++ [code]
    | .reset => []) []

theorem sinceReset_sample (inputs : List RmsInput) (code : UInt16) :
    sinceReset (inputs ++ [.sample code]) = sinceReset inputs ++ [code] := by
  rw [sinceReset, List.foldl_append]
  rfl

theorem sinceReset_reset (inputs : List RmsInput) : sinceReset (inputs ++ [.reset]) = [] := by
  rw [sinceReset, List.foldl_append]
  rfl

end RmsInput

def sumOfSquares (offset : UInt16) (codes : List UInt16) : Nat :=
  (codes.map fun code => ((code.toNat : Int) - offset.toNat).natAbs ^ 2).sum

def rootMeanSquare (size : Nat) (offset : UInt16) (codes : List UInt16) : Nat :=
  (sumOfSquares offset codes / size).sqrt

theorem sumOfSquares_le (offset : UInt16) (codes : List UInt16) :
    sumOfSquares offset codes ≤ codes.length * 65535 ^ 2 := by
  induction codes with
  | nil => exact Nat.zero_le _
  | cons code codes ih =>
      have low := code.toNat_lt
      have high := offset.toNat_lt
      have distance : ((code.toNat : Int) - offset.toNat).natAbs ≤ 65535 := by omega
      have square := Nat.pow_le_pow_left distance 2
      unfold sumOfSquares at ih ⊢
      rw [List.map_cons, List.sum_cons, List.length_cons, Nat.succ_mul]
      omega

theorem rootMeanSquare_lt {size : Nat} (offset : UInt16) {codes : List UInt16}
    (short : codes.length ≤ size) : rootMeanSquare size offset codes < 2 ^ 16 := by
  have sum := sumOfSquares_le offset codes
  have mean : sumOfSquares offset codes / size ≤ 65535 ^ 2 := by
    apply Nat.div_le_of_le_mul
    exact sum.trans (Nat.mul_le_mul_right _ short)
  apply Nat.sqrt_lt'.mpr
  omega

namespace RmsWindow

open RmsInput

def meet (window : RmsWindow) : RmsInput → RmsWindow
  | .sample code => (window.push code).2
  | .reset => window.reset

def run (window : RmsWindow) (inputs : List RmsInput) : RmsWindow := inputs.foldl meet window

theorem run_concat (window : RmsWindow) (inputs : List RmsInput) (input : RmsInput) :
    window.run (inputs ++ [input]) = (window.run inputs).meet input := by
  rw [run, List.foldl_append]
  rfl

/-- The window that has these samples under way. -/
def holding (offset : UInt16) (shift : Nat) (codes : List UInt16) : RmsWindow where
  offset := offset
  shift := shift
  sum := sumOfSquares offset codes
  samples := codes.length

theorem sum_add_square (offset : UInt16) (shift : Nat) (codes : List UInt16) (code : UInt16) :
    (holding offset shift codes).sum + (holding offset shift codes).square code =
      sumOfSquares offset (codes ++ [code]) := by
  simp [holding, sumOfSquares, square, Nat.pow_two]

theorem push_holding (offset : UInt16) (shift : Nat) (codes : List UInt16) (code : UInt16) :
    (holding offset shift codes).push code =
      if codes.length + 1 < 2 ^ shift then (none, holding offset shift (codes ++ [code]))
      else (some (sumOfSquares offset (codes ++ [code]) / 2 ^ shift).sqrt,
        holding offset shift []) := by
  have size : (holding offset shift codes).size = 2 ^ shift := Nat.one_shiftLeft shift
  unfold push
  rw [sum_add_square, size]
  change (if codes.length + 1 < 2 ^ shift then _ else _) = _
  split
  · simp [holding]
  · rfl

/-- What a sample after some inputs does: the last one of a window completes it. -/
theorem push_underWay (offset : UInt16) (shift : Nat) (codes : List UInt16) (code : UInt16) :
    (holding offset shift (underWay (2 ^ shift) codes)).push code =
      (if 2 ^ shift ∣ codes.length + 1 then
          some (rootMeanSquare (2 ^ shift) offset ((codes ++ [code]).rtake (2 ^ shift)))
        else none,
        holding offset shift (underWay (2 ^ shift) (codes ++ [code]))) := by
  have positive : 0 < 2 ^ shift := Nat.two_pow_pos shift
  rw [push_holding, length_underWay, underWay_concat positive]
  by_cases completes : 2 ^ shift ∣ codes.length + 1
  · rw [if_neg ((dvd_succ_iff positive _).mp completes), if_pos completes, if_pos completes,
      rtake_concat positive completes, rootMeanSquare]
  · have open' := Decidable.not_not.mp (mt (dvd_succ_iff positive codes.length).mpr completes)
    rw [if_pos open', if_neg completes, if_neg completes]

theorem run_eq (offset : UInt16) (shift : Nat) (inputs : List RmsInput) :
    (ofShift offset shift).run inputs =
      holding offset (min shift 16) (underWay (2 ^ min shift 16) (sinceReset inputs)) := by
  induction inputs using List.reverseRecOn with
  | nil =>
      rw [sinceReset, List.foldl_nil, underWay_nil]
      rfl
  | append_singleton inputs input ih =>
      rw [run_concat, ih]
      cases input with
      | sample code => rw [meet, push_underWay, sinceReset_sample]
      | reset =>
          rw [sinceReset_reset, underWay_nil]
          rfl

theorem push_run (offset : UInt16) (shift : Nat) (inputs : List RmsInput) (code : UInt16) :
    (((ofShift offset shift).run inputs).push code).1 =
      if 2 ^ min shift 16 ∣ (sinceReset inputs).length + 1 then
        some (rootMeanSquare (2 ^ min shift 16) offset
          ((sinceReset inputs ++ [code]).rtake (2 ^ min shift 16)))
      else none := by
  rw [run_eq, push_underWay]

/-- The sum never leaves 48 bits. -/
theorem sum_run_lt (offset : UInt16) (shift : Nat) (inputs : List RmsInput) (code : UInt16) :
    ((ofShift offset shift).run inputs).sum + ((ofShift offset shift).run inputs).square code <
      2 ^ 48 := by
  rw [run_eq, sum_add_square]
  have sum := sumOfSquares_le offset (underWay (2 ^ min shift 16) (sinceReset inputs) ++ [code])
  have under := Nat.mod_lt (sinceReset inputs).length (Nat.two_pow_pos (min shift 16))
  have size : 2 ^ min shift 16 ≤ 2 ^ 16 := Nat.pow_le_pow_right (by decide) (Nat.min_le_right _ _)
  rw [List.length_append, length_underWay, List.length_singleton] at sum
  omega

end RmsWindow

end CircuitBreaker
