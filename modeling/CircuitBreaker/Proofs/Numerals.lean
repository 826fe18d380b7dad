import CircuitBreaker.Text.Numeral
import Mathlib.Data.List.Basic
import Mathlib.Data.List.Induction
import Mathlib.Data.List.TakeWhile

/-!
# Numerals are the digits of numbers

A numeral is read back exactly if it is what the number is written as. Reading from the front of a
text takes all digits that follow, except after a zero.
-/

set_option autoImplicit false

namespace CircuitBreaker.Text

theorem digitValue_digitChar {digit : Nat} (small : digit < 10) :
    digitValue digit.digitChar = digit :=
  Nat.toNat_digitChar_sub_48_of_lt_ten small

theorem digitChar_digitValue {digit : Char} (decimal : digit.isDigit = true) :
    digitValue digit < 10 ∧ (digitValue digit).digitChar = digit := by
  have range : 48 ≤ digit.toNat ∧ digit.toNat ≤ 57 := Char.isDigit_iff_toNat.mp decimal
  have within : digitValue digit < 10 := by
    change digit.toNat - 48 < 10
    omega
  refine ⟨within, Char.toNat_inj.mp ?_⟩
  rw [Nat.toNat_digitChar_of_lt_ten within]
  change 48 + (digit.toNat - 48) = digit.toNat
  omega

theorem digitsValue_concat (digits : List Char) (digit : Char) :
    digitsValue (digits ++ [digit]) = 10 * digitsValue digits + digitValue digit := by
  simp [digitsValue]

theorem digitsValue_toDigits (value : Nat) : digitsValue (Nat.toDigits 10 value) = value := by
  induction value using Nat.strongRecOn with
  | ind value ih =>
      rw [Nat.toDigits_eq_if (by decide)]
      split
      · next small => simp [digitsValue, digitValue_digitChar small]
      · next large =>
        rw [digitsValue_concat, ih _ (by omega), digitValue_digitChar (by omega)]
        omega

/-- A number above zero is not written with a zero in front. -/
theorem toDigits_head_ne {value : Nat} (positive : 0 < value) :
    (Nat.toDigits 10 value).head? ≠ some '0' := by
  induction value using Nat.strongRecOn with
  | ind value ih =>
      rw [Nat.toDigits_eq_if (by decide)]
      split
      · intro zero
        rw [List.head?_cons, Option.some.injEq, Nat.digitChar_eq_zero] at zero
        omega
      · rw [List.head?_append_of_ne_nil _ Nat.toDigits_ne_nil]
        exact ih _ (by omega) (by omega)

/-- Digits without a zero in front are what the number that they stand for is written as. -/
theorem toDigits_digitsValue {digits : List Char} (solid : digits ≠ [])
    (decimal : ∀ digit ∈ digits, digit.isDigit = true) (plain : digits.head? ≠ some '0') :
    0 < digitsValue digits ∧ Nat.toDigits 10 (digitsValue digits) = digits := by
  induction digits using List.reverseRecOn with
  | nil => exact absurd rfl solid
  | append_singleton front last ih =>
      obtain ⟨small, same⟩ := digitChar_digitValue (decimal last (by simp))
      rw [digitsValue_concat]
      cases front with
      | nil =>
          have positive : digitValue last ≠ 0 := by
            intro zero
            rw [zero] at same
            exact plain (by rw [← same]; rfl)
          simp only [digitsValue, List.foldl_nil, Nat.mul_zero, Nat.zero_add]
          rw [Nat.toDigits_of_lt_base small, same]
          exact ⟨Nat.pos_of_ne_zero positive, rfl⟩
      | cons first rest =>
          obtain ⟨positive, written⟩ := ih (List.cons_ne_nil _ _)
            (fun digit member => decimal digit (List.mem_append_left _ member)) plain
          refine ⟨by omega, ?_⟩
          rw [Nat.toDigits_of_base_le (by decide) (by omega), Nat.mul_add_div (by decide),
            Nat.div_eq_of_lt small, Nat.add_zero, written, Nat.mul_add_mod, Nat.mod_eq_of_lt small,
            same]

/-- No digit stands in front. -/
def Undigited (text : List Char) : Prop := ∀ char ∈ text.head?, char.isDigit = false

theorem takeWhile_of_undigited {text : List Char} (ends : Undigited text) :
    text.takeWhile Char.isDigit = [] ∧ text.dropWhile Char.isDigit = text := by
  cases text with
  | nil => exact ⟨rfl, rfl⟩
  | cons first rest =>
      have other : first.isDigit = false := ends first rfl
      simp [other]

theorem undigited_dropWhile (text : List Char) : Undigited (text.dropWhile Char.isDigit) := by
  intro char first
  have ends := List.head?_dropWhile_not Char.isDigit text
  rw [first] at ends
  simpa using ends

/-- What is read from the front of a text is a number as it is written. Digits may follow it only if
it is zero. -/
theorem readNumeral_eq_some {max value : Nat} {text rest : List Char} :
    readNumeral max text = some (value, rest) ↔
      value ≤ max ∧ text = Nat.toDigits 10 value ++ rest ∧ (value = 0 ∨ Undigited rest) := by
  constructor
  · intro read
    unfold readNumeral at read
    split at read
    · cases read
    · next first others =>
      split at read
      · next zero =>
        cases read
        exact ⟨Nat.zero_le _, by rw [zero]; rfl, .inl rfl⟩
      · next nonzero =>
        split at read
        · next decimal =>
          dsimp only at read
          split at read
          · next small =>
            cases read
            have all : ∀ digit ∈ first :: others.takeWhile Char.isDigit, digit.isDigit = true :=
              List.forall_mem_cons.mpr ⟨decimal, fun _ member => List.mem_takeWhile_imp member⟩
            obtain ⟨_, written⟩ := toDigits_digitsValue (List.cons_ne_nil _ _) all
              (by simpa using nonzero)
            refine ⟨small, ?_, .inr (undigited_dropWhile others)⟩
            rw [written, List.cons_append, List.takeWhile_append_dropWhile]
          · cases read
        · cases read
  · rintro ⟨small, rfl, ends⟩
    rcases Nat.eq_zero_or_pos value with rfl | positive
    · rfl
    · have undigited := ends.resolve_left (Nat.ne_of_gt positive)
      obtain ⟨first, others, shape⟩ := List.exists_cons_of_ne_nil (Nat.toDigits_ne_nil (n := value)
        (b := 10))
      have decimal (digit : Char) (member : digit ∈ first :: others) : digit.isDigit = true :=
        Nat.isDigit_of_mem_toDigits (by decide) (by decide) (shape ▸ member)
      have plain := toDigits_head_ne positive
      have same := digitsValue_toDigits value
      rw [shape] at plain same ⊢
      obtain ⟨none, all⟩ := takeWhile_of_undigited undigited
      obtain ⟨leading, following⟩ := List.forall_mem_cons.mp decimal
      rw [List.cons_append, readNumeral, if_neg (by simpa using plain), if_pos leading,
        List.takeWhile_append_of_pos following, none, List.append_nil, same,
        List.dropWhile_append_of_pos following, all]
      exact if_pos small

/-- A word is a numeral if it is a number as it is written. -/
theorem numeral?_eq_some {max value : Nat} {word : List Char} :
    numeral? max word = some value ↔ value ≤ max ∧ word = Nat.toDigits 10 value := by
  have whole : readNumeral max word = some (value, []) ↔
      value ≤ max ∧ word = Nat.toDigits 10 value := by
    rw [readNumeral_eq_some, List.append_nil]
    simp [Undigited]
  rw [← whole, numeral?]
  split
  · next read => simp [read]
  · next unread =>
    refine iff_of_false (by simp) fun read => unread value read

end CircuitBreaker.Text
