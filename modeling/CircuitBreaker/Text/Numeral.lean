/-!
# Numerals

Decimal numbers as they are typed: a zero stands alone, and any other number
starts with another digit.
-/

set_option autoImplicit false

namespace CircuitBreaker.Text

def digitValue (digit : Char) : Nat := digit.toNat - '0'.toNat

def digitsValue (digits : List Char) : Nat :=
  digits.foldl (fun value digit => 10 * value + digitValue digit) 0

/-- Reads the longest numeral that a text starts with, and gives the text after it.
A number above `max` is refused. -/
def readNumeral (max : Nat) : List Char → Option (Nat × List Char)
  | [] => none
  | first :: rest =>
      if first = '0' then some (0, rest)
      else if first.isDigit then
        let value := digitsValue (first :: rest.takeWhile Char.isDigit)
        if value ≤ max then some (value, rest.dropWhile Char.isDigit) else none
      else none

/-- The number of a word that is a numeral and nothing else. -/
def numeral? (max : Nat) (word : List Char) : Option Nat :=
  match readNumeral max word with
  | some (value, []) => some value
  | _ => none

/-- The number of a word that is a numeral, with a sign in front if it is not zero. -/
def integer? (word : List Char) : Option Int :=
  match word with
  | '-' :: magnitude => negative magnitude
  | '+' :: magnitude => positive magnitude
  | _ => (numeral? 0x7fffffff word).map Int.ofNat
where
  nonzero (max : Nat) (magnitude : List Char) : Option Nat :=
    (numeral? max magnitude).filter fun value => value ≠ 0
  positive (magnitude : List Char) : Option Int := (nonzero 0x7fffffff magnitude).map Int.ofNat
  negative (magnitude : List Char) : Option Int :=
    (nonzero 0x80000000 magnitude).map fun value => -(value : Int)

/-- A number right-aligned in a column of `width` characters. -/
def alignRight (width number : Nat) : String :=
  String.ofList ((toString number).toList.leftpad width ' ')

end CircuitBreaker.Text
