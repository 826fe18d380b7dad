/-!
# Lines

A text as the lines in it. A line feed ends a line, and a carriage return right
before it belongs to the end; what stands after the last line feed is a line too,
if it is not empty.
-/

set_option autoImplicit false

namespace CircuitBreaker.Text

/-- Puts a symbol in front of the first line. -/
def prependTo {α : Type} (symbol : α) : List (List α) → List (List α)
  | [] => [[symbol]]
  | line :: others => (symbol :: line) :: others

/-- The lines of a text whose line feed and carriage return are these symbols. -/
def splitLines {α : Type} [DecidableEq α] (feed carriage : α) : List α → List (List α)
  | [] => []
  | [symbol] => if symbol = feed then [[]] else [[symbol]]
  | symbol :: next :: rest =>
      if symbol = feed then [] :: splitLines feed carriage (next :: rest)
      else if symbol = carriage ∧ next = feed then [] :: splitLines feed carriage rest
      else prependTo symbol (splitLines feed carriage (next :: rest))

def lines (text : String) : List String :=
  (splitLines '\n' '\r' text.toList).map String.ofList

end CircuitBreaker.Text
