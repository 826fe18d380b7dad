/-!
# Words

A line as words with spaces or tabs between them.
-/

set_option autoImplicit false

namespace CircuitBreaker.Text

/-- The characters that part two words. -/
def isGap (char : Char) : Bool := char = ' ' || char = '\t'

/-- The pieces between the gaps, the empty ones included. -/
def pieces : List Char → List (List Char)
  | [] => [[]]
  | char :: rest =>
      if isGap char then [] :: pieces rest
      else
        match pieces rest with
        | [] => [[char]]
        | piece :: others => (char :: piece) :: others

def words (line : List Char) : List (List Char) :=
  (pieces line).filter fun piece => !piece.isEmpty

end CircuitBreaker.Text
