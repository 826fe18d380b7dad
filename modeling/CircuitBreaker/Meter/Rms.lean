/-!
# RMS windows

The root mean square of a stream of samples over windows of `2 ^ shift` samples.
-/

set_option autoImplicit false

namespace CircuitBreaker

/-- The part of a window seen so far: how many samples, and the sum of the
squares of their distances from the offset. -/
structure RmsWindow where
  offset : UInt16
  shift : Nat
  sum : Nat := 0
  samples : Nat := 0
deriving DecidableEq, Repr

namespace RmsWindow

/-- The largest supported shift; a window of that length sums below `2 ^ 48`. -/
def maxShift : Nat := 16

/-- An empty window of `2 ^ shift` samples, with the shift cut to `maxShift`. -/
def ofShift (offset : UInt16) (shift : Nat) : RmsWindow where
  offset := offset
  shift := min shift maxShift

def size (window : RmsWindow) : Nat := 1 <<< window.shift

def reset (window : RmsWindow) : RmsWindow := { window with sum := 0, samples := 0 }

def square (window : RmsWindow) (code : UInt16) : Nat :=
  let distance := ((code.toNat : Int) - window.offset.toNat).natAbs
  distance * distance

/-- Adds a sample. The sample that completes a window gives the floor of the root
of the floored mean square, and an empty window follows. -/
def push (window : RmsWindow) (code : UInt16) : Option Nat × RmsWindow :=
  let sum := window.sum + window.square code
  let samples := window.samples + 1
  if samples < window.size then (none, { window with sum, samples })
  else (some (sum / window.size).sqrt, window.reset)

end RmsWindow

end CircuitBreaker
