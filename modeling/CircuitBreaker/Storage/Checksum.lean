import CircuitBreaker.Storage.Bytes

/-!
# Checksum

The cyclic redundancy check CRC-16/KERMIT: polynomial `x^16 + x^12 + x^5 + 1`
with the low bit first, a start value of zero and no final change.
-/

set_option autoImplicit false

namespace CircuitBreaker

/-- A remainder of the division by the polynomial. -/
abbrev Checksum := BitVec 16

namespace Checksum

def polynomial : Checksum := 0x8408#16

/-- Takes one bit of the message into the remainder. -/
def shift (remainder : Checksum) : Checksum :=
  if remainder.getLsbD 0 then (remainder >>> 1) ^^^ polynomial else remainder >>> 1

/-- Takes `count` bits of the message into the remainder. -/
def shifts : Nat → Checksum → Checksum
  | 0, remainder => remainder
  | count + 1, remainder => shifts count (shift remainder)

def step (remainder : Checksum) (byte : UInt8) : Checksum :=
  shifts 8 (remainder ^^^ byte.toBitVec.setWidth 16)

/-- The remainder of a message that follows one with remainder `start`. -/
def extend (start : Checksum) (bytes : Bytes) : Checksum := bytes.foldl step start

def ofBytes (bytes : Bytes) : Checksum := extend 0 bytes

/-- The published check value of this code. -/
example : ofBytes [0x31, 0x32, 0x33, 0x34, 0x35, 0x36, 0x37, 0x38, 0x39] = 0x2189#16 := by
  decide +kernel

end Checksum

end CircuitBreaker
