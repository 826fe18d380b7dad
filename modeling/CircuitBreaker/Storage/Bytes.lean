/-!
# Bytes

Byte sequences and the little-endian words in them. Reading the bytes of a word
gives the word back, and every word is read from one sequence of bytes only.
-/

set_option autoImplicit false

namespace CircuitBreaker

abbrev Bytes := List UInt8

namespace Bytes

/-- The bytes of a 16-bit word, low byte first. -/
def of16 (word : UInt16) : Bytes :=
  [UInt8.ofNat word.toNat, UInt8.ofNat (word.toNat / 256)]

/-- The bytes of a 32-bit word, low byte first. -/
def of32 (word : UInt32) : Bytes :=
  [UInt8.ofNat word.toNat, UInt8.ofNat (word.toNat / 256),
    UInt8.ofNat (word.toNat / 65536), UInt8.ofNat (word.toNat / 16777216)]

def word16 (b0 b1 : UInt8) : UInt16 := UInt16.ofNat (b0.toNat + 256 * b1.toNat)

def word32 (b0 b1 b2 b3 : UInt8) : UInt32 :=
  UInt32.ofNat (b0.toNat + 256 * b1.toNat + 65536 * b2.toNat + 16777216 * b3.toNat)

/-- The `length` bytes from `start` on, if there are that many. -/
def slice? (bytes : Bytes) (start length : Nat) : Option Bytes :=
  if start + length ≤ bytes.length then some ((bytes.drop start).take length) else none

/-- The bytes with `content` written over those from `start` on, if it fits. -/
def overwrite? (bytes : Bytes) (start : Nat) (content : Bytes) : Option Bytes :=
  if start + content.length ≤ bytes.length then
    some (bytes.take start ++ content ++ bytes.drop (start + content.length))
  else none

@[simp]
theorem length_of16 (word : UInt16) : (of16 word).length = 2 := rfl

@[simp]
theorem length_of32 (word : UInt32) : (of32 word).length = 4 := rfl

theorem word16_of16 (word : UInt16) :
    word16 (UInt8.ofNat word.toNat) (UInt8.ofNat (word.toNat / 256)) = word := by
  apply UInt16.toNat_inj.mp
  have bound := word.toNat_lt
  simp only [word16, UInt8.toNat_ofNat', UInt16.toNat_ofNat']
  omega

theorem word32_of32 (word : UInt32) :
    word32 (UInt8.ofNat word.toNat) (UInt8.ofNat (word.toNat / 256))
      (UInt8.ofNat (word.toNat / 65536)) (UInt8.ofNat (word.toNat / 16777216)) = word := by
  apply UInt32.toNat_inj.mp
  have bound := word.toNat_lt
  simp only [word32, UInt8.toNat_ofNat', UInt32.toNat_ofNat']
  omega

theorem length_of_slice? {bytes piece : Bytes} {start length : Nat}
    (found : bytes.slice? start length = some piece) : piece.length = length := by
  unfold slice? at found
  split at found
  · obtain rfl := Option.some.inj found
    simp only [List.length_take, List.length_drop]
    omega
  · cases found

theorem length_of_overwrite? {bytes content result : Bytes} {start : Nat}
    (written : bytes.overwrite? start content = some result) : result.length = bytes.length := by
  unfold overwrite? at written
  split at written
  · obtain rfl := Option.some.inj written
    simp only [List.length_append, List.length_take, List.length_drop]
    omega
  · cases written

end Bytes

end CircuitBreaker
