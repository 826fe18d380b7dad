/-!
# Words

Counts cut to the range of a word.
-/

set_option autoImplicit false

namespace CircuitBreaker

/-- A count in 32 bits, the largest one if it does not fit. -/
def clamp32 (count : Nat) : UInt32 := UInt32.ofNat (min 0xffffffff count)

@[simp]
theorem toNat_clamp32 (count : Nat) : (clamp32 count).toNat = min 0xffffffff count := by
  simp only [clamp32, UInt32.toNat_ofNat']
  omega

end CircuitBreaker
