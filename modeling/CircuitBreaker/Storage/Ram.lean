import CircuitBreaker.Storage

/-!
# Volatile storage

Storage held in memory. An access is refused exactly when it reaches past the end.
-/

set_option autoImplicit false

namespace CircuitBreaker

structure Ram where
  bytes : Bytes
deriving DecidableEq, Repr

/-- Erased storage: every byte is `0xff`. -/
def Ram.erased (size : Nat) : Ram := ⟨List.replicate size 0xff⟩

instance : Storage Ram where
  capacity ram := ram.bytes.length
  read ram address length := ram.bytes.slice? address length
  write ram address content := (ram.bytes.overwrite? address content).map Ram.mk

end CircuitBreaker
