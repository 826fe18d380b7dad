import CircuitBreaker.Storage

/-!
# Faulty memory

Storage for the bench. It may claim another capacity than it has, refuse reads
or writes, and be changed behind the back of the store on top of it.
-/

set_option autoImplicit false

namespace CircuitBreaker.Bench

structure FaultyMemory where
  bytes : Bytes
  capacity : Nat
  failsReads : Bool := false
  failsWrites : Bool := false
deriving DecidableEq, Repr

namespace FaultyMemory

/-- Erased memory of `size` bytes that claims to have `capacity`. -/
def erased (size capacity : Nat) : FaultyMemory where
  bytes := List.replicate size 0xff
  capacity := capacity

def poke (memory : FaultyMemory) (address : Nat) (content : Bytes) : FaultyMemory :=
  { memory with bytes := (memory.bytes.overwrite? address content).getD memory.bytes }

def flip (memory : FaultyMemory) (address : Nat) (mask : UInt8) : FaultyMemory :=
  { memory with bytes := memory.bytes.modify address (· ^^^ mask) }

/-- The bytes that are not erased. -/
def used (memory : FaultyMemory) : Nat := memory.bytes.countP (· != 0xff)

instance : Storage FaultyMemory where
  capacity := FaultyMemory.capacity
  read memory address length :=
    if memory.failsReads then none else memory.bytes.slice? address length
  write memory address content :=
    if memory.failsWrites then none
    else (memory.bytes.overwrite? address content).map fun bytes => { memory with bytes }

end FaultyMemory

end CircuitBreaker.Bench
