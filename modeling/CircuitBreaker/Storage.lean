import CircuitBreaker.Config.Record

/-!
# Storage

Byte-addressed storage, stores of records, and reading and writing settings
through a store.
-/

set_option autoImplicit false

namespace CircuitBreaker

/-- Byte-addressed storage. Any access may fail; a failed write changes nothing. -/
class Storage (ρ : Type) where
  /-- The number of bytes that the storage claims to have. -/
  capacity : ρ → Nat
  /-- The bytes at an address, as many as asked for. -/
  read : ρ → (address length : Nat) → Option Bytes
  write : ρ → (address : Nat) → Bytes → Option ρ

inductive StoreError where
  /-- The storage refused the access. -/
  | storage
  /-- No record starts at the offset. -/
  | badMagic
  /-- The record has another length. -/
  | sizeMismatch
  /-- The payload does not match its checksum. -/
  | crcMismatch
  /-- The record would not fit in the storage. -/
  | outOfRange
deriving DecidableEq, Repr

def StoreError.message : StoreError → String
  | storage => "Storage"
  | badMagic => "BadMagic"
  | sizeMismatch => "SizeMismatch"
  | crcMismatch => "CrcMismatch"
  | outOfRange => "OutOfRange"

instance : ToString StoreError := ⟨StoreError.message⟩

/-- A store of records, each under the offset it was saved at. -/
class RecordStore (κ : Type) where
  load : κ → (offset length : Nat) → Except StoreError Bytes
  save : κ → (offset : Nat) → Bytes → Except StoreError κ

inductive RestoreError where
  | store (error : StoreError)
  /-- The record loads but does not describe valid settings. -/
  | invalid (kind : ConfigSection)
deriving DecidableEq, Repr

def RestoreError.message : RestoreError → String
  | store error => error.message
  | invalid kind => s!"invalid {kind.name} record"

instance : ToString RestoreError := ⟨RestoreError.message⟩

def restore {κ : Type} [RecordStore κ] (store : κ) (α : Type) [Record α] : Except RestoreError α :=
  match RecordStore.load store (Record.offset α) (Record.size α) with
  | .error error => .error (.store error)
  | .ok payload =>
      match Record.decode payload with
      | .ok settings => .ok settings
      | .error _ => .error (.invalid (Record.kind α))

def persist {κ α : Type} [RecordStore κ] [Record α] (store : κ) (settings : α) :
    Except StoreError κ :=
  RecordStore.save store (Record.offset α) (Record.encode settings)

end CircuitBreaker
