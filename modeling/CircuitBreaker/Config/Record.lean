import CircuitBreaker.Config.Error
import CircuitBreaker.Storage.Bytes

/-!
# Settings records

A record of settings has a place in the store, a fixed length and a byte layout.
-/

set_option autoImplicit false

namespace CircuitBreaker

class Record (α : Type) where
  kind : ConfigSection
  /-- Where the record starts in the store. -/
  offset : Nat
  /-- The length of an encoded record. -/
  size : Nat
  /-- The settings in force when nothing usable is stored. -/
  initial : α
  encode : α → Bytes
  /-- Reads a record from the front of a byte sequence; bytes after it are ignored. -/
  decode : Bytes → Except ConfigError α

end CircuitBreaker
