import CircuitBreaker.Storage
import CircuitBreaker.Storage.Checksum

/-!
# Framed records

A record is stored as a header and a payload. The header holds a mark, the
length of the payload and its checksum, all as little-endian words.
-/

set_option autoImplicit false

namespace CircuitBreaker

/-- A payload as read, with the checksum its header claims. -/
structure Frame where
  payload : Bytes
  checksum : UInt16
deriving DecidableEq, Repr

namespace Frame

def magic : UInt16 := 0xabcd

def headerSize : Nat := 6

def maxPayload : Nat := 250

/-- The checksum of a payload as it is stored. -/
def checksumOf (payload : Bytes) : UInt16 := UInt16.ofBitVec (Checksum.ofBytes payload)

def isIntact (frame : Frame) : Bool := checksumOf frame.payload = frame.checksum

def header (payload : Bytes) : Bytes :=
  Bytes.of16 magic ++ Bytes.of16 (UInt16.ofNat payload.length) ++
    Bytes.of16 (checksumOf payload)

def encode (payload : Bytes) : Bytes := header payload ++ payload

/-- The checksum from a header, if that one belongs to a payload of `length` bytes. -/
def readHeader (length : Nat) : Bytes → Except StoreError UInt16
  | [m0, m1, s0, s1, c0, c1] =>
      if Bytes.word16 m0 m1 ≠ magic then .error .badMagic
      else if (Bytes.word16 s0 s1).toNat ≠ length then .error .sizeMismatch
      else .ok (Bytes.word16 c0 c1)
  | _ => .error .storage

end Frame

/-- A store that keeps framed records in storage, `base` bytes from its start. -/
structure FramedStore (ρ : Type) where
  storage : ρ
  base : Nat := 0
deriving DecidableEq, Repr

namespace FramedStore

variable {ρ : Type} [Storage ρ]

/-- The address of a record, if all of it lies in 32-bit reach and in the storage. -/
def address? (store : FramedStore ρ) (offset length : Nat) : Option Nat :=
  let start := store.base + offset
  if start ≤ 0xffffffff ∧ start + Frame.headerSize + length ≤ Storage.capacity store.storage then
    some start
  else none

/-- Where the payload of a record starts. The sum is a word of 32 bits, and wraps: only storage of
more bytes than such a word can count has records that get there. -/
def payloadAddress (address : Nat) : Nat := (address + Frame.headerSize) % 0x100000000

/-- Reads the record at `offset`, whether its checksum matches or not. -/
def readFrame (store : FramedStore ρ) (offset length : Nat) : Except StoreError Frame :=
  if Frame.maxPayload < length then .error .sizeMismatch
  else
    match store.address? offset length with
    | none => .error .outOfRange
    | some address =>
        match Storage.read store.storage address Frame.headerSize with
        | none => .error .storage
        | some header =>
            match Frame.readHeader length header with
            | .error error => .error error
            | .ok checksum =>
                match Storage.read store.storage (payloadAddress address) length with
                | none => .error .storage
                | some payload => .ok { payload, checksum }

def load (store : FramedStore ρ) (offset length : Nat) : Except StoreError Bytes :=
  match store.readFrame offset length with
  | .error error => .error error
  | .ok frame => if frame.isIntact then .ok frame.payload else .error .crcMismatch

/-- Writes the record at `offset`, where the store stands. What has been written before a failure
stays written. -/
def saving (offset : Nat) (payload : Bytes) : EStateM StoreError (FramedStore ρ) Unit := do
  if Frame.maxPayload < payload.length then throw .sizeMismatch
  match (← get).address? offset payload.length with
  | none => throw .outOfRange
  | some address =>
      match Storage.write (← get).storage address (Frame.encode payload) with
      | none => throw .storage
      | some storage => modify fun store => { store with storage }

/-- Writes the record at `offset` and gives the store with it. -/
def save (store : FramedStore ρ) (offset : Nat) (payload : Bytes) :
    Except StoreError (FramedStore ρ) :=
  match (saving offset payload).run store with
  | .ok _ after => .ok after
  | .error error _ => .error error

instance : RecordStore (FramedStore ρ) where
  load := load
  save := save

end FramedStore

end CircuitBreaker
