import CircuitBreaker.Bench.Memory
import CircuitBreaker.Board.Flash
import CircuitBreaker.Proofs.Records
import CircuitBreaker.Storage.Ram

/-!
# Framed records in working storage

Storage that works reads and writes its bytes. A record saved there loads again as long as nothing
is written over it, and records that lie apart do not touch each other.
-/

set_option autoImplicit false

namespace CircuitBreaker

/-!
## Pieces of byte sequences
-/

namespace Bytes

variable {bytes content result piece : Bytes} {start length : Nat}

theorem slice?_overwrite? (written : bytes.overwrite? start content = some result) :
    result.slice? start content.length = some content := by
  have size := length_of_overwrite? written
  unfold overwrite? at written
  split at written
  · next fits =>
    cases written
    rw [slice?, if_pos (by rw [size]; exact fits), List.append_assoc]
    have front : (bytes.take start).length = start := by rw [List.length_take]; omega
    rw [List.drop_left' front, List.take_left' rfl]
  · cases written

theorem slice?_overwrite?_of_apart {place width : Nat}
    (written : bytes.overwrite? start content = some result)
    (apart : place + width ≤ start ∨ start + content.length ≤ place) :
    result.slice? place width = bytes.slice? place width := by
  have size := length_of_overwrite? written
  unfold overwrite? at written
  split at written
  · next fits =>
    cases written
    unfold slice?
    rw [size]
    split
    · congr 1
      apply List.ext_getElem?
      intro index
      simp only [List.getElem?_take, List.getElem?_drop, List.getElem?_append, List.length_append,
        List.length_take]
      split
      · rcases apart with before | behind
        · rw [if_pos (by omega), if_pos (by omega), if_pos (by omega)]
        · rw [if_neg (by omega)]
          congr 1
          omega
      · rfl
    · rfl
  · cases written

theorem getElem?_overwrite?_of_outside {index : Nat}
    (written : bytes.overwrite? start content = some result)
    (outside : index < start ∨ start + content.length ≤ index) :
    result[index]? = bytes[index]? := by
  unfold overwrite? at written
  split at written
  · next fits =>
    cases written
    simp only [List.getElem?_append, List.length_append, List.length_take, List.getElem?_take,
      List.getElem?_drop]
    rcases outside with before | behind
    · rw [if_pos (by omega), if_pos (by omega), if_pos before]
    · rw [if_neg (by omega)]
      congr 1
      omega
  · cases written

theorem slice?_within (skip width : Nat) (found : bytes.slice? start length = some piece)
    (inside : skip + width ≤ length) :
    bytes.slice? (start + skip) width = some ((piece.drop skip).take width) := by
  unfold slice? at found ⊢
  split at found
  · next fits =>
    cases found
    rw [if_pos (by omega), List.drop_take, List.drop_drop, List.take_take,
      Nat.min_eq_left (by omega)]
  · cases found

end Bytes

/-!
## Working storage
-/

/-- Storage with bytes that reads and writes get to, where it works. -/
class LawfulStorage (ρ : Type) [Storage ρ] where
  Works : ρ → Prop
  contents : ρ → Bytes
  capacity_eq : ∀ storage, Works storage → Storage.capacity storage = (contents storage).length
  read_eq : ∀ storage address length, Works storage →
    Storage.read storage address length = (contents storage).slice? address length
  write_eq : ∀ storage address content result, Works storage →
    (contents storage).overwrite? address content = some result →
    ∃ written, Storage.write storage address content = some written ∧ Works written ∧
      contents written = result

instance : LawfulStorage Ram where
  Works _ := True
  contents := Ram.bytes
  capacity_eq _ _ := rfl
  read_eq _ _ _ _ := rfl
  write_eq ram address content result _ written :=
    ⟨⟨result⟩, by simp [Storage.write, written], trivial, rfl⟩

instance : LawfulStorage Board.Flash where
  Works flash := flash.failsReads = false ∧ flash.failsErases = false
  contents := Board.Flash.page
  capacity_eq _ _ := rfl
  read_eq flash address length works := by simp [Storage.read, Board.Flash.read, works.1]
  write_eq flash address content result works written :=
    ⟨{ flash with page := result, erases := flash.erases + 1 },
      by simp [Storage.write, Board.Flash.write, works.1, works.2, written], works, rfl⟩

instance : LawfulStorage Bench.FaultyMemory where
  Works memory :=
    memory.failsReads = false ∧ memory.failsWrites = false ∧ memory.capacity = memory.bytes.length
  contents := Bench.FaultyMemory.bytes
  capacity_eq _ works := works.2.2
  read_eq memory address length works := by simp [Storage.read, works.1]
  write_eq memory address content result works written :=
    ⟨{ memory with bytes := result }, by simp [Storage.write, works.2.1, written],
      ⟨works.1, works.2.1, works.2.2.trans (Bytes.length_of_overwrite? written).symm⟩, rfl⟩

/-!
## Frames
-/

namespace Frame

theorem length_header (payload : Bytes) : (header payload).length = headerSize := rfl

theorem length_encode (payload : Bytes) :
    (encode payload).length = headerSize + payload.length := by
  rw [encode, List.length_append, length_header]

theorem readHeader_header {payload : Bytes} (short : payload.length ≤ maxPayload) :
    readHeader payload.length (header payload) = .ok (checksumOf payload) := by
  have size : (UInt16.ofNat payload.length).toNat = payload.length := by
    rw [UInt16.toNat_ofNat']
    simp only [maxPayload] at short
    omega
  simp only [header, Bytes.of16, List.cons_append, List.nil_append, readHeader, Bytes.word16_of16]
  rw [if_neg (fun other => other rfl), if_neg (fun other => other size)]

end Frame

namespace FramedStore

variable {ρ : Type} [Storage ρ] [LawfulStorage ρ] {store after : FramedStore ρ}

open LawfulStorage

section Reach

omit [LawfulStorage ρ]

/-- The record at an offset is within the reach of addresses and of the storage. -/
def Fits (store : FramedStore ρ) (offset length : Nat) : Prop :=
  store.base + offset + Frame.headerSize ≤ 0xffffffff ∧
    store.base + offset + Frame.headerSize + length ≤ Storage.capacity store.storage

/-- Every byte of the storage has an address of 32 bits. -/
def Addressed (store : FramedStore ρ) : Prop := Storage.capacity store.storage ≤ 0xffffffff

/-- If there is a record at an offset, its payload follows its header. -/
def InReach (store : FramedStore ρ) (offset length : Nat) : Prop :=
  ∀ address ∈ store.address? offset length, address + Frame.headerSize ≤ 0xffffffff

theorem payloadAddress_of_reach {address : Nat} (reach : address + Frame.headerSize ≤ 0xffffffff) :
    payloadAddress address = address + Frame.headerSize :=
  Nat.mod_eq_of_lt (Nat.lt_succ_of_le reach)

theorem address?_of_fits {offset length : Nat} (fits : store.Fits offset length) :
    store.address? offset length = some (store.base + offset) :=
  if_pos ⟨Nat.le_trans (Nat.le_add_right _ _) fits.1, fits.2⟩

theorem address?_eq_some {offset length place : Nat}
    (found : store.address? offset length = some place) :
    place = store.base + offset ∧ place ≤ 0xffffffff ∧
      place + Frame.headerSize + length ≤ Storage.capacity store.storage := by
  unfold address? at found
  dsimp only at found
  split at found
  · next within =>
    obtain rfl := Option.some.inj found
    exact ⟨rfl, within⟩
  · cases found

theorem Addressed.fits (addressed : store.Addressed) {offset length place : Nat}
    (found : store.address? offset length = some place) : store.Fits offset length := by
  obtain ⟨rfl, _, room⟩ := address?_eq_some found
  exact ⟨Nat.le_trans (Nat.le_trans (Nat.le_add_right _ _) room) addressed, room⟩

theorem inReach_of_le {offset : Nat} (length : Nat)
    (reach : store.base + offset + Frame.headerSize ≤ 0xffffffff) :
    store.InReach offset length := by
  intro address found
  obtain ⟨rfl, _⟩ := address?_eq_some found
  exact reach

theorem fits_congr {offset length : Nat} (fits : store.Fits offset length)
    (base : after.base = store.base)
    (capacity : Storage.capacity after.storage = Storage.capacity store.storage) :
    after.Fits offset length := by
  unfold Fits
  rw [base, capacity]
  exact fits

theorem run_saving (store : FramedStore ρ) (offset : Nat) (payload : Bytes) :
    (saving offset payload).run store =
      if Frame.maxPayload < payload.length then .error .sizeMismatch store
      else
        match store.address? offset payload.length with
        | none => .error .outOfRange store
        | some address =>
            match Storage.write store.storage address (Frame.encode payload) with
            | none => .error .storage store
            | some storage => .ok () { store with storage } := by
  unfold saving
  split
  · rfl
  · rw [EStateM.run_bind, EStateM.run_get]
    dsimp only
    cases store.address? offset payload.length with
    | none => rfl
    | some address =>
        dsimp only
        rw [EStateM.run_bind, EStateM.run_get]
        dsimp only
        cases Storage.write store.storage address (Frame.encode payload) <;> rfl

end Reach

/-- The record at an offset in reach is saved there. -/
theorem save_spec {offset : Nat} {payload : Bytes} (works : Works store.storage)
    (short : payload.length ≤ Frame.maxPayload) (fits : store.Fits offset payload.length) :
    ∃ after, store.save offset payload = .ok after ∧ Works after.storage ∧
      after.base = store.base ∧
      (contents store.storage).overwrite? (store.base + offset) (Frame.encode payload) =
        some (contents after.storage) := by
  have room : store.base + offset + (Frame.encode payload).length ≤
      (contents store.storage).length := by
    have room := fits.2
    rw [capacity_eq _ works] at room
    rw [Frame.length_encode]
    omega
  obtain ⟨written, accepted, still, bytes⟩ := write_eq store.storage (store.base + offset)
    (Frame.encode payload) _ works (if_pos room)
  refine ⟨{ store with storage := written }, ?_, still, rfl, ?_⟩
  · rw [save, run_saving, if_neg (Nat.not_lt.mpr short), address?_of_fits fits]
    dsimp only
    rw [accepted]
  · rw [bytes]
    exact if_pos room

theorem address?_of_written {offset length start : Nat} {content : Bytes}
    (works : Works store.storage) (still : Works after.storage) (base : after.base = store.base)
    (written : (contents store.storage).overwrite? start content = some (contents after.storage)) :
    after.address? offset length = store.address? offset length := by
  unfold address?
  rw [capacity_eq _ works, capacity_eq _ still, Bytes.length_of_overwrite? written, base]

theorem load_of_slices {offset length : Nat} {front body : Bytes} (works : Works store.storage)
    (short : length ≤ Frame.maxPayload) (fits : store.Fits offset length)
    (header : (contents store.storage).slice? (store.base + offset) Frame.headerSize = some front)
    (rest : (contents store.storage).slice? (store.base + offset + Frame.headerSize) length =
      some body) :
    store.load offset length =
      match Frame.readHeader length front with
      | .error error => .error error
      | .ok checksum =>
          if Frame.checksumOf body = checksum then .ok body else .error .crcMismatch := by
  unfold load readFrame
  rw [if_neg (Nat.not_lt.mpr short), address?_of_fits fits]
  dsimp only
  rw [read_eq _ _ _ works, header]
  dsimp only
  cases Frame.readHeader length front with
  | error error => rfl
  | ok checksum =>
      dsimp only
      rw [payloadAddress_of_reach fits.1, read_eq _ _ _ works, rest]
      simp [Frame.isIntact]

omit [Storage ρ] [LawfulStorage ρ] in
/-- The header and the payload of a record that was written. -/
theorem slices_of_written {bytes result payload : Bytes} {place : Nat}
    (written : bytes.overwrite? place (Frame.encode payload) = some result) :
    result.slice? place Frame.headerSize = some (Frame.header payload) ∧
      result.slice? (place + Frame.headerSize) payload.length = some payload := by
  have frame := Bytes.slice?_overwrite? written
  rw [Frame.length_encode] at frame
  have header := Bytes.slice?_within 0 Frame.headerSize frame (by omega)
  have rest := Bytes.slice?_within Frame.headerSize payload.length frame (by omega)
  have front := Frame.length_header payload
  rw [Nat.add_zero, List.drop_zero, Frame.encode, List.take_left' front] at header
  rw [Frame.encode, List.drop_left' front, List.take_length] at rest
  exact ⟨header, rest⟩

/-- A record that is saved loads again. -/
theorem load_of_written {offset : Nat} {payload : Bytes} (works : Works store.storage)
    (still : Works after.storage) (base : after.base = store.base)
    (short : payload.length ≤ Frame.maxPayload) (fits : store.Fits offset payload.length)
    (written : (contents store.storage).overwrite? (store.base + offset) (Frame.encode payload) =
      some (contents after.storage)) :
    after.load offset payload.length = .ok payload := by
  obtain ⟨header, rest⟩ := slices_of_written written
  rw [← base] at header rest
  have reach : after.Fits offset payload.length := by
    refine fits_congr fits base ?_
    rw [capacity_eq _ still, Bytes.length_of_overwrite? written, capacity_eq _ works]
  rw [load_of_slices still short reach header rest, Frame.readHeader_header short]
  exact if_pos rfl

/-- A record that is written does not change one that lies apart. -/
theorem load_of_apart {offset length place : Nat} {content : Bytes} (works : Works store.storage)
    (still : Works after.storage) (base : after.base = store.base)
    (reach : store.InReach offset length)
    (written : (contents store.storage).overwrite? place content = some (contents after.storage))
    (apart : store.base + offset + Frame.headerSize + length ≤ place ∨
      place + content.length ≤ store.base + offset) :
    after.load offset length = store.load offset length := by
  unfold load readFrame
  rw [address?_of_written works still base written]
  cases found : store.address? offset length with
  | none => rfl
  | some address =>
      rw [← (address?_eq_some found).1] at apart
      have header : Storage.read after.storage address Frame.headerSize =
          Storage.read store.storage address Frame.headerSize := by
        rw [read_eq _ _ _ still, read_eq _ _ _ works,
          Bytes.slice?_overwrite?_of_apart written (by omega)]
      have body : Storage.read after.storage (payloadAddress address) length =
          Storage.read store.storage (payloadAddress address) length := by
        rw [payloadAddress_of_reach (reach address found), read_eq _ _ _ still, read_eq _ _ _ works,
          Bytes.slice?_overwrite?_of_apart written (by omega)]
      dsimp only
      rw [header, body]

/-- What is saved in reach loads again, and no record that lies apart changes. -/
theorem save_loads {offset : Nat} {payload : Bytes} (works : Works store.storage)
    (short : payload.length ≤ Frame.maxPayload) (fits : store.Fits offset payload.length) :
    ∃ after, store.save offset payload = .ok after ∧ Works after.storage ∧
      after.base = store.base ∧
      Storage.capacity after.storage = Storage.capacity store.storage ∧
      after.load offset payload.length = .ok payload ∧
      ∀ other length, store.InReach other length →
        other + Frame.headerSize + length ≤ offset ∨
          offset + Frame.headerSize + payload.length ≤ other →
        after.load other length = store.load other length := by
  obtain ⟨after, saved, still, base, written⟩ := save_spec works short fits
  refine ⟨after, saved, still, base, ?_, load_of_written works still base short fits written, ?_⟩
  · rw [capacity_eq _ still, Bytes.length_of_overwrite? written, ← capacity_eq _ works]
  · intro other length reach apart
    refine load_of_apart works still base reach written ?_
    rw [Frame.length_encode]
    omega

/-!
## Records of settings
-/

omit [LawfulStorage ρ] in
theorem restore_congr {α : Type} [Record α]
    (same : after.load (Record.offset α) (Record.size α) =
      store.load (Record.offset α) (Record.size α)) :
    restore after α = restore store α := by
  unfold restore
  rw [show RecordStore.load after (Record.offset α) (Record.size α) =
    RecordStore.load store (Record.offset α) (Record.size α) from same]

/-- A store over working storage that has room for every record. -/
structure Roomy (store : FramedStore ρ) : Prop where
  works : Works store.storage
  reach : store.base + Record.offset ModulationSettings + Frame.headerSize ≤ 0xffffffff
  room : store.base + Record.frameEnd ModulationSettings ≤ Storage.capacity store.storage

theorem Roomy.fits (roomy : store.Roomy) (α : Type) [Record α] [LawfulRecord α] :
    store.Fits (Record.offset α) (Record.size α) := by
  have reach := roomy.reach
  have room := roomy.room
  have offset := LawfulRecord.offset_le (α := α)
  have frame := LawfulRecord.frameEnd_le (α := α)
  unfold Record.frameEnd at room frame
  exact ⟨by omega, by omega⟩

/-- Settings that are written come back as they are stored, and no other record changes. -/
theorem Roomy.persist {α : Type} [Record α] [LawfulRecord α] (roomy : store.Roomy) {settings : α}
    (accepted : LawfulRecord.Accepted settings) :
    ∃ after, CircuitBreaker.persist store settings = .ok after ∧ after.Roomy ∧
      restore after α = .ok (LawfulRecord.stored settings) ∧
      ∀ (β : Type) [Record β] [LawfulRecord β], Record.Apart α β →
        restore after β = restore store β := by
  have length := LawfulRecord.length_encode settings
  have short : (Record.encode settings).length ≤ Frame.maxPayload := by
    rw [length]
    exact LawfulRecord.size_le
  have fits := roomy.fits α
  rw [← length] at fits
  obtain ⟨after, saved, still, base, capacity, loaded, others⟩ :=
    save_loads roomy.works short fits
  refine ⟨after, saved, ⟨still, ?_, ?_⟩, ?_, ?_⟩
  · rw [base]
    exact roomy.reach
  · rw [base, capacity]
    exact roomy.room
  · rw [length] at loaded
    have decoded := LawfulRecord.decode_encode settings [] accepted
    rw [List.append_nil] at decoded
    unfold restore
    rw [show RecordStore.load after (Record.offset α) (Record.size α) = _ from loaded]
    dsimp only
    rw [decoded]
  · intro β _ _ apart
    refine restore_congr (others _ _ (inReach_of_le _ (roomy.fits β).1) ?_)
    rw [length]
    unfold Record.Apart Record.frameEnd at apart
    omega

end FramedStore

end CircuitBreaker
