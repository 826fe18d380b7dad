import Mathlib.Logic.Function.Basic
import CircuitBreaker.Proofs.StoreWrites

/-!
# Damaged records

A record that was saved does not load again once bytes of its header, or one or two neighbouring
bytes of its payload, have changed. The checksum is a shift register that runs backwards as well,
and the two bytes are no wider than it, so what they change in it is never lost.
-/

set_option autoImplicit false

namespace CircuitBreaker

/-!
## Words of two bytes
-/

namespace Bytes

theorem of16_word16 (low high : UInt8) : of16 (word16 low high) = [low, high] := by
  have lowBound := low.toNat_lt
  have highBound := high.toNat_lt
  simp only [of16, word16, UInt16.toNat_ofNat', List.cons.injEq, and_true]
  constructor <;> apply UInt8.toNat_inj.mp <;> rw [UInt8.toNat_ofNat'] <;> omega

theorem getLsbD_word16 (low high : UInt8) {index : Nat} (bound : index < 16) :
    (word16 low high).toBitVec.getLsbD index =
      if index < 8 then low.toBitVec.getLsbD index else high.toBitVec.getLsbD (index - 8) := by
  have order : low.toNat + 256 * high.toNat = 2 ^ 8 * high.toNat + low.toNat := by omega
  have bits := Nat.testBit_two_pow_mul_add high.toNat low.toNat_lt index
  rw [word16, UInt16.toBitVec_ofNat', BitVec.getLsbD_ofNat, order, bits]
  simp only [bound, decide_true, Bool.true_and]
  rfl

theorem toBitVec_word16 (low high : UInt8) :
    (word16 low high).toBitVec = low.toBitVec.setWidth 16 ^^^ high.toBitVec.setWidth 16 <<< 8 := by
  apply BitVec.eq_of_getLsbD_eq
  intro index bound
  rw [getLsbD_word16 low high bound]
  by_cases lower : index < 8
  · simp [lower, bound]
  · simp [lower, bound, BitVec.getLsbD_of_ge low.toBitVec index (by omega)]

end Bytes

/-!
## The shift register
-/

namespace Checksum

theorem getLsbD_shift_last (remainder : Checksum) :
    (shift remainder).getLsbD 15 = remainder.getLsbD 0 := by
  unfold shift
  cases remainder.getLsbD 0 <;> simp [polynomial]

theorem shift_injective : Function.Injective shift := by
  intro left right same
  -- The polynomial has its last bit set, so the bit that was shifted out shows there.
  have low : left.getLsbD 0 = right.getLsbD 0 := by
    rw [← getLsbD_shift_last left, same, getLsbD_shift_last right]
  have rest : left >>> 1 = right >>> 1 := by
    unfold shift at same
    rw [low] at same
    split at same
    · exact (BitVec.xor_left_inj polynomial).mp same
    · exact same
  apply BitVec.eq_of_getLsbD_eq
  intro index bound
  cases index with
  | zero => exact low
  | succ index =>
      have bit := congrArg (BitVec.getLsbD · index) rest
      simpa [BitVec.getLsbD_ushiftRight, Nat.add_comm] using bit

theorem shifts_injective (count : Nat) : Function.Injective (shifts count) := by
  induction count with
  | zero => exact fun _ _ same => same
  | succ count ih => exact ih.comp shift_injective

theorem shifts_add (first second : Nat) (remainder : Checksum) :
    shifts (first + second) remainder = shifts second (shifts first remainder) := by
  induction first generalizing remainder with
  | zero => rw [Nat.zero_add, shifts]
  | succ first ih =>
      rw [Nat.succ_add]
      exact ih (shift remainder)

/-- A change that the low bit has no part in goes into the shifted remainder as it is. -/
theorem shift_xor (remainder change : Checksum) (clear : change.getLsbD 0 = false) :
    shift (remainder ^^^ change) = shift remainder ^^^ change >>> 1 := by
  unfold shift
  rw [BitVec.getLsbD_xor, clear, Bool.xor_false, BitVec.ushiftRight_xor_distrib]
  split
  · rw [BitVec.xor_assoc, BitVec.xor_assoc, BitVec.xor_comm polynomial]
  · rfl

theorem shifts_xor (count : Nat) (remainder change : Checksum)
    (clear : ∀ index < count, change.getLsbD index = false) :
    shifts count (remainder ^^^ change) = shifts count remainder ^^^ change >>> count := by
  induction count generalizing remainder change with
  | zero => simp [shifts]
  | succ count ih =>
      have later : ∀ index < count, (change >>> 1).getLsbD index = false := by
        intro index bound
        rw [BitVec.getLsbD_ushiftRight]
        exact clear (1 + index) (by omega)
      rw [shifts, shift_xor remainder change (clear 0 (by omega)), ih _ _ later, shifts,
        ← BitVec.shiftRight_add, Nat.add_comm]

/-- Two bytes are taken in as the one word that they make up. -/
theorem extend_pair (start : Checksum) (first second : UInt8) :
    extend start [first, second] =
      shifts 16 (start ^^^ (Bytes.word16 first second).toBitVec) := by
  have clear : ∀ index < 8, (second.toBitVec.setWidth 16 <<< 8).getLsbD index = false := by
    intro index bound
    simp [BitVec.getLsbD_shiftLeft, bound]
  have back : second.toBitVec.setWidth 16 <<< 8 >>> 8 = second.toBitVec.setWidth 16 := by
    apply BitVec.eq_of_getLsbD_eq
    intro index bound
    by_cases within : index < 8
    · simp [bound, show 8 + index < 16 by omega]
    · simp [BitVec.getLsbD_of_ge second.toBitVec index (by omega)]
  rw [Bytes.toBitVec_word16, ← BitVec.xor_assoc, shifts_add 8 8, shifts_xor 8 _ _ clear, back]
  rfl

theorem step_injective (byte : UInt8) : Function.Injective (step · byte) := by
  intro left right same
  exact (BitVec.xor_left_inj _).mp (shifts_injective 8 same)

/-- What two messages differ in stays, whatever follows in both. -/
theorem extend_injective (bytes : Bytes) : Function.Injective (extend · bytes) := by
  induction bytes with
  | nil => exact fun _ _ same => same
  | cons byte rest ih => exact ih.comp (step_injective byte)

theorem eq_of_extend_byte {start : Checksum} {first second : UInt8}
    (same : extend start [first] = extend start [second]) : first = second := by
  have wide : first.toBitVec.setWidth 16 = second.toBitVec.setWidth 16 :=
    (BitVec.xor_right_inj start).mp (shifts_injective 8 same)
  apply UInt8.toBitVec_inj.mp
  simpa using congrArg (BitVec.setWidth 8) wide

theorem eq_of_extend_pair {start : Checksum} {first second third fourth : UInt8}
    (same : extend start [first, second] = extend start [third, fourth]) :
    [first, second] = [third, fourth] := by
  rw [extend_pair, extend_pair] at same
  have words : (Bytes.word16 first second).toBitVec = (Bytes.word16 third fourth).toBitVec :=
    (BitVec.xor_right_inj start).mp (shifts_injective 16 same)
  rw [← Bytes.of16_word16 first second, UInt16.toBitVec_inj.mp words, Bytes.of16_word16]

/-- A burst of errors that is no wider than the checksum is seen in it. -/
theorem ofBytes_ne_of_burst {front old new back : Bytes} (length : new.length = old.length)
    (short : old.length ≤ 2) (changed : new ≠ old) :
    ofBytes (front ++ new ++ back) ≠ ofBytes (front ++ old ++ back) := by
  intro same
  unfold ofBytes extend at same
  rw [List.foldl_append, List.foldl_append, List.foldl_append, List.foldl_append] at same
  have burst : extend (front.foldl step 0) new = extend (front.foldl step 0) old :=
    extend_injective back same
  apply changed
  match old, new, length, short, burst with
  | [], [], _, _, _ => rfl
  | [_], [_], _, _, burst => rw [eq_of_extend_byte burst]
  | [_, _], [_, _], _, _, burst => exact eq_of_extend_pair burst

end Checksum

/-!
## Alterations
-/

namespace Bytes

/-- Two byte sequences of one length that differ, but only in the `width` places from `start`
on. -/
structure AlteredWithin (start width : Nat) (before after : Bytes) : Prop where
  length_eq : after.length = before.length
  changed : after ≠ before
  outside : ∀ index, index < start ∨ start + width ≤ index → after[index]? = before[index]?

variable {before after old : Bytes} {start width place length : Nat}

theorem getElem?_of_slice? {bytes piece : Bytes} {index : Nat}
    (found : bytes.slice? place length = some piece) (bound : index < length) :
    piece[index]? = bytes[place + index]? := by
  unfold slice? at found
  split at found
  · cases found
    rw [List.getElem?_take_of_lt bound, List.getElem?_drop]
  · cases found

theorem AlteredWithin.slice?_of_apart (altered : AlteredWithin start width before after)
    (apart : place + length ≤ start ∨ start + width ≤ place) :
    after.slice? place length = before.slice? place length := by
  unfold slice?
  rw [altered.length_eq]
  split
  · congr 1
    apply List.ext_getElem?
    intro index
    by_cases bound : index < length
    · rw [List.getElem?_take_of_lt bound, List.getElem?_take_of_lt bound, List.getElem?_drop,
        List.getElem?_drop]
      exact altered.outside (place + index) (by omega)
    · rw [List.getElem?_eq_none (by simp; omega), List.getElem?_eq_none (by simp; omega)]
  · rfl

theorem alteredWithin_of_overwrite? {content : Bytes}
    (written : before.overwrite? start content = some after) (changed : after ≠ before) :
    AlteredWithin start content.length before after where
  length_eq := length_of_overwrite? written
  changed := changed
  outside _ apart := getElem?_overwrite?_of_outside written apart

/-- A slice around the alteration is altered at the same bytes. -/
theorem AlteredWithin.slice? (altered : AlteredWithin (place + start) width before after)
    (inside : start + width ≤ length) (found : before.slice? place length = some old) :
    ∃ new, after.slice? place length = some new ∧ AlteredWithin start width old new := by
  obtain ⟨new, taken⟩ : ∃ new, after.slice? place length = some new := by
    unfold Bytes.slice? at found ⊢
    rw [altered.length_eq]
    split at found
    · next fits => exact ⟨_, if_pos fits⟩
    · cases found
  refine ⟨new, taken, ?_, ?_, ?_⟩
  · rw [length_of_slice? taken, length_of_slice? found]
  · intro same
    subst same
    apply altered.changed
    apply List.ext_getElem?
    intro index
    by_cases within : place + start ≤ index ∧ index < place + start + width
    · obtain ⟨offset, rfl⟩ : ∃ offset, index = place + offset := ⟨index - place, by omega⟩
      rw [← getElem?_of_slice? taken (by omega), ← getElem?_of_slice? found (by omega)]
    · exact altered.outside index (by omega)
  · intro index apart
    by_cases bound : index < length
    · rw [getElem?_of_slice? taken bound, getElem?_of_slice? found bound]
      exact altered.outside (place + index) (by omega)
    · rw [List.getElem?_eq_none (by rw [length_of_slice? taken]; omega),
        List.getElem?_eq_none (by rw [length_of_slice? found]; omega)]

theorem AlteredWithin.parts (altered : AlteredWithin start width before after)
    (inside : start + width ≤ before.length) :
    ∃ front old new back, before = front ++ old ++ back ∧ after = front ++ new ++ back ∧
      old.length = width ∧ new.length = width ∧ new ≠ old := by
  have front : after.take start = before.take start := by
    apply List.ext_getElem?
    intro index
    by_cases bound : index < start
    · rw [List.getElem?_take_of_lt bound, List.getElem?_take_of_lt bound]
      exact altered.outside index (.inl bound)
    · rw [List.getElem?_eq_none (by simp; omega), List.getElem?_eq_none (by simp; omega)]
  have back : after.drop (start + width) = before.drop (start + width) := by
    apply List.ext_getElem?
    intro index
    rw [List.getElem?_drop, List.getElem?_drop]
    exact altered.outside _ (by omega)
  have parted (bytes : Bytes) :
      bytes = bytes.take start ++ (bytes.drop start).take width ++ bytes.drop (start + width) := by
    rw [List.append_assoc, ← List.drop_drop, List.take_append_drop, List.take_append_drop]
  have length := altered.length_eq
  refine ⟨before.take start, (before.drop start).take width, (after.drop start).take width,
    before.drop (start + width), parted before, ?_, ?_, ?_, ?_⟩
  · rw [← front, ← back]
    exact parted after
  · simp only [List.length_take, List.length_drop]
    omega
  · simp only [List.length_take, List.length_drop]
    omega
  · intro same
    apply altered.changed
    rw [parted after, front, back, same, ← parted before]

end Bytes

/-!
## Frames
-/

namespace Frame

open Bytes

theorem readHeader_eq_ok {length : Nat} {bytes : Bytes} {checksum : UInt16}
    (read : readHeader length bytes = .ok checksum) :
    bytes = of16 magic ++ of16 (UInt16.ofNat length) ++ of16 checksum := by
  unfold readHeader at read
  split at read
  · next m0 m1 s0 s1 c0 c1 =>
    split at read
    · cases read
    · next mark =>
      split at read
      · cases read
      · next size =>
        cases read
        rw [← Decidable.not_not.mp mark, ← Decidable.not_not.mp size, UInt16.ofNat_toNat,
          of16_word16, of16_word16, of16_word16]
        rfl
  · cases read

theorem checksumOf_ne_of_altered {place width : Nat} {payload changed : Bytes}
    (altered : AlteredWithin place width payload changed) (inside : place + width ≤ payload.length)
    (short : width ≤ 2) : checksumOf changed ≠ checksumOf payload := by
  obtain ⟨front, old, new, back, rfl, rfl, rfl, length, differ⟩ := altered.parts inside
  intro same
  exact Checksum.ofBytes_ne_of_burst length short differ (UInt16.ofBitVec.inj same)

end Frame

/-!
## Records
-/

namespace FramedStore

open LawfulStorage Bytes

variable {ρ : Type} [Storage ρ] [LawfulStorage ρ] {store stored damaged : FramedStore ρ}
  {offset : Nat} {payload front : Bytes}

/-- A saved record with an altered header is refused. -/
theorem load_of_altered_header (works : Works damaged.storage)
    (short : payload.length ≤ Frame.maxPayload) (fits : damaged.Fits offset payload.length)
    (header : (contents damaged.storage).slice? (damaged.base + offset) Frame.headerSize =
      some front)
    (rest : (contents damaged.storage).slice? (damaged.base + offset + Frame.headerSize)
      payload.length = some payload)
    (altered : front ≠ Frame.header payload) :
    ∃ error, damaged.load offset payload.length = .error error := by
  rw [load_of_slices works short fits header rest]
  cases read : Frame.readHeader payload.length front with
  | error error => exact ⟨error, rfl⟩
  | ok checksum =>
      refine ⟨.crcMismatch, if_neg ?_⟩
      intro same
      apply altered
      rw [Frame.readHeader_eq_ok read, ← same]
      rfl

/-- A record that was saved, in storage whose bytes all have addresses of 32 bits, is no longer read
once its header has changed, and neither once one or two neighbouring bytes of its payload have; the
checksum finds the latter out. -/
theorem corruption_detected (works : Works store.storage) (addressed : store.Addressed)
    (saved : store.save offset payload = .ok stored) (still : Works damaged.storage)
    (base : damaged.base = stored.base) :
    (AlteredWithin (store.base + offset) Frame.headerSize (contents stored.storage)
        (contents damaged.storage) →
      ∃ error, damaged.load offset payload.length = .error error) ∧
    ∀ place width, width ≤ 2 → place + width ≤ payload.length →
      AlteredWithin (store.base + offset + Frame.headerSize + place) width
        (contents stored.storage) (contents damaged.storage) →
      damaged.load offset payload.length = .error .crcMismatch := by
  obtain ⟨⟨short, fits⟩, kept, sameBase, written⟩ := FramedStore.saved works addressed saved
  obtain ⟨header, rest⟩ := slices_of_written written
  rw [← sameBase, ← base] at header rest ⊢
  have reach {start width : Nat}
      (altered : AlteredWithin start width (contents stored.storage) (contents damaged.storage)) :
      damaged.Fits offset payload.length := by
    refine fits_congr fits (base.trans sameBase) ?_
    rw [capacity_eq _ still, altered.length_eq, length_of_overwrite? written, capacity_eq _ works]
  constructor
  · intro altered
    have fits := reach altered
    rw [← altered.slice?_of_apart (.inr (Nat.le_refl _))] at rest
    rw [← Nat.add_zero (damaged.base + offset)] at altered
    obtain ⟨changed, taken, differs⟩ := altered.slice? (Nat.le_of_eq (Nat.zero_add _)) header
    exact load_of_altered_header still short fits taken rest differs.changed
  · intro place width narrow inside altered
    obtain ⟨changed, taken, differs⟩ := altered.slice? inside rest
    rw [← altered.slice?_of_apart (.inl (Nat.le_add_right _ _))] at header
    rw [load_of_slices still short (reach altered) header taken, Frame.readHeader_header short]
    exact if_neg (Frame.checksumOf_ne_of_altered differs inside narrow)

def halfPage : FramedStore Ram := { storage := .erased 32, base := 16 }

def threeNines : FramedStore Ram :=
  match (saving 0 [9, 9, 9]).run halfPage with
  | .ok _ after => after
  | .error _ after => after

def overwritten (place : Nat) (content : Bytes) : FramedStore Ram :=
  { threeNines with
    storage := ⟨(threeNines.storage.bytes.overwrite? place content).getD threeNines.storage.bytes⟩ }

/-- Another length in the header, and other bytes at the end of the payload. -/
theorem corruption_detected_overwritten :
    (∃ error, (overwritten 16 [0xcd, 0xab, 4, 0, 0, 0]).load 0 3 = .error error) ∧
      (overwritten 23 [8, 137]).load 0 3 = .error .crcMismatch := by
  have saved : halfPage.save 0 [9, 9, 9] = .ok threeNines := by decide +kernel
  have addressed : halfPage.Addressed := by
    unfold Addressed
    decide
  have detected (place : Nat) (content : Bytes) :=
    @corruption_detected Ram _ _ halfPage threeNines (overwritten place content) 0 [9, 9, 9] trivial
      addressed saved trivial rfl
  have header : threeNines.storage.bytes.overwrite? 16 [0xcd, 0xab, 4, 0, 0, 0] =
      some (overwritten 16 [0xcd, 0xab, 4, 0, 0, 0]).storage.bytes := by decide +kernel
  have payload : threeNines.storage.bytes.overwrite? 23 [8, 137] =
      some (overwritten 23 [8, 137]).storage.bytes := by decide +kernel
  constructor
  · exact (detected 16 [0xcd, 0xab, 4, 0, 0, 0]).1
      (alteredWithin_of_overwrite? header (by decide +kernel))
  · exact (detected 23 [8, 137]).2 1 2 (by decide) (by decide)
      (alteredWithin_of_overwrite? payload (by decide +kernel))

end FramedStore

end CircuitBreaker
