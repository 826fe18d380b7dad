import CircuitBreaker.Console.LineBuffer
import Mathlib.Data.List.DropRight
import Mathlib.Data.List.Induction

/-!
# Framing of lines

The bytes of a connection fall into stretches, each up to a terminator. A stretch that fits makes
one line, the one that its editing leaves. Of a stretch that grows too long the buffer forgets what
it has so far, and begins again in the middle: the rest of it, up to the terminator, becomes a line
of its own.
-/

set_option autoImplicit false

namespace CircuitBreaker

namespace LineBuffer

/-- What editing leaves of some bytes. -/
def edit (bytes : Bytes) : Bytes :=
  bytes.foldl (fun line byte => if isErasure byte then line.dropLast else line ++ [byte]) []

def stretch (stream : Bytes) : Bytes := stream.rtakeWhile fun byte => !isTerminator byte

/-- Editing never leaves more than fits in a line. -/
def Fits (bytes : Bytes) : Prop := ∀ front, front <+: bytes → (edit front).length ≤ maxLength

/-- What comes of a stretch after it last grew too long. -/
def sinceLoss (bytes : Bytes) : Bytes :=
  bytes.foldl
    (fun held byte => if maxLength < (edit (held ++ [byte])).length then [] else held ++ [byte]) []

def after (stream : Bytes) : LineBuffer :=
  stream.foldl (fun buffer byte => (buffer.push byte).2) empty

/-- The buffer reported an overflow after the last terminator. -/
def Lost (stream : Bytes) : Prop :=
  ∃ earlier byte later, stream = earlier ++ byte :: later ∧
    (∀ other ∈ byte :: later, isTerminator other = false) ∧
    ((after earlier).push byte).1 = .error .lineOverflow

section Streams

variable (bytes stream : Bytes) {byte : UInt8}

theorem edit_concat (byte : UInt8) :
    edit (bytes ++ [byte]) =
      if isErasure byte then (edit bytes).dropLast else edit bytes ++ [byte] := by
  simp [edit]

theorem sinceLoss_concat (byte : UInt8) :
    sinceLoss (bytes ++ [byte]) =
      if maxLength < (edit (sinceLoss bytes ++ [byte])).length then []
      else sinceLoss bytes ++ [byte] := by
  rw [sinceLoss, List.foldl_append]
  rfl

theorem after_concat (byte : UInt8) : after (stream ++ [byte]) = ((after stream).push byte).2 := by
  simp [after]

theorem stretch_of_terminator (ends : isTerminator byte = true) : stretch (stream ++ [byte]) = [] :=
  List.rtakeWhile_concat_neg _ _ _ (by simp [ends])

theorem stretch_of_other (other : isTerminator byte = false) :
    stretch (stream ++ [byte]) = stretch stream ++ [byte] :=
  List.rtakeWhile_concat_pos _ _ _ (by simp [other])

theorem length_edit_sinceLoss : (edit (sinceLoss bytes)).length ≤ maxLength := by
  induction bytes using List.reverseRecOn with
  | nil => exact Nat.zero_le _
  | append_singleton bytes byte ih =>
      rw [sinceLoss_concat]
      split
      · exact Nat.zero_le _
      · next fits => exact Nat.le_of_not_lt fits

/-- The line that is left grows and shrinks as the buffer does. -/
theorem edit_sinceLoss_concat (byte : UInt8) :
    edit (sinceLoss (bytes ++ [byte])) =
      if isErasure byte then (edit (sinceLoss bytes)).dropLast
      else if (edit (sinceLoss bytes)).length < maxLength then edit (sinceLoss bytes) ++ [byte]
      else [] := by
  have fits := length_edit_sinceLoss bytes
  rw [sinceLoss_concat, edit_concat]
  split
  · next erases =>
    rw [if_neg (by rw [List.length_dropLast]; omega), edit_concat, if_pos erases]
  · next adds =>
    rw [List.length_append, List.length_singleton]
    split
    · next longest =>
      rw [if_neg (by omega)]
      rfl
    · next shorter => rw [if_pos (by omega), edit_concat, if_neg adds]

theorem fits_concat (byte : UInt8) :
    Fits (bytes ++ [byte]) ↔ Fits bytes ∧ (edit (bytes ++ [byte])).length ≤ maxLength := by
  constructor
  · intro fits
    exact ⟨fun front within => fits front (within.trans (List.prefix_append _ _)),
      fits _ (List.prefix_refl _)⟩
  · rintro ⟨fits, last⟩ front within
    rcases List.prefix_concat_iff.mp within with rfl | within
    · exact last
    · exact fits front within

theorem sinceLoss_of_fits (fits : Fits bytes) : sinceLoss bytes = bytes := by
  induction bytes using List.reverseRecOn with
  | nil => rfl
  | append_singleton bytes byte ih =>
      obtain ⟨before, last⟩ := (fits_concat bytes byte).mp fits
      rw [sinceLoss_concat, ih before, if_neg (Nat.not_lt.mpr last)]

end Streams

/-- Between two bytes the buffer holds what editing leaves since the last terminator, or since the
last overflow if that came later. An ended line is still held, but the next byte starts afresh. -/
theorem held_after (stream : Bytes) :
    (if (after stream).complete then empty else after stream) =
      { bytes := edit (sinceLoss (stretch stream)) } := by
  induction stream using List.reverseRecOn with
  | nil => rfl
  | append_singleton stream byte ih =>
      rw [after_concat, push, ih]
      unfold extend
      split
      · next ends =>
        rw [stretch_of_terminator stream ends]
        dsimp only
        split
        · next blank =>
          rw [blank]
          rfl
        · rfl
      · next other =>
        rw [stretch_of_other stream (Bool.eq_false_iff.mpr other), edit_sinceLoss_concat]
        split
        · rfl
        · split <;> rfl

/-- What a byte does after a stream. -/
theorem push_after (stream : Bytes) (byte : UInt8) :
    (after stream).push byte =
      extend { bytes := edit (sinceLoss (stretch stream)) } byte := by
  rw [push, held_after]

/-- A terminator ends a line if something has come since the last loss. -/
theorem push_terminator (stream : Bytes) {byte : UInt8} (ends : isTerminator byte = true) :
    (((after stream).push byte).1 = .ok .complete ↔ edit (sinceLoss (stretch stream)) ≠ []) ∧
      ((after stream).push byte).2.bytes = edit (sinceLoss (stretch stream)) := by
  rw [push_after, extend, if_pos ends]
  split
  · next blank => exact ⟨by simpa using blank, rfl⟩
  · next solid => exact ⟨by simpa using solid, rfl⟩

/-- Any other byte ends no line, and is reported if the line had no room for it. -/
theorem push_other (stream : Bytes) {byte : UInt8} (other : isTerminator byte = false) :
    ((after stream).push byte).1 ≠ .ok .complete ∧
      (((after stream).push byte).1 = .error .lineOverflow ↔
        maxLength < (edit (sinceLoss (stretch stream) ++ [byte])).length) := by
  have fits := length_edit_sinceLoss (stretch stream)
  rw [push_after, extend, if_neg (by simp [other]), edit_concat]
  split
  · next erases =>
    rw [List.length_dropLast]
    simp only [ne_eq, Except.ok.injEq, reduceCtorEq, not_false_eq_true, false_iff, true_and]
    omega
  · rw [List.length_append, List.length_singleton]
    split
    · next shorter =>
      simp only [ne_eq, Except.ok.injEq, reduceCtorEq, not_false_eq_true, false_iff, true_and]
      dsimp only at shorter
      omega
    · next longest =>
      simp only [ne_eq, reduceCtorEq, not_false_eq_true, true_iff, true_and]
      dsimp only at longest
      omega

theorem lost_concat (stream : Bytes) (byte : UInt8) :
    Lost (stream ++ [byte]) ↔ isTerminator byte = false ∧
      (Lost stream ∨ ((after stream).push byte).1 = .error .lineOverflow) := by
  constructor
  · rintro ⟨earlier, first, later, split, others, reported⟩
    induction later using List.reverseRecOn with
    | nil =>
        obtain ⟨rfl, same⟩ := List.append_inj' split rfl
        cases same
        exact ⟨others byte List.mem_cons_self, .inr reported⟩
    | append_singleton later last _ =>
        rw [← List.cons_append, ← List.append_assoc] at split
        obtain ⟨rfl, same⟩ := List.append_inj' split rfl
        cases same
        refine ⟨others byte (by simp), .inl ⟨earlier, first, later, rfl, ?_, reported⟩⟩
        intro other member
        exact others other (List.mem_cons.mpr ((List.mem_cons.mp member).imp_right
          (List.mem_append_left [byte])))
  · rintro ⟨other, ⟨earlier, first, later, rfl, others, reported⟩ | reported⟩
    · refine ⟨earlier, first, later ++ [byte], by simp, ?_, reported⟩
      intro each member
      rw [← List.cons_append, List.mem_append, List.mem_singleton] at member
      rcases member with member | rfl
      · exact others each member
      · exact other
    · refine ⟨stream, byte, [], rfl, ?_, reported⟩
      intro each member
      rw [List.mem_singleton.mp member]
      exact other

/-- An overflow has been reported exactly if the stretch has grown longer than a line. -/
theorem lost_iff (stream : Bytes) : Lost stream ↔ ¬ Fits (stretch stream) := by
  induction stream using List.reverseRecOn with
  | nil =>
      refine iff_of_false ?_ (not_not_intro ?_)
      · rintro ⟨earlier, byte, later, split, _⟩
        simp at split
      · intro front within
        rw [List.prefix_nil.mp within]
        exact Nat.zero_le _
  | append_singleton stream byte ih =>
      rw [lost_concat]
      cases kind : isTerminator byte with
      | true =>
          rw [stretch_of_terminator stream kind]
          refine iff_of_false (by simp) (not_not_intro ?_)
          intro front within
          rw [List.prefix_nil.mp within]
          exact Nat.zero_le _
      | false =>
          rw [stretch_of_other stream kind, fits_concat, ih, (push_other stream kind).2]
          by_cases fits : Fits (stretch stream)
          · simp [fits, sinceLoss_of_fits]
          · simp [fits]

/-- What a byte does after a stream is what is expected of a line buffer: only a terminator ends a
line, the line is the whole of its stretch as edited, and a stretch that is not blank and was never
reported to be too long is not lost. -/
structure Framed (stream : Bytes) (byte : UInt8) : Prop where
  whole : ((after stream).push byte).1 = .ok .complete →
    isTerminator byte = true ∧ ((after stream).push byte).2.bytes = edit (stretch stream) ∧
      edit (stretch stream) ≠ [] ∧ ¬ Lost stream
  kept : isTerminator byte = true → edit (stretch stream) ≠ [] → ¬ Lost stream →
    ((after stream).push byte).1 = .ok .complete

/-- A stretch that grew too long is reported. Stretches are framed except where such a one has
something after the overflow: that becomes a line. -/
theorem framed_iff (stream : Bytes) (byte : UInt8) :
    (Lost stream ↔ ¬ Fits (stretch stream)) ∧
      (Framed stream byte ↔
        (isTerminator byte = true → Lost stream → edit (sinceLoss (stretch stream)) = [])) := by
  refine ⟨lost_iff stream, ?_⟩
  cases kind : isTerminator byte with
  | false =>
      refine iff_of_true ⟨fun ended => absurd ended (push_other stream kind).1, ?_⟩ (by simp)
      intro ends
      rw [kind] at ends
      cases ends
  | true =>
      obtain ⟨ended, held⟩ := push_terminator stream kind
      constructor
      · intro framed _ lost
        by_contra more
        exact (framed.whole (ended.mpr more)).2.2.2 lost
      · intro blank
        have unlost (fits : ¬ Lost stream) : sinceLoss (stretch stream) = stretch stream :=
          sinceLoss_of_fits _ (not_not.mp (mt (lost_iff stream).mpr fits))
        constructor
        · intro complete
          have more := ended.mp complete
          have kept : ¬ Lost stream := fun lost => more (blank rfl lost)
          rw [unlost kept] at more held
          exact ⟨kind, held, more, kept⟩
        · intro _ solid kept
          rw [ended, unlost kept]
          exact solid

/-- The rest of a line that was too long is taken for a command. -/
theorem not_framed_tail :
    ¬ Framed (List.replicate 161 0x61 ++ "open".toUTF8.toList) 0x0d ∧
      ((after (List.replicate 161 0x61 ++ "open".toUTF8.toList)).push 0x0d).2.line =
        .ok "open" := by
  have complete : ((after (List.replicate 161 0x61 ++ "open".toUTF8.toList)).push 0x0d).1 =
      .ok .complete := by decide +kernel
  refine ⟨fun framed => ?_, by decide +kernel⟩
  obtain ⟨_, whole, _⟩ := framed.whole complete
  exact absurd whole (by decide +kernel)

end LineBuffer

end CircuitBreaker
