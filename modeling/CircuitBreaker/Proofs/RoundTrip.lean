import CircuitBreaker.Proofs.Records
import Mathlib.Data.List.GetD
import Mathlib.Data.List.Range

/-!
# Round trips of records

An encoded record decodes to what was encoded, whatever bytes follow it, and what a payload decodes
to is encoded without loss. Which payloads hold a curve is said by their bytes: the length, the
count and the order of neighbouring slots.
-/

set_option autoImplicit false

namespace CircuitBreaker

instance : Trans CurvePoint.Precedes CurvePoint.Precedes CurvePoint.Precedes where
  trans first second :=
    ⟨UInt32.le_trans first.1 second.1, UInt32.le_trans second.2 first.2⟩

namespace CurveSettings

/-!
## Curves by their bytes
-/

/-- The point in a slot of a payload: the words of its current and of its duration. -/
def pointAt (payload : Bytes) (slot : Nat) : CurvePoint :=
  let byte index := payload.getD (8 * slot + index) 0
  { current := Bytes.word32 (byte 0) (byte 1) (byte 2) (byte 3)
    duration := Bytes.word32 (byte 4) (byte 5) (byte 6) (byte 7) }

/-- The byte after the slots, which tells how many of them are in use. -/
def countAt (payload : Bytes) : Nat := (payload.getD 128 0).toNat

def pointsAt (payload : Bytes) : List CurvePoint :=
  (List.range (countAt payload)).map (pointAt payload)

/-- The payload is long enough, not more than sixteen slots are in use, and no slot in use has a
lower current or a longer duration than the one before it. -/
structure Acceptable (payload : Bytes) : Prop where
  complete : 130 ≤ payload.length
  countAt_le : countAt payload ≤ 16
  ordered : ∀ slot, slot + 1 < countAt payload →
    (pointAt payload slot).Precedes (pointAt payload (slot + 1))

theorem monotone_pointsAt_iff (payload : Bytes) :
    Monotone (pointsAt payload) ↔ ∀ slot, slot + 1 < countAt payload →
      (pointAt payload slot).Precedes (pointAt payload (slot + 1)) := by
  rw [Monotone, ← List.isChain_iff_pairwise, pointsAt, List.isChain_map, List.isChain_range]
  simp only [Nat.lt_sub_iff_add_lt]

theorem readPoints_succ (count : Nat) (bytes : Bytes) :
    readPoints (count + 1) bytes =
      if 8 ≤ bytes.length then
        (readPoints count (bytes.drop 8)).map fun (points, rest) =>
          (pointAt bytes 0 :: points, rest)
      else none := by
  match bytes with
  | _ :: _ :: _ :: _ :: _ :: _ :: _ :: _ :: rest =>
      rw [if_pos (by simp only [List.length_cons]; omega)]
      rfl
  | [] | [_] | [_, _] | [_, _, _] | [_, _, _, _] | [_, _, _, _, _] | [_, _, _, _, _, _]
  | [_, _, _, _, _, _, _] => rfl

theorem pointAt_drop (bytes : Bytes) (slot : Nat) :
    pointAt (bytes.drop 8) slot = pointAt bytes (slot + 1) := by
  simp only [pointAt, List.getD_eq_getElem?_getD, List.getElem?_drop, Nat.mul_succ, Nat.add_comm 8]

theorem readPoints_eq (count : Nat) (bytes : Bytes) :
    readPoints count bytes =
      if 8 * count ≤ bytes.length then
        some ((List.range count).map (pointAt bytes), bytes.drop (8 * count))
      else none := by
  induction count generalizing bytes with
  | zero => simp [readPoints]
  | succ count ih =>
      rw [readPoints_succ, ih, List.length_drop]
      by_cases enough : 8 * (count + 1) ≤ bytes.length
      · have later : pointAt (bytes.drop 8) = pointAt bytes ∘ Nat.succ :=
          funext (pointAt_drop bytes)
        rw [if_pos (by omega), if_pos (by omega), if_pos enough, Option.map_some, later,
          List.range_succ_eq_map, List.map_cons, List.map_map, List.drop_drop, Nat.mul_succ,
          Nat.add_comm 8]
      · rw [if_neg enough]
        split
        · rw [if_neg (by omega), Option.map_none]
        · rfl

theorem decode_eq (payload : Bytes) :
    decode payload =
      if payload.length < 130 then .error .truncated
      else if 16 < countAt payload then .error .tooManyPoints
      else (Curve.ofStored? (pointsAt payload)).map fun curve =>
        { curve, hardwareLimit := payload.getD 129 0 } := by
  unfold decode
  rw [readPoints_eq]
  by_cases short : payload.length < 130
  · rw [if_pos short]
    split
    -- Sixteen slots may be there, but not the two bytes after them.
    · next slots count hardwareLimit rest read =>
      split at read
      · have left := congrArg (List.length ∘ Prod.snd) (Option.some.inj read)
        simp only [Function.comp_apply, List.length_drop, List.length_cons, Curve.maxPoints] at left
        omega
      · cases read
    · rfl
  · have tail : payload.drop 128 =
        payload.getD 128 0 :: payload.getD 129 0 :: payload.drop 130 := by
      rw [List.getD_eq_getElem _ _ (by omega), List.getD_eq_getElem _ _ (by omega),
        ← List.drop_eq_getElem_cons, ← List.drop_eq_getElem_cons]
    rw [if_neg short, if_pos (by simp only [Curve.maxPoints]; omega), Curve.maxPoints, tail]
    dsimp only
    rw [← countAt]
    split
    · rfl
    · rw [← List.map_take, List.take_range, Nat.min_eq_left (by omega), ← pointsAt]
      cases Curve.ofStored? (pointsAt payload) <;> rfl

theorem points_of_ofStored? {points : List CurvePoint} {curve : Curve}
    (accepted : Curve.ofStored? points = .ok curve) : curve.points = points := by
  unfold Curve.ofStored? at accepted
  split at accepted
  · next empty =>
    cases accepted
    exact empty.symm
  · exact Curve.points_of_ofPoints? accepted

/-- A payload decodes to the settings that its bytes spell, and to no others. -/
theorem decode_eq_ok_iff (payload : Bytes) (settings : CurveSettings) :
    decode payload = .ok settings ↔
      (130 ≤ payload.length ∧ countAt payload ≤ 16) ∧
        settings.curve.points = pointsAt payload ∧
        settings.hardwareLimit = payload.getD 129 0 := by
  rw [decode_eq]
  constructor
  · intro accepted
    split at accepted
    · cases accepted
    · split at accepted
      · cases accepted
      · cases read : Curve.ofStored? (pointsAt payload) with
        | error error => simp [read, Except.map] at accepted
        | ok curve =>
            simp only [read, Except.map, Except.ok.injEq] at accepted
            rw [← accepted]
            exact ⟨⟨by omega, by omega⟩, points_of_ofStored? read, rfl⟩
  · rintro ⟨⟨complete, countAt_le⟩, points, hardwareLimit⟩
    rw [if_neg (by omega), if_neg (by omega), ← points, ofStored?_points, ← hardwareLimit]
    rfl

theorem isOk_decode_iff (payload : Bytes) :
    (∃ settings, decode payload = .ok settings) ↔ Acceptable payload := by
  constructor
  · rintro ⟨settings, accepted⟩
    obtain ⟨⟨complete, countAt_le⟩, points, _⟩ := (decode_eq_ok_iff payload settings).mp accepted
    have monotone := settings.curve.monotone
    rw [points] at monotone
    exact ⟨complete, countAt_le, (monotone_pointsAt_iff payload).mp monotone⟩
  · rintro ⟨complete, countAt_le, ordered⟩
    let curve : Curve :=
      { points := pointsAt payload
        size_le := by simpa [pointsAt] using countAt_le
        monotone := (monotone_pointsAt_iff payload).mpr ordered }
    exact ⟨⟨curve, payload.getD 129 0⟩,
      (decode_eq_ok_iff payload _).mpr ⟨⟨complete, countAt_le⟩, rfl, rfl⟩⟩

end CurveSettings

/-!
## Every record
-/

theorem Record.decode_encode_decoded {α : Type} [Record α] [LawfulRecord α] {payload : Bytes}
    {settings : α} (accepted : Record.decode payload = .ok settings) :
    Record.decode (Record.encode settings) = .ok settings := by
  obtain ⟨storable, same⟩ := LawfulRecord.decoded payload settings accepted
  have again := LawfulRecord.decode_encode settings [] storable
  rwa [List.append_nil, same] at again

/-- Curves and modulation counts come back as they were encoded, and valid recovery settings with
their times cut to the units of the record, which leaves them valid. What was decoded comes back as
it is, and the payloads of curves are those with acceptable bytes. -/
theorem records_round_trip :
    (∀ (settings : CurveSettings) (rest : Bytes),
      CurveSettings.decode (settings.encode ++ rest) = .ok settings) ∧
    (∀ (settings : ModulationSettings) (rest : Bytes),
      ModulationSettings.decode (settings.encode ++ rest) = .ok settings) ∧
    (∀ (settings : RecoverySettings) (rest : Bytes), settings.validate = .ok settings →
      let cut : RecoverySettings :=
        { settings with
          delay := Duration.ofMicros (min 0xffffffff (Duration.toMicros settings.delay))
          resetTimeout := Duration.ofMillis (Duration.toMillis settings.resetTimeout) }
      RecoverySettings.decode (settings.encode ++ rest) = .ok cut ∧ cut.validate = .ok cut) ∧
    (∀ (payload : Bytes) (settings : CurveSettings), CurveSettings.decode payload = .ok settings →
      CurveSettings.decode settings.encode = .ok settings) ∧
    (∀ (payload : Bytes) (settings : ModulationSettings),
      ModulationSettings.decode payload = .ok settings →
        ModulationSettings.decode settings.encode = .ok settings) ∧
    (∀ (payload : Bytes) (settings : RecoverySettings),
      RecoverySettings.decode payload = .ok settings →
        RecoverySettings.decode settings.encode = .ok settings) ∧
    ∀ payload : Bytes, (∃ settings, CurveSettings.decode payload = .ok settings) ↔
      CurveSettings.Acceptable payload := by
  refine ⟨CurveSettings.decode_encode, ModulationSettings.decode_encode, ?_, ?_, ?_, ?_,
    CurveSettings.isOk_decode_iff⟩
  · intro settings rest validated cut
    have valid : settings.Valid := by
      unfold RecoverySettings.validate at validated
      split at validated
      · assumption
      · cases validated
    exact ⟨RecoverySettings.decode_encode valid rest, if_pos valid.stored⟩
  · exact @Record.decode_encode_decoded CurveSettings _ _
  · exact @Record.decode_encode_decoded ModulationSettings _ _
  · exact @Record.decode_encode_decoded RecoverySettings _ _

def unevenTimes : RecoverySettings :=
  { enabled := true, attempts := 3, delay := 1500, resetTimeout := Duration.ofSeconds 2 + 1 }

/-- Such times come back without their fractions, and erased memory holds no curve. -/
theorem records_round_trip_uneven :
    (unevenTimes.validate = .ok unevenTimes ∧
      RecoverySettings.decode (unevenTimes.encode ++ [0xff]) =
        .ok { unevenTimes with delay := 1000, resetTimeout := Duration.ofSeconds 2 }) ∧
    RecoverySettings.decode (({} : RecoverySettings).encode) = .ok {} ∧
    ¬ ∃ settings, CurveSettings.decode (List.replicate 130 0xff) = .ok settings := by
  obtain ⟨_, _, recovery, _, _, again, curves⟩ := records_round_trip
  have valid : unevenTimes.validate = .ok unevenTimes := by decide
  refine ⟨⟨valid, (recovery unevenTimes [0xff] valid).1⟩, ?_, ?_⟩
  · exact again (({} : RecoverySettings).encode) {} (by decide)
  · rw [curves]
    intro acceptable
    have count := acceptable.countAt_le
    revert count
    decide

end CircuitBreaker
