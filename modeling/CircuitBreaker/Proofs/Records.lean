import CircuitBreaker.Config.Settings
import CircuitBreaker.Console.Command
import CircuitBreaker.Storage.Frame

/-!
# Settings and their records

What comes back from the record of some settings: the settings themselves, except that the times of
the recovery are cut to the units and to the words in which they are stored. Settings that come
from a record come back as they are.
-/

set_option autoImplicit false

namespace CircuitBreaker

/-!
## The curve
-/

namespace CurveSettings

private theorem readPoints_encoded (points : List CurvePoint) (count : Nat) (rest : Bytes) :
    readPoints (points.length + count) (points.flatMap encodePoint ++ rest) =
      (readPoints count rest).map fun (slots, rest) => (points ++ slots, rest) := by
  induction points with
  | nil => cases blank : readPoints count rest <;> simp [blank]
  | cons point points ih =>
      rw [List.length_cons, Nat.add_right_comm, List.flatMap_cons, List.append_assoc]
      simp only [encodePoint, Bytes.of32, List.cons_append, List.nil_append, readPoints, ih,
        Bytes.word32_of32]
      cases readPoints count rest <;> rfl

private theorem readPoints_blank (count : Nat) (rest : Bytes) :
    readPoints count (List.replicate (8 * count) 0 ++ rest) =
      some (List.replicate count ⟨0, 0⟩, rest) := by
  induction count with
  | zero => rfl
  | succ count ih =>
      have zero : Bytes.word32 0 0 0 0 = 0 := by decide
      simp only [Nat.mul_succ, List.replicate_succ, List.cons_append, readPoints, ih, zero,
        Option.map_some]

theorem length_encode (settings : CurveSettings) : (encode settings).length = 130 := by
  have points : (settings.curve.points.flatMap encodePoint).length =
      8 * settings.curve.points.length := by
    induction settings.curve.points with
    | nil => rfl
    | cons point points ih =>
        rw [List.flatMap_cons, List.length_append, ih, List.length_cons]
        simp only [encodePoint, List.length_append, Bytes.length_of32]
        omega
  have size := settings.curve.size_le
  simp only [encode, List.length_append, points, List.length_replicate, List.length_cons,
    List.length_nil, Curve.maxPoints]
  omega

theorem ofStored?_points (curve : Curve) : Curve.ofStored? curve.points = .ok curve := by
  unfold Curve.ofStored?
  split
  · next empty =>
    cases curve
    cases empty
    rfl
  · next nonempty => exact Curve.ofPoints?_points nonempty

theorem decode_encode (settings : CurveSettings) (rest : Bytes) :
    decode (encode settings ++ rest) = .ok settings := by
  have size := settings.curve.size_le
  have slots := readPoints_encoded settings.curve.points
    (Curve.maxPoints - settings.curve.points.length)
    (List.replicate (8 * (Curve.maxPoints - settings.curve.points.length)) 0 ++
      ([UInt8.ofNat settings.curve.points.length, settings.hardwareLimit] ++ rest))
  rw [readPoints_blank, Option.map_some,
    show settings.curve.points.length + (Curve.maxPoints - settings.curve.points.length) =
      Curve.maxPoints by simp only [Curve.maxPoints]; omega] at slots
  have count : (UInt8.ofNat settings.curve.points.length).toNat = settings.curve.points.length := by
    rw [UInt8.toNat_ofNat']
    omega
  unfold decode encode
  simp only [List.append_assoc]
  rw [slots]
  simp only [List.cons_append, List.nil_append, count]
  rw [if_neg (by simp only [Curve.maxPoints]; omega), List.take_left', ofStored?_points]
  rfl

end CurveSettings

/-!
## The recovery
-/

namespace RecoverySettings

def stored (settings : RecoverySettings) : RecoverySettings :=
  { settings with
    delay := Duration.ofMicros (min 0xffffffff (Duration.toMicros settings.delay))
    resetTimeout := Duration.ofMillis (Duration.toMillis settings.resetTimeout) }

theorem Valid.stored {settings : RecoverySettings} (valid : settings.Valid) :
    settings.stored.Valid := by
  obtain ⟨least, most⟩ := valid
  simp only [Valid, RecoverySettings.stored, minResetTimeout, maxResetTimeout, Duration.ofSeconds,
    Duration.ofMillis, Duration.toMillis] at least most ⊢
  omega

theorem length_encode (settings : RecoverySettings) : (encode settings).length = 12 := rfl

theorem decode_encode {settings : RecoverySettings} (valid : settings.Valid) (rest : Bytes) :
    decode (encode settings ++ rest) = .ok settings.stored := by
  have reset : min 0xffffffff (Duration.toMillis settings.resetTimeout) =
      Duration.toMillis settings.resetTimeout := by
    have most := valid.2
    simp only [maxResetTimeout, Duration.ofSeconds, Duration.toMillis] at most ⊢
    omega
  have enabled : decide ((if settings.enabled then (1 : UInt8) else 0) ≠ 0) = settings.enabled := by
    cases settings.enabled <;> rfl
  simp only [decode, encode, Bytes.of16, Bytes.of32, List.cons_append, List.nil_append,
    ClosedMode.ofCode?_code, Bytes.word16_of16, Bytes.word32_of32, enabled]
  rw [toNat_clamp32, toNat_clamp32, reset]
  exact if_pos valid.stored

def Storable (settings : RecoverySettings) : Prop := settings.stored = settings

instance (settings : RecoverySettings) : Decidable settings.Storable :=
  inferInstanceAs (Decidable (_ = _))

def maxStoredDelay : Nat := Duration.ofMicros 0xffffffff

/-- The times are in the units of a record: the delay in whole microseconds and the reset timeout in
whole milliseconds. -/
def Whole (settings : RecoverySettings) : Prop :=
  Duration.ofMicros (Duration.toMicros settings.delay) = settings.delay ∧
    Duration.ofMillis (Duration.toMillis settings.resetTimeout) = settings.resetTimeout

instance (settings : RecoverySettings) : Decidable settings.Whole :=
  inferInstanceAs (Decidable (_ ∧ _))

theorem Storable.whole {settings : RecoverySettings} (storable : settings.Storable) :
    settings.Whole := by
  have delay : Duration.ofMicros (min 0xffffffff (Duration.toMicros settings.delay)) =
      settings.delay := congrArg RecoverySettings.delay storable
  have micros := congrArg Duration.toMicros delay
  rw [Duration.toMicros_ofMicros] at micros
  refine ⟨?_, congrArg RecoverySettings.resetTimeout storable⟩
  rw [← micros]
  exact delay

theorem Whole.stored_eq {settings : RecoverySettings} (whole : settings.Whole) :
    settings.stored = { settings with delay := min settings.delay maxStoredDelay } := by
  obtain ⟨delay, reset⟩ := whole
  have cut : Duration.ofMicros (min 0xffffffff (Duration.toMicros settings.delay)) =
      min settings.delay maxStoredDelay := by
    unfold Duration.ofMicros at delay
    rw [maxStoredDelay, Duration.ofMicros, ← Nat.mul_min_mul_right, delay, Nat.min_comm]
    rfl
  rw [stored, reset, cut]

theorem storable_iff (settings : RecoverySettings) :
    settings.Storable ↔ settings.Whole ∧ settings.delay ≤ maxStoredDelay := by
  constructor
  · intro storable
    refine ⟨storable.whole, ?_⟩
    have delay := congrArg RecoverySettings.delay (storable.whole.stored_eq.symm.trans storable)
    exact Nat.le_trans (Nat.le_of_eq delay.symm) (Nat.min_le_right _ _)
  · rintro ⟨whole, short⟩
    rw [Storable, whole.stored_eq, Nat.min_eq_left short]

theorem storable_stored (settings : RecoverySettings) : settings.stored.Storable := by
  simp only [Storable, stored, Duration.toMillis_ofMillis, Duration.toMicros_ofMicros,
    RecoverySettings.mk.injEq, true_and, and_true]
  congr 1
  omega

theorem decoded {bytes : Bytes} {settings : RecoverySettings}
    (accepted : decode bytes = .ok settings) : settings.Valid ∧ settings.Storable := by
  unfold decode at accepted
  split at accepted
  · split at accepted
    · cases accepted
    · next d0 d1 d2 d3 r0 r1 r2 r3 _ _ mode _ =>
      unfold validate at accepted
      split at accepted
      · next valid =>
        cases accepted
        refine ⟨valid, ?_⟩
        have delay := (Bytes.word32 d0 d1 d2 d3).toNat_lt
        simp only [Storable, stored, Duration.toMillis_ofMillis, Duration.toMicros_ofMicros]
        rw [Nat.min_eq_right (by omega)]
      · cases accepted
  · cases accepted

/-- Console arguments are in milliseconds, so the settings that they make are whole. -/
theorem whole_applyTo (arguments : RecoveryArguments) (settings : RecoverySettings) :
    (arguments.applyTo settings).Whole := by
  simp only [RecoveryArguments.applyTo, Whole, Duration.ofMicros, Duration.ofMillis,
    Duration.toMicros, Duration.toMillis]
  omega

end RecoverySettings

namespace ModulationSettings

theorem decode_encode (settings : ModulationSettings) (rest : Bytes) :
    decode (encode settings ++ rest) = .ok settings := rfl

end ModulationSettings

/-!
## Every record
-/

/-- The bytes of a framed record after the start of the store. -/
def Record.frameEnd (α : Type) [Record α] : Nat :=
  Record.offset α + Frame.headerSize + Record.size α

/-- The frames of two records have no byte in common. -/
def Record.Apart (α β : Type) [Record α] [Record β] : Prop :=
  Record.frameEnd α ≤ Record.offset β ∨ Record.frameEnd β ≤ Record.offset α

instance (α β : Type) [Record α] [Record β] : Decidable (Record.Apart α β) :=
  inferInstanceAs (Decidable (_ ∨ _))

/-- Records that come back as they are stored, and settings that are stored as they are if they come
from a record. The record of the modulation is the last one in the store. -/
class LawfulRecord (α : Type) [Record α] where
  /-- The settings that may be stored. -/
  Accepted : α → Prop
  stored : α → α
  size_le : Record.size α ≤ Frame.maxPayload
  offset_le : Record.offset α ≤ Record.offset ModulationSettings
  frameEnd_le : Record.frameEnd α ≤ Record.frameEnd ModulationSettings
  length_encode : ∀ settings : α, (Record.encode settings).length = Record.size α
  decode_encode : ∀ (settings : α) (rest : Bytes), Accepted settings →
    Record.decode (Record.encode settings ++ rest) = .ok (stored settings)
  decoded : ∀ (bytes : Bytes) (settings : α), Record.decode bytes = .ok settings →
    Accepted settings ∧ stored settings = settings
  initial : Accepted (Record.initial : α) ∧ stored (Record.initial : α) = Record.initial

instance : LawfulRecord CurveSettings where
  Accepted _ := True
  stored settings := settings
  size_le := by decide
  offset_le := by decide
  frameEnd_le := by decide
  length_encode := CurveSettings.length_encode
  decode_encode settings rest _ := settings.decode_encode rest
  decoded _ _ _ := ⟨trivial, rfl⟩
  initial := ⟨trivial, rfl⟩

instance : LawfulRecord RecoverySettings where
  Accepted := RecoverySettings.Valid
  stored := RecoverySettings.stored
  size_le := by decide
  offset_le := by decide
  frameEnd_le := by decide
  length_encode := RecoverySettings.length_encode
  decode_encode _ rest valid := RecoverySettings.decode_encode valid rest
  decoded _ _ accepted := RecoverySettings.decoded accepted
  initial := ⟨by decide, by decide⟩

instance : LawfulRecord ModulationSettings where
  Accepted _ := True
  stored settings := settings
  size_le := by decide
  offset_le := by decide
  frameEnd_le := by decide
  length_encode _ := rfl
  decode_encode settings rest _ := settings.decode_encode rest
  decoded _ _ _ := ⟨trivial, rfl⟩
  initial := ⟨trivial, rfl⟩

end CircuitBreaker
