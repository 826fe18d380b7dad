import CircuitBreaker.Config.Record

/-!
# Trip curve

An inverse-time curve is a list of points, from the lowest current up: the
higher the current, the shorter it may last. The settings record holds a curve
and the current limit of the switch hardware.
-/

set_option autoImplicit false

namespace CircuitBreaker

/-- A current in milliamperes and how many milliseconds it may last. -/
structure CurvePoint where
  current : UInt32
  duration : UInt32
deriving DecidableEq, Repr

/-- A point may stand before another that has no lower current and no longer duration. -/
def CurvePoint.Precedes (first second : CurvePoint) : Prop :=
  first.current ≤ second.current ∧ second.duration ≤ first.duration

instance (first second : CurvePoint) : Decidable (first.Precedes second) :=
  inferInstanceAs (Decidable (_ ∧ _))

/-- Points in the order of a curve: currents never fall and durations never rise. -/
def Monotone (points : List CurvePoint) : Prop := points.Pairwise CurvePoint.Precedes

instance (points : List CurvePoint) : Decidable (Monotone points) :=
  inferInstanceAs (Decidable (List.Pairwise _ _))

/-- A curve. The empty one never trips. -/
structure Curve where
  points : List CurvePoint
  size_le : points.length ≤ 16 := by decide
  monotone : Monotone points := by decide
deriving DecidableEq, Repr

namespace Curve

def maxPoints : Nat := 16

def empty : Curve := { points := [] }

/-- The curve of a 16 A class B breaker. -/
def classB16 : Curve where
  points := [
    ⟨18000, 5400000⟩, ⟨20000, 1600000⟩, ⟨22000, 500000⟩, ⟨24000, 180000⟩,
    ⟨26000, 90000⟩, ⟨28000, 50000⟩, ⟨30000, 30000⟩, ⟨32000, 20000⟩,
    ⟨34000, 13000⟩, ⟨36000, 8500⟩, ⟨38000, 6000⟩, ⟨40000, 4200⟩,
    ⟨42000, 2800⟩, ⟨44000, 1900⟩, ⟨46000, 1400⟩, ⟨48000, 1000⟩]

/-- The curve with these points. An empty or unordered list is refused first, and
an ordered one if it is too long. -/
def ofPoints? (points : List CurvePoint) : Except ConfigError Curve :=
  if points = [] then .error .invalidPoints
  else if monotone : Monotone points then
    if size_le : points.length ≤ maxPoints then .ok { points, size_le, monotone }
    else .error .tooManyPoints
  else .error .invalidPoints

/-- As `ofPoints?`, but no points make the empty curve. -/
def ofStored? (points : List CurvePoint) : Except ConfigError Curve :=
  if points = [] then .ok empty else ofPoints? points

theorem ofPoints?_points {curve : Curve} (nonempty : curve.points ≠ []) :
    ofPoints? curve.points = .ok curve := by
  simp [ofPoints?, nonempty, curve.monotone, maxPoints, curve.size_le]

theorem points_of_ofPoints? {points : List CurvePoint} {curve : Curve}
    (accepted : ofPoints? points = .ok curve) : curve.points = points := by
  unfold ofPoints? at accepted
  split at accepted
  · cases accepted
  · split at accepted
    · split at accepted
      · obtain rfl := Except.ok.inj accepted
        rfl
      · cases accepted
    · cases accepted

end Curve

/-- The curve and the current limit of the switch hardware. -/
structure CurveSettings where
  curve : Curve := .classB16
  hardwareLimit : UInt8 := 60
deriving DecidableEq, Repr

namespace CurveSettings

/-- The bytes of a point: current, then duration. -/
def encodePoint (point : CurvePoint) : Bytes :=
  Bytes.of32 point.current ++ Bytes.of32 point.duration

/-- Reads `count` points and gives the bytes after them. -/
def readPoints : Nat → Bytes → Option (List CurvePoint × Bytes)
  | 0, bytes => some ([], bytes)
  | count + 1, c0 :: c1 :: c2 :: c3 :: d0 :: d1 :: d2 :: d3 :: rest =>
      (readPoints count rest).map fun (points, rest) =>
        (⟨Bytes.word32 c0 c1 c2 c3, Bytes.word32 d0 d1 d2 d3⟩ :: points, rest)
  | _ + 1, _ => none

/-- Sixteen slots for points, the unused ones zero, then the number of points and
the hardware limit. -/
def encode (settings : CurveSettings) : Bytes :=
  let points := settings.curve.points
  points.flatMap encodePoint ++ List.replicate (8 * (Curve.maxPoints - points.length)) 0 ++
    [UInt8.ofNat points.length, settings.hardwareLimit]

def decode (bytes : Bytes) : Except ConfigError CurveSettings :=
  match readPoints Curve.maxPoints bytes with
  | some (slots, count :: hardwareLimit :: _) =>
      if Curve.maxPoints < count.toNat then .error .tooManyPoints
      else
        match Curve.ofStored? (slots.take count.toNat) with
        | .ok curve => .ok { curve, hardwareLimit }
        | .error error => .error error
  | _ => .error .truncated

instance : Record CurveSettings where
  kind := .tripCurve
  offset := 0
  size := 130
  initial := {}
  encode := encode
  decode := decode

end CurveSettings

end CircuitBreaker
