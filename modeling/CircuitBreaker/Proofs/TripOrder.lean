import Mathlib.Data.List.Forall2
import CircuitBreaker.Proofs.TripCondition

/-!
# The order of trips

Two monitors that tick together, the second one at no less current and against a curve that is
nowhere more lenient. Its times are never behind those of the first one, so that it trips with the
same tick at the latest. The points may stand in any order, and ticks may come before they are due.
-/

set_option autoImplicit false

namespace CircuitBreaker

/-- The second point starts to count at no more current, and lasts no longer. -/
def CurvePoint.Tightens (lenient tight : CurvePoint) : Prop :=
  tight.current ≤ lenient.current ∧ tight.duration ≤ lenient.duration

instance (lenient tight : CurvePoint) : Decidable (lenient.Tightens tight) :=
  inferInstanceAs (Decidable (_ ∧ _))

/-- The second tick comes at the same instant, finds the breaker closed or not as the first one
does, and sees no less current. -/
def MonitorTick.Outweighs (light heavy : MonitorTick) : Prop :=
  heavy.now = light.now ∧ heavy.closed = light.closed ∧ light.current ≤ heavy.current

instance (light heavy : MonitorTick) : Decidable (light.Outweighs heavy) :=
  inferInstanceAs (Decidable (_ ∧ _))

theorem CurvePoint.Tightens.reached {lenient tight : CurvePoint} (tightens : lenient.Tightens tight)
    {light heavy : UInt32} (heavier : light ≤ heavy) (reached : lenient.current ≤ light) :
    tight.current ≤ heavy :=
  UInt32.le_trans tightens.1 (UInt32.le_trans reached heavier)

namespace SpentTimes

/-- No time of the second monitor is behind. -/
def Behind (slow fast : SpentTimes) : Prop :=
  ∀ (slot : Nat) (within : slot < 16), slow[slot] ≤ fast[slot]

theorem zero_behind (fast : SpentTimes) : zero.Behind fast := by
  intro slot within
  simp [zero]

theorem isSome_exceeded_iff (spent : SpentTimes) (points : List CurvePoint) (current : UInt32) :
    (spent.exceeded points current).isSome = true ↔
      ∃ (slot : Nat) (within : slot < 16) (point : CurvePoint), points[slot]? = some point ∧
        isSpent current point spent[slot] = true := by
  rw [exceeded, List.findIdx?_isSome, List.any_eq_true]
  constructor
  · rintro ⟨⟨point, time⟩, member, met⟩
    obtain ⟨slot, found⟩ := List.mem_iff_getElem?.mp member
    obtain ⟨pointAt, timeAt⟩ := List.getElem?_zip_eq_some.mp found
    obtain ⟨within, same⟩ := List.getElem?_eq_some_iff.mp timeAt
    rw [Vector.length_toList] at within
    rw [Vector.getElem_toList] at same
    exact ⟨slot, within, point, pointAt, by rw [same]; exact met⟩
  · rintro ⟨slot, within, point, pointAt, met⟩
    refine ⟨(point, spent[slot]), List.mem_iff_getElem?.mpr ⟨slot, ?_⟩, met⟩
    refine List.getElem?_zip_eq_some.mpr ⟨pointAt, ?_⟩
    rw [List.getElem?_eq_getElem (by rwa [Vector.length_toList]), Vector.getElem_toList]

variable {lenient tight : List CurvePoint}
  (tighter : List.Forall₂ CurvePoint.Tightens lenient tight)
  {light heavy : UInt32} (heavier : light ≤ heavy) {slow fast : SpentTimes}
  (behind : slow.Behind fast)
include tighter

theorem tightens_at {slot : Nat} {point : CurvePoint} (found : lenient[slot]? = some point) :
    ∃ tightened, tight[slot]? = some tightened ∧ point.Tightens tightened := by
  have pairs := List.forall₂_iff_get.mp tighter
  obtain ⟨within, rfl⟩ := List.getElem?_eq_some_iff.mp found
  have inside : slot < tight.length := pairs.1 ▸ within
  exact ⟨tight[slot], List.getElem?_eq_getElem inside, pairs.2 slot within inside⟩

include heavier behind

/-- A slot that grows for the first monitor grows for the second one, and a slot without a point has
none in either curve. -/
theorem charge_behind : (slow.charge lenient light).Behind (fast.charge tight heavy) := by
  intro slot within
  have before := behind slot within
  simp only [charge, Vector.getElem_mapIdx]
  cases found : lenient[slot]? with
  | none =>
      have outside : tight[slot]? = none := by
        rw [List.getElem?_eq_none_iff] at found ⊢
        rwa [← tighter.length_eq]
      rw [outside]
      exact before
  | some point =>
      obtain ⟨tightened, same, tightens⟩ := tightens_at tighter found
      rw [same]
      dsimp only
      by_cases reached : point.current ≤ light
      · rw [if_pos reached, if_pos (tightens.reached heavier reached), grow, grow]
        omega
      · rw [if_neg reached]
        exact Nat.zero_le _

theorem exceeded_of_behind (met : (slow.exceeded lenient light).isSome = true) :
    (fast.exceeded tight heavy).isSome = true := by
  obtain ⟨slot, within, point, found, spent⟩ := (isSome_exceeded_iff slow lenient light).mp met
  obtain ⟨tightened, same, tightens⟩ := tightens_at tighter found
  refine (isSome_exceeded_iff fast tight heavy).mpr ⟨slot, within, tightened, same, ?_⟩
  simp only [isSpent, Bool.and_eq_true, decide_eq_true_eq] at spent ⊢
  obtain ⟨reached, lasted⟩ := spent
  refine ⟨tightens.reached heavier reached, ?_⟩
  have shorter := UInt32.le_iff_toNat_le.mp tightens.2
  have before := behind slot within
  omega

/-- What a due tick does to both: the times of the second monitor stay in front, and it finds a
point exceeded if the first one does. -/
theorem evaluate_behind (closed : Bool) :
    (slow.evaluate lenient light closed).2.Behind (fast.evaluate tight heavy closed).2 ∧
      ((slow.evaluate lenient light closed).1.isSome = true →
        (fast.evaluate tight heavy closed).1.isSome = true) := by
  cases closed with
  | false => exact ⟨behind, fun found => by cases found⟩
  | true =>
      cases tighter with
      | nil => exact ⟨zero_behind _, fun found => by cases found⟩
      | @cons lowest lower rest others tightens tighter =>
          by_cases below : light < lowest.current
          · -- The times of the first monitor are cleared, whatever the second one does.
            have cleared : slow.evaluate (lowest :: rest) light true = (none, zero) := by
              simp [evaluate, below]
            rw [cleared]
            exact ⟨zero_behind _, fun found => by cases found⟩
          · have above := tightens.reached heavier (UInt32.not_lt.mp below)
            rw [evaluate_of_reached below, evaluate_of_reached (UInt32.not_lt.mpr above)]
            have pairs := List.Forall₂.cons tightens tighter
            have charged := charge_behind pairs heavier behind
            exact ⟨charged, exceeded_of_behind pairs heavier charged⟩

end SpentTimes

namespace Monitor

variable (clock : Clock)

def outcomes (points : List CurvePoint) : Monitor → List MonitorTick → List TickOutcome
  | _, [] => []
  | monitor, tick :: rest =>
      (monitor.tick clock tick.now tick.current points tick.closed).1 ::
        outcomes points (monitor.after clock points tick) rest

/-- The second monitor ticks with the first one, and no time of it is behind. -/
structure Keeps (slow fast : Monitor) : Prop where
  nextTick : fast.nextTick = slow.nextTick
  spent : slow.spent.Behind fast.spent

variable {lenient tight : List CurvePoint}
  (tighter : List.Forall₂ CurvePoint.Tightens lenient tight)
include tighter

/-- A tick of both: the second monitor trips, or neither does and both go on together. -/
theorem Keeps.tick {slow fast : Monitor} (keeps : slow.Keeps fast) {light heavy : MonitorTick}
    (heavier : light.Outweighs heavy) :
    (∃ slot, (fast.tick clock heavy.now heavy.current tight heavy.closed).1 = .tripped slot) ∨
      (∀ slot, (slow.tick clock light.now light.current lenient light.closed).1 ≠ .tripped slot) ∧
        (slow.after clock lenient light).Keeps (fast.after clock tight heavy) := by
  obtain ⟨sameNow, sameClosed, moreCurrent⟩ := heavier
  obtain ⟨times, trips⟩ :=
    SpentTimes.evaluate_behind tighter moreCurrent keeps.spent light.closed
  unfold after Monitor.tick
  rw [keeps.nextTick, sameNow, sameClosed]
  cases slow.nextTick with
  | none => exact .inr ⟨by simp, keeps.nextTick, keeps.spent⟩
  | some deadline =>
      dsimp only
      by_cases early : light.now < deadline
      · rw [if_pos early, if_pos early]
        exact .inr ⟨by simp, keeps.nextTick, keeps.spent⟩
      · rw [if_neg early, if_neg early]
        cases quick : fast.spent.evaluate tight heavy.current light.closed with
        | mk found charged =>
            cases found with
            | some point => exact .inl ⟨point, rfl⟩
            | none =>
                rw [quick] at times trips
                cases late : slow.spent.evaluate lenient light.current light.closed with
                | mk found spent =>
                    rw [late] at times trips
                    cases found with
                    | some point => cases trips rfl
                    | none => exact .inr ⟨by simp, rfl, times⟩

private theorem Keeps.trips {light heavy : List MonitorTick}
    (heavier : List.Forall₂ MonitorTick.Outweighs light heavy) {slow fast : Monitor}
    (keeps : slow.Keeps fast) {index point : Nat}
    (trips : (slow.outcomes clock lenient light)[index]? = some (.tripped point)) :
    ∃ earlier ≤ index, ∃ slot,
      (fast.outcomes clock tight heavy)[earlier]? = some (.tripped slot) := by
  induction heavier generalizing slow fast index with
  | nil => simp [outcomes] at trips
  | cons outweighs heavier ih =>
      rcases keeps.tick clock tighter outweighs with ⟨slot, tripped⟩ | ⟨untripped, together⟩
      · exact ⟨0, Nat.zero_le _, slot, by simp [outcomes, tripped]⟩
      · cases index with
        | zero =>
            simp only [outcomes, List.getElem?_cons_zero, Option.some.injEq] at trips
            exact absurd trips (untripped point)
        | succ index =>
            simp only [outcomes, List.getElem?_cons_succ] at trips
            obtain ⟨earlier, ordered, slot, tripped⟩ := ih together trips
            exact ⟨earlier + 1, Nat.succ_le_succ ordered, slot, by simpa [outcomes] using tripped⟩

/-- Two monitors start at the same instant with cleared times, and tick at the same instants while
their breakers are closed together. Where the second one never sees less current and no point of its
curve is more lenient, it trips with the same tick as the first one or before. -/
theorem trips_no_later {light heavy : List MonitorTick}
    (heavier : List.Forall₂ MonitorTick.Outweighs light heavy) {slow fast : Monitor}
    (cleared : slow.spent = .zero) (clearedToo : fast.spent = .zero) (startedAt : Nat)
    {index point : Nat}
    (trips : ((slow.start clock startedAt).outcomes clock lenient light)[index]? =
      some (.tripped point)) :
    ∃ earlier ≤ index, ∃ slot,
      ((fast.start clock startedAt).outcomes clock tight heavy)[earlier]? =
        some (.tripped slot) := by
  have together : (slow.start clock startedAt).Keeps (fast.start clock startedAt) := by
    refine ⟨rfl, ?_⟩
    simp only [start, cleared, clearedToo]
    exact SpentTimes.zero_behind .zero
  exact together.trips clock tighter heavier trips

omit tighter in
/-- A tick that comes too early, a pause and a current that falls below the lowest point of the
first curve, but not below that of the second. -/
theorem trips_no_later_paused :
    let lenient : List CurvePoint := [⟨1000, 200⟩, ⟨5000, 100⟩]
    let tight : List CurvePoint := [⟨800, 200⟩, ⟨5000, 100⟩]
    let light : List MonitorTick := [⟨100000, 1500, true⟩, ⟨150000, 9000, true⟩,
      ⟨200000, 900, true⟩, ⟨300000, 9000, false⟩, ⟨400000, 1500, true⟩, ⟨500000, 1500, true⟩]
    let heavy : List MonitorTick := [⟨100000, 1500, true⟩, ⟨150000, 9000, true⟩,
      ⟨200000, 1000, true⟩, ⟨300000, 9000, false⟩, ⟨400000, 1600, true⟩, ⟨500000, 1500, true⟩]
    List.Forall₂ CurvePoint.Tightens lenient tight ∧
      List.Forall₂ MonitorTick.Outweighs light heavy ∧
      ((start {} Clock.micros 0).outcomes Clock.micros lenient light)[5]? = some (.tripped 0) ∧
      ∃ earlier ≤ 5, ∃ slot,
        ((start {} Clock.micros 0).outcomes Clock.micros tight heavy)[earlier]? =
          some (.tripped slot) := by
  intro lenient tight light heavy
  have tighter : List.Forall₂ CurvePoint.Tightens lenient tight := by decide
  have heavier : List.Forall₂ MonitorTick.Outweighs light heavy := by decide
  have trips : ((start {} Clock.micros 0).outcomes Clock.micros lenient light)[5]? =
      some (.tripped 0) := by decide +kernel
  exact ⟨tighter, heavier, trips, trips_no_later Clock.micros tighter heavier rfl rfl 0 trips⟩

end Monitor

end CircuitBreaker
