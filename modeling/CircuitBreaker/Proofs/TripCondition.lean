import CircuitBreaker.Monitor
import Mathlib.Data.List.Induction

/-!
# The trip condition

A point of the curve sees the ticks that find the breaker closed, and of these the latest ones in
a row that are at or above its current. The monitor keeps the time of that row for every point at
once, and trips with the first tick that makes the row of a point as long as it may be.
-/

set_option autoImplicit false

namespace CircuitBreaker

structure MonitorTick where
  now : Nat
  current : UInt32
  closed : Bool
deriving DecidableEq, Repr

namespace CurvePoint

/-- The number of latest ticks in a row at or above the current of a point. Ticks that find the
breaker not closed are passed over. -/
def streak (point : CurvePoint) (ticks : List MonitorTick) : Nat :=
  ((ticks.filter MonitorTick.closed).reverse.takeWhile fun tick =>
    decide (point.current ≤ tick.current)).length

variable (point : CurvePoint) (ticks : List MonitorTick) {tick : MonitorTick}

theorem streak_of_open (opened : tick.closed = false) :
    point.streak (ticks ++ [tick]) = point.streak ticks := by
  simp [streak, opened]

theorem streak_of_exceeded (closed : tick.closed = true) (exceeded : point.current ≤ tick.current) :
    point.streak (ticks ++ [tick]) = point.streak ticks + 1 := by
  simp [streak, closed, exceeded]

theorem streak_of_below (closed : tick.closed = true) (below : ¬ point.current ≤ tick.current) :
    point.streak (ticks ++ [tick]) = 0 := by
  simp [streak, closed, below]

end CurvePoint

/-- After some ticks, `last` finds the breaker closed and the point in `slot` exceeded for as long
as it may be. -/
def TripsAt (points : List CurvePoint) (ticks : List MonitorTick) (last : MonitorTick)
    (slot : Nat) : Prop :=
  last.closed = true ∧ ∃ point, points[slot]? = some point ∧ point.current ≤ last.current ∧
    point.duration.toNat ≤ 100 * point.streak (ticks ++ [last])

namespace SpentTimes

/-- The times that the latest rows of ticks come to, zero where there is no point. -/
def accrued (points : List CurvePoint) (ticks : List MonitorTick) : SpentTimes :=
  Vector.ofFn fun slot =>
    match points[slot.val]? with
    | some point => min 0xffffffff (100 * point.streak ticks)
    | none => 0

variable (points : List CurvePoint) (ticks : List MonitorTick)

@[simp]
theorem accrued_nil : accrued points [] = zero := by
  apply Vector.ext
  intro slot within
  simp only [accrued, zero, Vector.getElem_ofFn, Vector.getElem_replicate]
  split <;> simp [CurvePoint.streak]

theorem accrued_of_open {tick : MonitorTick} (opened : tick.closed = false) :
    accrued points (ticks ++ [tick]) = accrued points ticks := by
  simp only [accrued, CurvePoint.streak_of_open _ _ opened]

/-- A current below every point starts all rows again. -/
theorem accrued_of_below {tick : MonitorTick} (closed : tick.closed = true)
    (below : ∀ point ∈ points, ¬ point.current ≤ tick.current) :
    accrued points (ticks ++ [tick]) = zero := by
  apply Vector.ext
  intro slot within
  simp only [accrued, zero, Vector.getElem_ofFn, Vector.getElem_replicate]
  split
  · next point found =>
    rw [point.streak_of_below ticks closed (below point (List.mem_of_getElem? found))]
    rfl
  · rfl

/-- One more tick charges every point as its row goes on or starts again. -/
theorem charge_accrued {tick : MonitorTick} (closed : tick.closed = true) :
    (accrued points ticks).charge points tick.current = accrued points (ticks ++ [tick]) := by
  apply Vector.ext
  intro slot within
  simp only [charge, accrued, Vector.getElem_mapIdx, Vector.getElem_ofFn]
  cases points[slot]? with
  | none => rfl
  | some point =>
      dsimp only
      split
      · next exceeded =>
        rw [point.streak_of_exceeded ticks closed exceeded, grow, tickMillis]
        omega
      · next below =>
        rw [point.streak_of_below ticks closed below]
        rfl

/-- The point that is found exceeded is the first one that trips. -/
theorem exceeded_accrued {tick : MonitorTick} (closed : tick.closed = true)
    (few : points.length ≤ 16) (slot : Nat) :
    (accrued points (ticks ++ [tick])).exceeded points tick.current = some slot ↔
      TripsAt points ticks tick slot ∧ ∀ lower < slot, ¬ TripsAt points ticks tick lower := by
  unfold exceeded
  generalize shown : (accrued points (ticks ++ [tick])).toList = times
  have size : times.length = 16 := by
    rw [← shown, Vector.length_toList]
  have spent (index : Nat) (within : index < points.length) (kept : index < times.length) :
      isSpent tick.current points[index] times[index] = true ↔ TripsAt points ticks tick index := by
    have bounded := points[index].duration.toNat_lt
    have time : times[index] = min 0xffffffff (100 * points[index].streak (ticks ++ [tick])) := by
      simp only [← shown, accrued, Vector.getElem_toList, Vector.getElem_ofFn,
        List.getElem?_eq_getElem within]
    simp only [isSpent, time, List.getElem?_eq_getElem within, Bool.and_eq_true, decide_eq_true_eq,
      TripsAt, closed, true_and, Option.some.injEq, exists_eq_left']
    exact and_congr_right fun _ => by omega
  have outside (index : Nat) (beyond : ¬ index < points.length) :
      ¬ TripsAt points ticks tick index := by
    rintro ⟨_, point, found, _⟩
    rw [List.getElem?_eq_none (Nat.le_of_not_lt beyond)] at found
    cases found
  have length : (points.zip times).length = points.length := by
    rw [List.length_zip, size]
    omega
  rw [List.findIdx?_eq_some_iff_getElem]
  constructor
  · rintro ⟨within, trips, lower⟩
    rw [length] at within
    rw [List.getElem_zip, spent slot within _] at trips
    refine ⟨trips, fun index before => ?_⟩
    have quiet := lower index before
    rwa [List.getElem_zip, spent index (by omega) _] at quiet
  · rintro ⟨trips, lower⟩
    have within : slot < points.length := by
      by_contra beyond
      exact outside slot beyond trips
    refine ⟨by rw [length]; exact within, ?_, fun index before => ?_⟩
    · rw [List.getElem_zip, spent slot within _]
      exact trips
    · rw [List.getElem_zip, spent index (by omega) _]
      exact lower index before

/-- At or above the lowest point every point is charged, and the first one to be exceeded is
looked for. -/
theorem evaluate_of_reached {lowest : CurvePoint} {rest : List CurvePoint} {current : UInt32}
    (reached : ¬ current < lowest.current) (spent : SpentTimes) :
    spent.evaluate (lowest :: rest) current true =
      ((spent.charge (lowest :: rest) current).exceeded (lowest :: rest) current,
        spent.charge (lowest :: rest) current) := by
  simp [evaluate, reached]

/-- A due tick brings the times to those of its rows, and finds the first point that trips. -/
theorem evaluate_accrued (curve : Curve) (tick : MonitorTick) :
    ((accrued curve.points ticks).evaluate curve.points tick.current tick.closed).2 =
        accrued curve.points (ticks ++ [tick]) ∧
      ∀ slot,
        ((accrued curve.points ticks).evaluate curve.points tick.current tick.closed).1 =
            some slot ↔
          TripsAt curve.points ticks tick slot ∧
            ∀ lower < slot, ¬ TripsAt curve.points ticks tick lower := by
  obtain ⟨points, few, monotone⟩ := curve
  dsimp only
  have quiet (unmet : ∀ slot, ¬ TripsAt points ticks tick slot) (slot : Nat) :
      none = some slot ↔ TripsAt points ticks tick slot ∧
        ∀ lower < slot, ¬ TripsAt points ticks tick lower := by
    simp [unmet slot]
  cases closed : tick.closed with
  | false =>
      refine ⟨(accrued_of_open points ticks closed).symm, quiet fun slot trips => ?_⟩
      simp [TripsAt, closed] at trips
  | true =>
      have cleared (below : ∀ point ∈ points, ¬ point.current ≤ tick.current) :
          zero = accrued points (ticks ++ [tick]) ∧
            ∀ slot, none = some slot ↔ TripsAt points ticks tick slot ∧
              ∀ lower < slot, ¬ TripsAt points ticks tick lower := by
        refine ⟨(accrued_of_below points ticks closed below).symm, quiet ?_⟩
        rintro slot ⟨_, point, found, exceeded, _⟩
        exact below point (List.mem_of_getElem? found) exceeded
      cases points with
      | nil => exact cleared (List.forall_mem_nil _)
      | cons lowest rest =>
          by_cases below : tick.current < lowest.current
          · -- The currents of a curve never fall, so this one is below all of them.
            have none : (accrued (lowest :: rest) ticks).evaluate (lowest :: rest) tick.current
                true = (none, zero) := by
              simp [evaluate, below]
            rw [none]
            refine cleared (List.forall_mem_cons.mpr ⟨UInt32.not_le.mpr below, ?_⟩)
            intro point member exceeded
            have rises := (List.rel_of_pairwise_cons monotone member).1
            exact absurd (UInt32.le_trans rises exceeded) (UInt32.not_le.mpr below)
          · rw [evaluate_of_reached below, charge_accrued (lowest :: rest) ticks closed]
            dsimp only
            exact ⟨rfl, exceeded_accrued (lowest :: rest) ticks closed few⟩

end SpentTimes

namespace Monitor

def IsDue (monitor : Monitor) (now : Nat) : Prop :=
  ∃ deadline ∈ monitor.nextTick, deadline ≤ now

instance (monitor : Monitor) (now : Nat) : Decidable (monitor.IsDue now) :=
  inferInstanceAs (Decidable (∃ deadline ∈ _, _))

variable (clock : Clock) (points : List CurvePoint)

def after (monitor : Monitor) (tick : MonitorTick) : Monitor :=
  (monitor.tick clock tick.now tick.current points tick.closed).2

def AllDue : Monitor → List MonitorTick → Prop
  | _, [] => True
  | monitor, tick :: rest => monitor.IsDue tick.now ∧ AllDue (monitor.after clock points tick) rest

instance decidableAllDue : (monitor : Monitor) → (ticks : List MonitorTick) →
    Decidable (monitor.AllDue clock points ticks)
  | _, [] => inferInstanceAs (Decidable True)
  | monitor, tick :: rest =>
      let _ := decidableAllDue (monitor.after clock points tick) rest
      inferInstanceAs (Decidable (monitor.IsDue tick.now ∧ _))

variable {clock points}

theorem allDue_append {monitor : Monitor} {ticks later : List MonitorTick} :
    monitor.AllDue clock points (ticks ++ later) ↔
      monitor.AllDue clock points ticks ∧
        (ticks.foldl (after clock points) monitor).AllDue clock points later := by
  induction ticks generalizing monitor with
  | nil => simp [AllDue]
  | cons tick rest ih => simp [AllDue, ih, and_assoc]

variable (clock) {tick : MonitorTick}

/-- What a due tick finds, and what it leaves. -/
theorem tick_of_due {monitor : Monitor} {deadline : Nat}
    (scheduled : monitor.nextTick = some deadline) (due : deadline ≤ tick.now) :
    monitor.tick clock tick.now tick.current points tick.closed =
      match monitor.spent.evaluate points tick.current tick.closed with
      | (some point, spent) => (.tripped point, { spent, nextTick := none })
      | (none, spent) =>
          (.evaluated, { spent, nextTick := some (clock.after deadline interval) }) := by
  rw [Monitor.tick, scheduled]
  exact if_neg (Nat.not_lt.mpr due)

theorem after_spent {monitor : Monitor} (due : monitor.IsDue tick.now) :
    (monitor.after clock points tick).spent =
      (monitor.spent.evaluate points tick.current tick.closed).2 := by
  obtain ⟨deadline, scheduled, passed⟩ := due
  rw [after, tick_of_due clock scheduled passed]
  split <;> simp_all

/-- From the times of its rows a due tick trips at the first point that has been exceeded for as
long as it may be, and stops the monitor. With no such point it goes on. -/
theorem tick_of_accrued (curve : Curve) {monitor : Monitor} {ticks : List MonitorTick}
    (spent : monitor.spent = .accrued curve.points ticks) (due : monitor.IsDue tick.now) :
    (∀ slot, (monitor.tick clock tick.now tick.current curve.points tick.closed).1 = .tripped slot ↔
        TripsAt curve.points ticks tick slot ∧
          ∀ lower < slot, ¬ TripsAt curve.points ticks tick lower) ∧
      ((∃ slot, TripsAt curve.points ticks tick slot) →
        (monitor.after clock curve.points tick).nextTick = none) ∧
      ((∀ slot, ¬ TripsAt curve.points ticks tick slot) →
        (monitor.tick clock tick.now tick.current curve.points tick.closed).1 = .evaluated ∧
          (monitor.after clock curve.points tick).isRunning = true) := by
  obtain ⟨deadline, scheduled, passed⟩ := due
  have first := (SpentTimes.evaluate_accrued ticks curve tick).2
  rw [← spent] at first
  rw [after, tick_of_due clock scheduled passed]
  split
  · next point charged evaluated =>
    simp only [evaluated, Option.some.injEq] at first
    have trips := ((first point).mp rfl).1
    refine ⟨fun slot => ?_, fun _ => rfl, fun none => absurd trips (none point)⟩
    rw [TickOutcome.tripped.injEq]
    exact first slot
  · next charged evaluated =>
    simp only [evaluated, reduceCtorEq, false_iff] at first
    refine ⟨fun slot => ?_, ?_, fun _ => ⟨rfl, rfl⟩⟩
    · simp only [reduceCtorEq, false_iff]
      exact first slot
    · -- With some point met, the lowest of those would have been found.
      rintro ⟨slot, trips⟩
      exfalso
      induction slot using Nat.strongRecOn with
      | ind slot lower => exact first slot ⟨trips, lower⟩

/-- Cleared times become those of the latest rows. -/
theorem spent_of_allDue (curve : Curve) {monitor : Monitor} (cleared : monitor.spent = .zero)
    (ticks : List MonitorTick) (due : monitor.AllDue clock curve.points ticks) :
    (ticks.foldl (after clock curve.points) monitor).spent = .accrued curve.points ticks := by
  induction ticks using List.reverseRecOn with
  | nil =>
      rw [SpentTimes.accrued_nil]
      exact cleared
  | append_singleton ticks last ih =>
      rw [allDue_append] at due
      rw [List.foldl_append, List.foldl_cons, List.foldl_nil, after_spent clock due.2.1, ih due.1]
      exact (SpentTimes.evaluate_accrued ticks curve last).1

/-- Nothing is due after a tick that trips. -/
theorem untripped_of_allDue (curve : Curve) {monitor : Monitor} (cleared : monitor.spent = .zero)
    {earlier later : List MonitorTick} {next : MonitorTick}
    (due : monitor.AllDue clock curve.points (earlier ++ tick :: next :: later)) (slot : Nat) :
    ¬ TripsAt curve.points earlier tick slot := by
  intro trips
  obtain ⟨before, now, ⟨deadline, scheduled, _⟩, _⟩ := allDue_append.mp due
  have spent := spent_of_allDue clock curve cleared earlier before
  have stopped := (tick_of_accrued clock curve spent now).2.1 ⟨slot, trips⟩
  rw [stopped] at scheduled
  cases scheduled

/-- Ticks that are all due start from cleared times. Up to the last of them no point has been
exceeded for as long as it may be, and each time is that of the latest row of its point. The last
tick trips at the first point that has now been exceeded for as long as it may be, and stops the
monitor. With no such point it goes on. -/
theorem trips_exactly (curve : Curve) {monitor : Monitor} (cleared : monitor.spent = .zero)
    (ticks : List MonitorTick) (last : MonitorTick)
    (due : monitor.AllDue clock curve.points (ticks ++ [last])) :
    let before := ticks.foldl (after clock curve.points) monitor
    let found := before.tick clock last.now last.current curve.points last.closed
    (∀ slot : Fin 16, before.spent[slot] =
        match curve.points[slot.val]? with
        | some point => min 0xffffffff (100 * point.streak ticks)
        | none => 0) ∧
      (∀ earlier tick, earlier ++ [tick] <+: ticks →
        ∀ slot, ¬ TripsAt curve.points earlier tick slot) ∧
      (∀ slot, found.1 = .tripped slot ↔
        TripsAt curve.points ticks last slot ∧
          ∀ lower < slot, ¬ TripsAt curve.points ticks last lower) ∧
      ((∃ slot, TripsAt curve.points ticks last slot) → found.2.nextTick = none) ∧
      ((∀ slot, ¬ TripsAt curve.points ticks last slot) →
        found.1 = .evaluated ∧ found.2.isRunning = true) := by
  intro before found
  obtain ⟨ordinary, now, _⟩ := allDue_append.mp due
  have spent : before.spent = .accrued curve.points ticks :=
    spent_of_allDue clock curve cleared ticks ordinary
  refine ⟨?_, ?_, tick_of_accrued clock curve spent now⟩
  · intro slot
    rw [spent, SpentTimes.accrued, Fin.getElem_fin]
    exact Vector.getElem_ofFn _
  · rintro earlier tick ⟨later, rfl⟩
    obtain ⟨next, after, followed⟩ : ∃ next after, later ++ [last] = next :: after :=
      List.exists_cons_of_ne_nil (by simp)
    rw [List.append_assoc, List.append_assoc, followed] at due
    exact untripped_of_allDue clock curve cleared due

/-- The breaker opens for a while between the two ticks that are at or above the upper point. -/
theorem trips_exactly_interrupted :
    let curve : Curve := { points := [⟨1000, 500⟩, ⟨5000, 200⟩] }
    let started := Monitor.start {} Clock.micros 0
    let ticks : List MonitorTick := [⟨100000, 6000, true⟩, ⟨200000, 7000, false⟩]
    let last : MonitorTick := ⟨300000, 5000, true⟩
    started.spent = .zero ∧ started.AllDue Clock.micros curve.points (ticks ++ [last]) ∧
      ((ticks.foldl (after Clock.micros curve.points) started).tick Clock.micros last.now
        last.current curve.points last.closed).1 = .tripped 1 := by
  intro curve started ticks last
  have due : started.AllDue Clock.micros curve.points (ticks ++ [last]) := by decide +kernel
  have trips : TripsAt curve.points ticks last 1 := ⟨rfl, ⟨5000, 200⟩, rfl, by decide, by decide⟩
  have lowest : ¬ TripsAt curve.points ticks last 0 := by
    rintro ⟨_, point, found, _, spent⟩
    cases found
    exact absurd spent (by decide)
  obtain ⟨_, _, outcome, _⟩ := trips_exactly Clock.micros curve rfl ticks last due
  refine ⟨rfl, due, (outcome 1).mpr ⟨trips, fun lower below => ?_⟩⟩
  obtain rfl := Nat.lt_one_iff.mp below
  exact lowest

end Monitor

end CircuitBreaker
