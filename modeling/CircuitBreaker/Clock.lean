/-!
# Clocks

An instant is the number of ticks of a clock since start-up and a duration is a
number of nanoseconds. A clock turns a duration into whole ticks, rounding down,
and stays at the last instant it can show instead of wrapping.
-/

set_option autoImplicit false

namespace CircuitBreaker

namespace Duration

def ofMicros (micros : Nat) : Nat := micros * 1000

def ofMillis (millis : Nat) : Nat := millis * 1000000

def ofSeconds (seconds : Nat) : Nat := seconds * 1000000000

/-- 64 bits of whole seconds, and the nanoseconds of one more. -/
def longest : Nat := 0x10000000000000000 * 1000000000 - 1

def toMicros (duration : Nat) : Nat := duration / 1000

def toMillis (duration : Nat) : Nat := duration / 1000000

theorem toMillis_ofMillis (millis : Nat) : toMillis (ofMillis millis) = millis := by
  simp [toMillis, ofMillis]

theorem toMicros_ofMicros (micros : Nat) : toMicros (ofMicros micros) = micros := by
  simp [toMicros, ofMicros]

end Duration

/-- A monotonic clock: the nanoseconds of one tick and the last instant it can show. -/
structure Clock where
  tick : Nat
  limit : Nat
  tick_pos : 0 < tick := by decide
deriving Repr

namespace Clock

/-- One tick per microsecond, counted in 64 bits. -/
def micros : Clock where
  tick := 1000
  limit := 0xffffffffffffffff

/-- One tick per nanosecond since start-up, which make up a duration. The last instant stands for
all those that come after the longest one. -/
def nanos : Clock where
  tick := 1
  limit := Duration.longest + 1

/-- The instant `wait` later than `instant`, or the last one the clock can show. -/
def after (clock : Clock) (instant wait : Nat) : Nat :=
  min clock.limit (instant + wait / clock.tick)

theorem after_le_limit (clock : Clock) (instant wait : Nat) :
    clock.after instant wait ≤ clock.limit :=
  Nat.min_le_left _ _

theorem le_after {clock : Clock} {instant : Nat} (shown : instant ≤ clock.limit)
    (wait : Nat) : instant ≤ clock.after instant wait :=
  Nat.le_min.mpr ⟨shown, Nat.le_add_right _ _⟩

/-- Away from its last instant a clock moves forward by every wait of at least one tick. -/
theorem lt_after {clock : Clock} {instant : Nat} (shown : instant < clock.limit)
    {wait : Nat} (whole : clock.tick ≤ wait) : instant < clock.after instant wait :=
  Nat.lt_min.mpr
    ⟨shown, Nat.lt_add_of_pos_right (Nat.div_pos whole clock.tick_pos)⟩

/-- A clock that goes on from one instant goes on from every earlier one. -/
theorem lt_after_of_le {clock : Clock} {earlier instant wait : Nat} (ordered : earlier ≤ instant)
    (later : instant < clock.after instant wait) : earlier < clock.after earlier wait := by
  unfold after at later ⊢
  omega

end Clock

end CircuitBreaker
