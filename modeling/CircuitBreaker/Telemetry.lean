import CircuitBreaker.Config.Error
import CircuitBreaker.Lifecycle.Phase

/-!
# Telemetry

A log of what happened to the breaker. It keeps the newest records and numbers
all of them, also the ones it has dropped.
-/

set_option autoImplicit false

namespace CircuitBreaker

inductive LogEvent where
  | stateChanged (before after : Phase)
  /-- The breaker came to rest open for a protective reason. -/
  | tripped (cause : TripCause)
  /-- A reclose attempt was taken; so many are left. -/
  | recoveryAttempt (remaining : UInt16)
  /-- Stored settings were loaded. -/
  | configRestored (kind : ConfigSection)
  /-- Nothing usable was stored; the initial settings were taken and stored. -/
  | configDefaulted (kind : ConfigSection)
  /-- Settings could not be stored. -/
  | configStoreFailed (kind : ConfigSection)
deriving DecidableEq, Repr

def LogEvent.text : LogEvent → String
  | stateChanged before after => s!"state {before.name} -> {after.name}"
  | tripped cause => s!"tripped {cause.name}"
  | recoveryAttempt remaining => s!"recovery-attempt remaining={remaining.toNat}"
  | configRestored kind => s!"config-restored {kind.name}"
  | configDefaulted kind => s!"config-defaulted {kind.name}"
  | configStoreFailed kind => s!"config-store-failed {kind.name}"

structure LogRecord where
  id : UInt32
  time : Nat
  event : LogEvent
deriving DecidableEq, Repr

/-- A log of at most `capacity` records, oldest first, and the number of the next
one. Numbers start again at zero after `2 ^ 32 - 1`. -/
structure EventLog (capacity : Nat) where
  records : List LogRecord
  nextId : UInt32
  size_le : records.length ≤ capacity
deriving DecidableEq, Repr

namespace EventLog

variable {capacity : Nat}

def empty : EventLog capacity where
  records := []
  nextId := 0
  size_le := Nat.zero_le _

/-- Adds a record; the oldest one gives way if the log is full. -/
def add (log : EventLog capacity) (event : LogEvent) (time : Nat) : EventLog capacity where
  records :=
    let records := log.records ++ [⟨log.nextId, time, event⟩]
    records.drop (records.length - capacity)
  nextId := log.nextId + 1
  size_le := by
    simp only [List.length_drop]
    omega

/-- Drops every record; the numbers go on. -/
def clear (log : EventLog capacity) : EventLog capacity where
  records := []
  nextId := log.nextId
  size_le := Nat.zero_le _

def latest (log : EventLog capacity) : Option LogRecord := log.records.getLast?

end EventLog

end CircuitBreaker
