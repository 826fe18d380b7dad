import CircuitBreaker.Clock
import CircuitBreaker.Config.Record
import CircuitBreaker.Word

/-!
# Recovery settings

What the breaker does on its own: the mode it runs in while it is closed, and
how often and how late it recloses after a hardware over-current trip.
-/

set_option autoImplicit false

namespace CircuitBreaker

inductive ClosedMode where
  /-- It just conducts. -/
  | steady
  /-- It opens and closes in a cycle counted in zero crossings. -/
  | modulated
deriving DecidableEq, Repr

namespace ClosedMode

def all : List ClosedMode := [steady, modulated]

def name : ClosedMode → String
  | steady => "none"
  | modulated => "modulation"

def code : ClosedMode → UInt8
  | steady => 0
  | modulated => 1

def ofCode? (code : UInt8) : Except ConfigError ClosedMode :=
  if code = 0 then .ok steady
  else if code = 1 then .ok modulated
  else .error .invalidMode

theorem ofCode?_code (mode : ClosedMode) : ofCode? mode.code = .ok mode := by
  cases mode <;> rfl

end ClosedMode

structure RecoverySettings where
  mode : ClosedMode := .steady
  enabled : Bool := false
  /-- Recloses allowed after hardware over-current trips. -/
  attempts : UInt16 := 0
  /-- The wait before a reclose on a DC supply. -/
  delay : Nat := Duration.ofSeconds 1
  /-- The time closed after which the attempts are available again. -/
  resetTimeout : Nat := Duration.ofSeconds 60
deriving DecidableEq, Repr

namespace RecoverySettings

def minResetTimeout : Nat := Duration.ofSeconds 1

def maxResetTimeout : Nat := Duration.ofSeconds 3600

/-- The reset timeout is in its accepted range. -/
def Valid (settings : RecoverySettings) : Prop :=
  minResetTimeout ≤ settings.resetTimeout ∧ settings.resetTimeout ≤ maxResetTimeout

instance (settings : RecoverySettings) : Decidable settings.Valid :=
  inferInstanceAs (Decidable (_ ∧ _))

def validate (settings : RecoverySettings) : Except ConfigError RecoverySettings :=
  if settings.Valid then .ok settings else .error .invalidRecoveryTimeout

/-- The attempts granted by every close: none while recovery is off. -/
def attemptBudget (settings : RecoverySettings) : UInt16 :=
  if settings.enabled then settings.attempts else 0

/-- Mode, switch, attempts, delay in microseconds and reset timeout in milliseconds. -/
def encode (settings : RecoverySettings) : Bytes :=
  [settings.mode.code, if settings.enabled then 1 else 0] ++
    Bytes.of16 settings.attempts ++
    Bytes.of32 (clamp32 (Duration.toMicros settings.delay)) ++
    Bytes.of32 (clamp32 (Duration.toMillis settings.resetTimeout))

def decode : Bytes → Except ConfigError RecoverySettings
  | mode :: enabled :: a0 :: a1 :: d0 :: d1 :: d2 :: d3 :: r0 :: r1 :: r2 :: r3 :: _ =>
      match ClosedMode.ofCode? mode with
      | .error error => .error error
      | .ok mode => validate {
          mode
          enabled := enabled ≠ 0
          attempts := Bytes.word16 a0 a1
          delay := Duration.ofMicros (Bytes.word32 d0 d1 d2 d3).toNat
          resetTimeout := Duration.ofMillis (Bytes.word32 r0 r1 r2 r3).toNat }
  | _ => .error .truncated

instance : Record RecoverySettings where
  kind := .recovery
  offset := 160
  size := 12
  initial := {}
  encode := encode
  decode := decode

end RecoverySettings

end CircuitBreaker
