import CircuitBreaker.Config.Curve
import CircuitBreaker.Config.Modulation
import CircuitBreaker.Config.Recovery
import CircuitBreaker.Storage

/-!
# Settings of any kind

One of the three records of settings, where the kind is chosen while the program
runs.
-/

set_option autoImplicit false

namespace CircuitBreaker

inductive Settings where
  | curve (settings : CurveSettings)
  | recovery (settings : RecoverySettings)
  | modulation (settings : ModulationSettings)
deriving DecidableEq, Repr

namespace Settings

def kind : Settings → ConfigSection
  | curve _ => .tripCurve
  | recovery _ => .recovery
  | modulation _ => .modulation

def offset : ConfigSection → Nat
  | .tripCurve => Record.offset CurveSettings
  | .recovery => Record.offset RecoverySettings
  | .modulation => Record.offset ModulationSettings

def encode : Settings → Bytes
  | curve settings => Record.encode settings
  | recovery settings => Record.encode settings
  | modulation settings => Record.encode settings

def decode (kind : ConfigSection) (bytes : Bytes) : Except ConfigError Settings :=
  match kind with
  | .tripCurve => (Record.decode bytes).map curve
  | .recovery => (Record.decode bytes).map recovery
  | .modulation => (Record.decode bytes).map modulation

variable {κ : Type} [RecordStore κ]

def restore (store : κ) : ConfigSection → Except RestoreError Settings
  | .tripCurve => (CircuitBreaker.restore store CurveSettings).map curve
  | .recovery => (CircuitBreaker.restore store RecoverySettings).map recovery
  | .modulation => (CircuitBreaker.restore store ModulationSettings).map modulation

def persist (store : κ) : Settings → Except StoreError κ
  | curve settings => CircuitBreaker.persist store settings
  | recovery settings => CircuitBreaker.persist store settings
  | modulation settings => CircuitBreaker.persist store settings

end Settings

end CircuitBreaker
