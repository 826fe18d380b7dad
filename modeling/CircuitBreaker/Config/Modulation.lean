import CircuitBreaker.Config.Record

/-!
# Modulation settings

How many zero crossings the switch conducts, and after how many it closes again.
-/

set_option autoImplicit false

namespace CircuitBreaker

structure ModulationSettings where
  whileClosed : UInt8 := 0
  period : UInt8 := 0
deriving DecidableEq, Repr

namespace ModulationSettings

/-- The switch conducts for a part of the period that is neither empty nor all of it. -/
def Valid (settings : ModulationSettings) : Prop :=
  settings.whileClosed ≠ 0 ∧ settings.whileClosed < settings.period

instance (settings : ModulationSettings) : Decidable settings.Valid :=
  inferInstanceAs (Decidable (_ ∧ _))

def validate (settings : ModulationSettings) : Except ConfigError ModulationSettings :=
  if settings.Valid then .ok settings else .error .invalidModulation

def encode (settings : ModulationSettings) : Bytes := [settings.whileClosed, settings.period]

/-- Reads any two counts: the unset record is stored too, so only setting new
values asks for valid ones. -/
def decode : Bytes → Except ConfigError ModulationSettings
  | whileClosed :: period :: _ => .ok { whileClosed, period }
  | _ => .error .truncated

instance : Record ModulationSettings where
  kind := .modulation
  offset := 192
  size := 2
  initial := {}
  encode := encode
  decode := decode

end ModulationSettings

end CircuitBreaker
