import CircuitBreaker.Switch

/-!
# Scripted switch

A switch for the bench: what it refuses and whether it follows its commands is
set from outside, and it counts the commands.
-/

set_option autoImplicit false

namespace CircuitBreaker.Bench

structure ScriptedSwitch where
  on : Bool := false
  cause : SwitchCause := .none
  /-- The cause that every closing is refused for. -/
  refusal : Option SwitchCause := none
  /-- Commands are accepted, but the position stays. -/
  stuck : Bool := false
  /-- The largest current limit of the hardware. -/
  maxLimit : UInt8 := 100
  limit : Option UInt8 := none
  onCommands : Nat := 0
  offCommands : Nat := 0
  /-- Changes of position are reported. -/
  reporting : Bool := false
deriving DecidableEq, Repr

namespace ScriptedSwitch

/-- Opens the way a protection does. -/
def trip (switch : ScriptedSwitch) (cause : SwitchCause) : ScriptedSwitch :=
  { switch with on := false, cause }

def turnOn (switch : ScriptedSwitch) : Option SwitchCause × ScriptedSwitch :=
  let counted := { switch with onCommands := switch.onCommands + 1 }
  match switch.refusal with
  | some cause => (some cause, { counted with cause })
  | none => (none, { counted with on := switch.on || !switch.stuck, cause := .external })

def turnOff (switch : ScriptedSwitch) : ScriptedSwitch :=
  { switch with
    offCommands := switch.offCommands + 1
    on := switch.on && switch.stuck
    cause := .external }

def setLimit (switch : ScriptedSwitch) (limit : UInt8) : Except SwitchError ScriptedSwitch :=
  if switch.maxLimit < limit then .error .limitOutOfRange
  else .ok { switch with limit := some limit }

instance : SwitchDriver ScriptedSwitch where
  turnOn := turnOn
  turnOff := turnOff
  isOn := ScriptedSwitch.on
  cause := ScriptedSwitch.cause
  setLimit := setLimit
  enableEvents switch := { switch with reporting := true }
  disableEvents switch := { switch with reporting := false }

end ScriptedSwitch

end CircuitBreaker.Bench
