import CircuitBreaker.Board.Panel
import CircuitBreaker.Config.Recovery
import CircuitBreaker.Emulator.Transcript
import CircuitBreaker.Event
import CircuitBreaker.Intent
import CircuitBreaker.Lifecycle.Phase
import CircuitBreaker.Modulation
import CircuitBreaker.Switch
import CircuitBreaker.Timer

/-!
# Named values

The finite types whose values go by a name, and the value of a name.
-/

set_option autoImplicit false

namespace CircuitBreaker

/-- Values that go by a name. -/
class Named (α : Type) where
  all : List α
  name : α → String

def Named.ofName? {α : Type} [Named α] (name : String) : Option α :=
  Named.all.find? fun value : α => Named.name value = name

theorem Named.name_of_ofName? {α : Type} [Named α] {name : String} {value : α}
    (found : Named.ofName? name = some value) : Named.name value = name := by
  simpa using List.find?_some found

instance : Named Event := ⟨Event.all, Event.name⟩

instance : Named TimerId := ⟨TimerId.all, TimerId.name⟩

instance : Named SwitchCause := ⟨SwitchCause.all, SwitchCause.name⟩

instance : Named Phase := ⟨Phase.all, Phase.name⟩

instance : Named BreakerState := ⟨BreakerState.all, BreakerState.name⟩

instance : Named TripCause := ⟨TripCause.all, TripCause.name⟩

instance : Named Reason := ⟨Reason.all, Reason.name⟩

instance : Named ConfigSection := ⟨ConfigSection.all, ConfigSection.name⟩

instance : Named ClosedMode := ⟨ClosedMode.all, ClosedMode.name⟩

instance : Named ModulationPhase := ⟨ModulationPhase.all, ModulationPhase.name⟩

instance : Named Intent := ⟨Intent.all, Intent.name⟩

instance : Named Board.Press := ⟨Board.Press.all, Board.Press.name⟩

instance : Named Board.LampPattern := ⟨Board.LampPattern.all, Board.LampPattern.name⟩

instance : Named Emulator.Profile := ⟨Emulator.Profile.all, Emulator.Profile.name⟩

end CircuitBreaker
