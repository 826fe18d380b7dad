import CircuitBreaker.Alternative
import CircuitBreaker.Bench.Memory
import CircuitBreaker.Bench.Sources
import CircuitBreaker.Bench.Switch
import CircuitBreaker.Bench.Trial
import CircuitBreaker.Board.Published
import CircuitBreaker.Detached
import CircuitBreaker.Storage.Frame

/-!
# Rig

A breaker on the bench, with a scripted or a detached switch, and with scripted,
detached or published sources. Published readings outlive a restart of the breaker;
what is scripted starts again.
-/

set_option autoImplicit false

namespace CircuitBreaker.Bench

open Board (PublishedMains PublishedMeter)

abbrev RigSwitch := ScriptedSwitch ⊕ DetachedSwitch

abbrev RigMains := PublishedMains ⊕ ScriptedMains ⊕ DetachedMains

abbrev RigMeter := PublishedMeter ⊕ ScriptedMeter ⊕ DetachedMeter

abbrev Rig := Breaker RigSwitch RigMains RigMeter (FramedStore FaultyMemory)

namespace Rig

def ofParts (switch : RigSwitch) (mains : RigMains) (meter : RigMeter)
    (store : FramedStore FaultyMemory) : Rig :=
  Breaker.ofParts .micros switch mains meter store

def script (rig : Rig) (change : ScriptedSwitch → ScriptedSwitch) : Rig :=
  { rig with switch := rig.switch.map change id }

def measure (rig : Rig) (mains : ScriptedMains → ScriptedMains)
    (meter : ScriptedMeter → ScriptedMeter) : Rig :=
  { rig with
    mains := rig.mains.map id (Sum.map mains id)
    meter := rig.meter.map id (Sum.map meter id) }

def publish (rig : Rig) (mains : PublishedMains → PublishedMains)
    (meter : PublishedMeter → PublishedMeter) : Rig :=
  { rig with mains := rig.mains.map mains id, meter := rig.meter.map meter id }

def alter (rig : Rig) (change : FaultyMemory → FaultyMemory) : Rig :=
  { rig with store := { rig.store with storage := change rig.store.storage } }

/-- Whether the mains source reports crossings, if it is one that can. -/
def reportsCrossings (rig : Rig) : Option Bool :=
  match rig.mains with
  | .inl mains => some mains.reporting
  | .inr (.inl mains) => some mains.reporting
  | .inr (.inr _) => none

/-- A new breaker on the same store, started at `now` with sources as at first. -/
def restart (rig : Rig) (switch : RigSwitch) (mains : RigMains) (meter : RigMeter) (now : Nat) :
    Rig :=
  let mains := if rig.mains.isLeft then rig.mains else mains
  let meter := if rig.meter.isLeft then rig.meter else meter
  (ofParts switch mains meter rig.store).init now

end Rig

end CircuitBreaker.Bench
