import CircuitBreaker.Clock
import CircuitBreaker.Meter.FrontEnd

/-!
# Sampler

The task of a board that reads the converter at a fixed rate and feeds the
analogue front end. Samples that were due while the board did something else are
taken one after the other.
-/

set_option autoImplicit false

namespace CircuitBreaker

/-- A set of 12-bit conversions, left-aligned. -/
def SampleSet.align (codes : SampleSet) : SampleSet where
  fine := leftAlign codes.fine
  coarse := leftAlign codes.coarse
  voltage := leftAlign codes.voltage
  input := leftAlign codes.input
  output := leftAlign codes.output

namespace Board

/-- A converter that serves the same sets of 12-bit conversions again and again. -/
structure Converter where
  sets : List SampleSet
  /-- The sets not served yet in this turn. -/
  waiting : List SampleSet := sets
deriving DecidableEq, Repr

namespace Converter

/-- A line without current at rest: no load, no voltage, 25 °C. -/
def idle : SampleSet := ⟨2048, 2048, 2048, 2888, 2888⟩

def next (converter : Converter) : SampleSet × Converter :=
  match converter.waiting with
  | set :: waiting => (set, { converter with waiting })
  | [] =>
      match converter.sets with
      | set :: waiting => (set, { converter with waiting })
      | [] => (idle, converter)

end Converter

structure Sampler where
  converter : Converter
  frontEnd : FrontEnd := .standard
  /-- When the next set is to be read. -/
  due : Nat
deriving DecidableEq, Repr

namespace Sampler

def period : Nat := Duration.ofMicros 200

/-- How many sets are due at `now`. -/
def backlog (sampler : Sampler) (clock : Clock) (now : Nat) : Nat :=
  if now < sampler.due then 0 else (now - sampler.due) / (period / clock.tick) + 1

/-- Reads so many sets, and gives the newest readings if a window was completed. -/
def readSets (clock : Clock) : Nat → Option Readings → Sampler → Option Readings × Sampler
  | 0, newest, sampler => (newest, sampler)
  | count + 1, newest, sampler =>
      let (codes, converter) := sampler.converter.next
      let (readings, frontEnd) := sampler.frontEnd.push codes.align
      readSets clock count (readings <|> newest)
        { converter, frontEnd, due := clock.after sampler.due period }

def run (sampler : Sampler) (clock : Clock) (now : Nat) : Option Readings × Sampler :=
  readSets clock (sampler.backlog clock now) none sampler

end Sampler

end Board

end CircuitBreaker
