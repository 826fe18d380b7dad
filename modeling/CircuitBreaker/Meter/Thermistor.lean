/-!
# Thermistor

The power stage temperature from the voltage of a divider with a thermistor:
linear between the points of a table and constant beyond its ends.
-/

set_option autoImplicit false

namespace CircuitBreaker.Thermistor

/-- A resistance in ohms and the temperature at which the thermistor has it. -/
structure Point where
  ohms : Nat
  celsius : Int
deriving DecidableEq, Repr

def coldest : Point := ⟨1135000, -20⟩

/-- The table after its coldest point, hottest last. -/
def table : List Point :=
  [⟨355600, 0⟩, ⟨127000, 20⟩, ⟨100000, 25⟩, ⟨50680, 40⟩, ⟨22220, 60⟩, ⟨10580, 80⟩, ⟨5410, 100⟩]

/-- What a sense line pulled to ground reads as. -/
def groundedCelsius : Int := 250

/-- Below this resistance the sense line counts as grounded. -/
def groundedOhms : Nat := 100

/-- The resistance behind a left-aligned code: the converter's reference is 3 V,
and the divider hangs on 3.3 V through 56 kΩ. -/
def resistance (code : UInt16) : Nat :=
  let millivolts := 3000 * code.toNat / 65536
  millivolts * 56000 / (3300 - millivolts)

/-- The temperature on the segment from `cold` to `hot`, rounded toward `cold`. -/
def interpolate (cold hot : Point) (ohms : Nat) : Int :=
  cold.celsius +
    (((cold.ohms - ohms : Nat) : Int) * (hot.celsius - cold.celsius)) /
      ((cold.ohms - hot.ohms : Nat) : Int)

/-- The temperature of a resistance below that of `cold`, the point before `rest`. -/
def lookUp (ohms : Nat) (cold : Point) : List Point → Int
  | [] => cold.celsius
  | hot :: rest => if hot.ohms < ohms then interpolate cold hot ohms else lookUp ohms hot rest

def celsius (code : UInt16) : Int :=
  let ohms := resistance code
  if ohms < groundedOhms then groundedCelsius
  else if coldest.ohms ≤ ohms then coldest.celsius
  else lookUp ohms coldest table

end CircuitBreaker.Thermistor
