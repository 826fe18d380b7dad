import CircuitBreaker.Meter.Channels
import CircuitBreaker.Meter.Rms
import CircuitBreaker.Meter.Thermistor
import CircuitBreaker.Switch.Protection

/-!
# Analogue front end

Turns sets of converter samples into readings. Three RMS windows of one length
run side by side, so a set that completes one completes all of them.
-/

set_option autoImplicit false

namespace CircuitBreaker

/-- One conversion of every channel, left-aligned to 16 bits. -/
structure SampleSet where
  fine : UInt16
  coarse : UInt16
  voltage : UInt16
  input : UInt16
  output : UInt16
deriving DecidableEq, Repr

structure Readings where
  /-- Milliamperes. -/
  current : UInt32
  /-- Millivolts. -/
  voltage : UInt32
  temperatures : Temperatures
deriving DecidableEq, Repr

/-- A 12-bit conversion shifted to the upper end of 16 bits. -/
def leftAlign (code : UInt16) : UInt16 := (code &&& 0x0fff) <<< 4

structure FrontEnd where
  fine : RmsWindow
  coarse : RmsWindow
  voltage : RmsWindow
  channels : CurrentChannels
  voltageCalibration : Calibration
deriving DecidableEq, Repr

namespace FrontEnd

/-- Windows hold `2 ^ windowShift` sample sets. -/
def windowShift : Nat := 9

def ofCalibrations (fine coarse voltage : Calibration) : FrontEnd where
  fine := .ofShift fine.offset windowShift
  coarse := .ofShift coarse.offset windowShift
  voltage := .ofShift voltage.offset windowShift
  channels := { fine, coarse }
  voltageCalibration := voltage

def standard : FrontEnd := ofCalibrations .fineCurrent .coarseCurrent .voltage

/-- Adds a sample set; the set that completes the windows gives readings. -/
def push (frontEnd : FrontEnd) (sample : SampleSet) : Option Readings × FrontEnd :=
  let channels := frontEnd.channels.observeFine sample.fine
  let (fineCodes, fine) := frontEnd.fine.push sample.fine
  let (coarseCodes, coarse) := frontEnd.coarse.push sample.coarse
  let (voltageCodes, voltage) := frontEnd.voltage.push sample.voltage
  match fineCodes, coarseCodes, voltageCodes with
  | some fineCodes, some coarseCodes, some voltageCodes =>
      let channels := channels.update fineCodes coarseCodes
      let readings : Readings := {
        current := channels.current
        voltage := frontEnd.voltageCalibration.rmsToMilli voltageCodes
        temperatures := {
          input := Thermistor.celsius sample.input
          output := Thermistor.celsius sample.output } }
      (some readings, { frontEnd with fine, coarse, voltage, channels })
  | _, _, _ => (none, { frontEnd with fine, coarse, voltage, channels })

end FrontEnd

end CircuitBreaker
