import CircuitBreaker.Meter.Calibration

/-!
# Current channels

Two channels measure the load current. The fine one resolves small currents but
saturates first; the coarse one takes over while the fine one is at a rail.
-/

set_option autoImplicit false

namespace CircuitBreaker

/-- The distance from either rail at which a sample counts as saturated. -/
def saturationMargin : UInt16 := 100

/-- Whether a sample lies within the margin of either rail. -/
def isSaturated (code : UInt16) : Bool :=
  code ≤ saturationMargin || 65535 - saturationMargin ≤ code

structure CurrentChannels where
  fine : Calibration := .fineCurrent
  coarse : Calibration := .coarseCurrent
  fineMilliamps : UInt32 := 0
  coarseMilliamps : UInt32 := 0
  fineSaturated : Bool := false
deriving DecidableEq, Repr

namespace CurrentChannels

/-- Notes whether the latest sample of the fine channel is saturated. -/
def observeFine (channels : CurrentChannels) (code : UInt16) : CurrentChannels :=
  { channels with fineSaturated := isSaturated code }

/-- Takes the RMS codes of completed windows of both channels. -/
def update (channels : CurrentChannels) (fineCodes coarseCodes : Nat) : CurrentChannels :=
  { channels with
    fineMilliamps := channels.fine.rmsToMilli fineCodes
    coarseMilliamps := channels.coarse.rmsToMilli coarseCodes }

/-- The reading of the channel in use, in milliamperes. -/
def current (channels : CurrentChannels) : UInt32 :=
  if channels.fineSaturated then channels.coarseMilliamps else channels.fineMilliamps

end CurrentChannels

end CircuitBreaker
