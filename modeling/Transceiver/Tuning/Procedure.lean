import Transceiver.Eeprom
import Transceiver.Tuning.Grid

/-!
# Tuning

A module that advertises a tunable transmitter is tuned through a page of its own: the request is
checked against the grid found there, written as a channel or as a wavelength, and the status read
until it has settled.  A module without pages takes a wavelength and tells nothing about it.
-/

namespace Transceiver

/-- How often and how long the status is asked for. -/
structure TuningTiming where
  interval : Duration
  timeout : Duration
deriving DecidableEq, Repr

namespace TuningTiming

def standard : TuningTiming := ⟨.ofMillis 10, .ofMillis 100⟩

/-- The number of status reads: one at once, and one after each interval up to the first at which
the timeout is over.  Reads are taken to last no time, so that the intervals alone count. -/
def polls (t : TuningTiming) : Nat :=
  let step := max t.interval.nanos 1
  (t.timeout.nanos + step - 1) / step + 1

end TuningTiming

/-- How a module was asked to tune. -/
inductive TuneRequest where
  | channel (n : UInt16)
  | wavelength (word : UInt16)
deriving DecidableEq, Repr

def TuneRequest.text : TuneRequest → String
  | .channel n => "Channel(" ++ toString n ++ ")"
  | .wavelength n => "Wavelength(" ++ toString n ++ ")"

/-- What a module was tuned to. -/
structure Tuned where
  thz : Float
  request : TuneRequest
deriving Repr

namespace Tuning

/-- Read the grid, while its page is selected. -/
def readGrid (m : Selected) : Procedure (Grid Float) := do
  let flags ← m.readByte (.diagnostic SfpMap.Tuning.support)
  let block ← m.read (.diagnostic SfpMap.Tuning.capabilities) 10
  match Grid.ofBlock block flags with
  | .ok g => return g
  | .error (min, max) => throw (.decode (.invalidCapability min max))

/-- Whether the serial ID advertises a tunable transmitter. -/
def isTunable (m : Selected) : Procedure Bool := do
  let options ← m.readByte ((Address.unpaged SfpMap.tunableOptions).onDevice serialDevice)
  return hasBit options SfpMap.tunableBit

/-- Refuse modules that are not tunable or have no pages. -/
def requirePaged (m : Selected) : Procedure Unit := do
  unless ← isTunable m do throw .notSupported
  unless ← m.pagingSupported do throw .notSupported

/-- The grid of a module. -/
def capability (m : Selected) : Procedure (Grid Float) := do
  requirePaged m
  Selected.onPage diagnosticDevice SfpMap.Tuning.page (readGrid m)

/-- Read the status until it has settled, at most a number of times. -/
def awaitSettled (m : Selected) (t : TuningTiming) : Nat → Procedure Unit
  | 0 => throw (.timeout t.timeout)
  | n + 1 => do
    let now ← m.readByte (.diagnostic SfpMap.Tuning.status)
    let latched ← m.readByte (.diagnostic SfpMap.Tuning.latchedStatus)
    if tuningSettled now latched then return
    if n = 0 then
      report .warning "wavelength did not settle"
        [("status", toString now), ("latched", toString latched)]
      throw (.timeout t.timeout)
    settle t.interval
    awaitSettled m t n

/-- Ask for a frequency in the way the module takes. -/
def request (m : Selected) (g : Grid Float) (nm thz : Float) : Procedure TuneRequest := do
  if g.channelTuning then
    let n := g.channelFor thz
    m.write (.diagnostic SfpMap.Tuning.channelSet) (bytes16 n)
    return .channel n
  else if g.wavelengthTuning then
    let word := wavelengthWord nm
    m.write (.diagnostic SfpMap.Tuning.wavelengthSet) (bytes16 word)
    return .wavelength word
  else throw .notSupported

/-- Tune a module and wait until it has settled. -/
def setWavelength (m : Selected) (t : TuningTiming) (nm : Float) : Procedure Tuned := do
  if !nm.isFinite || nm ≤ 0 then
    throw (.invalidArgument ("invalid wavelength " ++ Decimal.shortest nm ++ " nm"))
  requirePaged m
  Selected.onPage diagnosticDevice SfpMap.Tuning.page do
    let g ← readGrid m
    let thz := thzOfNm nm
    unless g.contains thz do
      throw (.invalidArgument (Decimal.fixed 3 thz ++ " THz outside the tuning range " ++
        Decimal.fixed 3 g.min ++ " to " ++ Decimal.fixed 3 g.max ++ " THz"))
    let r ← request m g nm thz
    report .debug "tuning requested"
      [("frequency_thz", Decimal.shortest thz), ("request", r.text)]
    awaitSettled m t t.polls
    return ⟨thz, r⟩

/-- Ask a module without pages for a wavelength. -/
def setTargetWavelength (m : Selected) (nm : Float) : Procedure Unit := do
  unless ← isTunable m do throw .notSupported
  m.write (.diagnostic SfpMap.targetWavelength) (bytes16 (wavelengthWord nm))

end Tuning

end Transceiver
