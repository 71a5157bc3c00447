import Transceiver.MemoryMap.Sfp
import Transceiver.Bytes
import Transceiver.Scalar

/-!
# Frequency grids of tunable modules

A module tunes to the channels of a grid, or to a wavelength.  Frequencies are in THz and
wavelengths in nm.
-/

namespace Transceiver

/-- In metres a second. -/
def speedOfLight : Float := 299792458

def thzOfNm (nm : Float) : Float := 0.001 * speedOfLight / nm

def nmOfThz (thz : Float) : Float := 0.001 * speedOfLight / thz

/-- What a tunable module can be tuned to. -/
structure Grid (K : Type) where
  min : K
  max : K
  spacing : K
  channels : UInt32
  /-- The module takes the number of a channel. -/
  channelTuning : Bool
  /-- The module takes a wavelength. -/
  wavelengthTuning : Bool
deriving Repr

namespace Grid

variable {K : Type} [Scalar K]

/-- The unit of fractions of a frequency, 0.1 GHz. -/
def fractionUnit : K := Scalar.ofInt 1 / Scalar.ofInt 10000

/-- The number of the point at the distance `span` from the first, counted from one. -/
def pointAt (bound : Nat) (span spacing : K) : Nat :=
  if Scalar.ofInt 0 < spacing then Scalar.roundTo bound (Scalar.ofInt 1 + span / spacing) else 1

/-- The capability block: the first and the last frequency, each in THz and a fraction, and the
spacing.  A range whose end lies below its start is refused with both. -/
def ofBlock (b : Vector UInt8 10) (support : UInt8) : Except (K × K) (Grid K) :=
  let part (hi lo : UInt8) : K := Scalar.ofInt (word16 hi lo).toNat
  let min := part b[0] b[1] + part b[2] b[3] * fractionUnit
  let max := part b[4] b[5] + part b[6] b[7] * fractionUnit
  let spacing := part b[8] b[9] * fractionUnit
  if max < min then .error (min, max)
  else .ok {
    min := min
    max := max
    spacing := spacing
    channels := .ofNat (pointAt 0xffffffff (max - min) spacing)
    channelTuning := hasBit support SfpMap.Tuning.channelBit
    wavelengthTuning := hasBit support SfpMap.Tuning.wavelengthBit
  }

/-- Whether a frequency is in range. -/
def contains (g : Grid K) (thz : K) : Bool := g.min ≤ thz && thz ≤ g.max

/-- The channel nearest a frequency, counted from one. -/
def channelFor (g : Grid K) (thz : K) : UInt16 :=
  .ofNat (pointAt 0xffff (thz - g.min) g.spacing)

end Grid

/-- The word that asks for a wavelength, in steps of 0.05 nm. -/
def wavelengthWord (nm : Float) : UInt16 := (nm * 20).toUInt16

/-- Whether the current and the latched status report a locked wavelength and no fault. -/
def tuningSettled (status latched : UInt8) : Bool :=
  status &&& SfpMap.Tuning.unsettledMask == 0 && latched &&& SfpMap.Tuning.unsettledMask == 0

end Transceiver
