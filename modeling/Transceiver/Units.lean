import Transceiver.Bytes
import Transceiver.Scalar

/-!
# Physical units

Monitor words are in physical units already, or raw readings of a converter that the calibration
of the module corrects: a slope and an offset, or a polynomial for receive power.
-/

namespace Transceiver

variable {K : Type} [Scalar K]

/-- Calibration of a monitor. -/
inductive Calibration (K : Type) where
  /-- Words are in physical units. -/
  | internal
  /-- Words are corrected to `slope * raw + offset`. -/
  | external (slope offset : K)
deriving Repr

namespace Calibration

/-- A slope in steps of 1/256 and a signed offset. -/
def ofBytes (b : Vector UInt8 4) : Calibration K :=
  let (slope, offset) := wordsIn b
  .external (Scalar.ofInt slope.toNat * (Scalar.ofInt 1 / Scalar.ofInt 256))
    (Scalar.ofInt (signed16 offset))

def apply : Calibration K → K → K
  | .internal, raw => raw
  | .external slope offset, raw => slope * raw + offset

end Calibration

/-- Calibration of the receive power monitor. -/
inductive RxPowerCalibration where
  | internal
  /-- Coefficients of a polynomial, highest first. -/
  | external (coefficients : List Float)
deriving Repr

namespace RxPowerCalibration

/-- The number of bytes of the five coefficients. -/
def size : Nat := 20

/-- Five single precision numbers. -/
def ofBytes (b : Vector UInt8 size) : RxPowerCalibration :=
  let single (b₃ b₂ b₁ b₀ : UInt8) := (Float32.ofBits (word32 b₃ b₂ b₁ b₀)).toFloat
  .external [single b[0] b[1] b[2] b[3], single b[4] b[5] b[6] b[7],
    single b[8] b[9] b[10] b[11], single b[12] b[13] b[14] b[15],
    single b[16] b[17] b[18] b[19]]

def apply : RxPowerCalibration → Float → Float
  | .internal, raw => raw
  | .external cs, raw => cs.foldl (fun acc c ↦ acc * raw + c) 0

end RxPowerCalibration

/-- Quantities whose monitors have a slope and an offset. -/
inductive LinearQuantity where
  | temperature
  | voltage
  | txBias
  | txPower
deriving DecidableEq, Repr

namespace LinearQuantity

/-- The unit of a word: 1/256 degree, 100 µV, 2 µA or 0.1 µW. -/
def scale : LinearQuantity → K
  | .temperature => Scalar.ofInt 1 / Scalar.ofInt 256
  | .voltage => Scalar.ofInt 1 / Scalar.ofInt 10000
  | .txBias => Scalar.ofInt 2 / Scalar.ofInt 1000
  | .txPower => Scalar.ofInt 1 / Scalar.ofInt 10000

/-- The number in a word, which is signed for a temperature. -/
def raw (q : LinearQuantity) (w : UInt16) : Int :=
  match q with
  | .temperature => signed16 w
  | _ => w.toNat

/-- The reading of a word in degrees, volts, milliamperes or milliwatts. -/
def reading (q : LinearQuantity) (w : UInt16) (cal : Calibration K) : K :=
  cal.apply (Scalar.ofInt (q.raw w)) * q.scale

end LinearQuantity

/-- A number in units of `scale`. -/
def scaled (n : Int) (scale : K) : K := Scalar.ofInt n * scale

/-- A receive power in milliwatts. -/
def rxPowerMw (w : UInt16) (cal : RxPowerCalibration) : Float :=
  cal.apply (.ofInt w.toNat) * (1 / 10000)

/-- The power reported where there is none. -/
def dbmFloor : Float := -40

/-- Milliwatts in decibels. -/
def mwToDbm (mw : Float) : Float := if 0 < mw then 10 * mw.log10 else dbmFloor

/-- The length in meters of a code: six bits in units of 0.1, 1, 10 or 100 meters. -/
def lengthOfCode (code : UInt8) : Float :=
  let mantissa := (code &&& 0x3f).toFloat
  match code >>> 6 with
  | 0 => mantissa * 0.1
  | 1 => mantissa * 1
  | 2 => mantissa * 10
  | _ => mantissa * 100

/-- The number of wavelength units in a nanometer. -/
def wavelengthUnits : Nat := 20

/-- The number of wavelength tolerance units in a nanometer. -/
def toleranceUnits : Nat := 200

def wavelengthNm (w : UInt16) : Float := w.toFloat / wavelengthUnits.toFloat

def wavelengthToleranceNm (w : UInt16) : Float := w.toFloat / toleranceUnits.toFloat

end Transceiver
