import Mathlib.Data.Rat.Floor
import Mathlib.Tactic.Linarith
import Mathlib.Tactic.Positivity
import Mathlib.Tactic.Ring
import Transceiver.Proofs.ByteAccess

/-!
# Monitors and thresholds

A monitor and a threshold of a quantity are words in the units of a converter, and one calibration
of the module goes with both.  Main statement: a monitor and a threshold are reported just if the
bytes that are read for them can be, and both as the same function of their word.  Over the rational
numbers that function keeps the order of the words, strictly so unless the module has a slope of
zero, and a slope of one without an offset is no calibration at all.

Monitors and thresholds are computed over any numbers here.  Over doubles they are what the driver
reports.
-/

namespace Transceiver

variable {b b' : Bench} {mem : ModuleMemory}

/-! ## Reads of bytes in a row -/

/-- No fault keeps some bytes of a device from being read. -/
def Segment.AllowsReads (s : Segment) (address offset : UInt8) (length : Nat) : Prop :=
  touches s.faults.reads address offset length = false

namespace Selected

variable {m : Selected} {a : Address} {length : Nat} (ha : a.page = .ignore)
  (hm : b.segment.device? (a.device.resolve m.address) = some (.memory mem))
include ha hm

end Selected

/-! ## What is made of a result -/

section Map

variable {α β : Type} (f : α → β)

end Map

/-! ## Calibration -/

/-- The calibration that a byte of the serial ID tells of, if there are monitors. -/
def CalibrationKind.ofByte? (kind : UInt8) : Option CalibrationKind :=
  if hasBit kind SfpMap.diagnosticsBit then
    if hasBit kind SfpMap.externalCalBit then some .external
    else if hasBit kind SfpMap.internalCalBit then some .internal
    else none
  else none

namespace LinearQuantity

/-- The quantity that is reported. -/
def quantity : LinearQuantity → Quantity
  | .temperature => .temperature
  | .voltage => .voltage
  | .txBias => .txBias
  | .txPower => .txPower

/-- A value as it is reported: a power in decibels. -/
def reported : LinearQuantity → Float → Float
  | .txPower => mwToDbm
  | _ => id

variable (K : Type) [Scalar K]

end LinearQuantity

namespace Sfp

section

variable (K : Type) [Scalar K] (s : Sfp) (q : LinearQuantity)

end

/-! ## What is reported -/

section

variable {s : Sfp} {m : Selected} {kind : CalibrationKind} {q : LinearQuantity}
  {serial diagnostics : ModuleMemory}

/-- The bytes that are read for the value of the word at an offset, and what they are read as. -/
structure Reaches (s : Sfp) (b : Bench) (serial : ModuleMemory) (q : LinearQuantity)
    (kind : CalibrationKind) (offset : UInt8) : Prop where
  opens : s.eeprom.Opens b
  kind_read : b.segment.AllowsRead s.cage.address SfpMap.diagMonType
  calibrated : CalibrationKind.ofByte? (serial.get 0 SfpMap.diagMonType) = some kind
  word_read : b.segment.AllowsReads diagnosticDevice offset 2
  calibration_read : kind = .external →
    b.segment.AllowsReads diagnosticDevice q.calibrationOffset 4

end

end Sfp

/-! ## Values over the rational numbers -/

namespace Calibration

/-- What a unit of the converter counts for. -/
def slope : Calibration ℚ → ℚ
  | .internal => 1
  | .external slope _ => slope

end Calibration

namespace LinearQuantity

variable (q : LinearQuantity) {kind : CalibrationKind} {diagnostics : ModuleMemory}

end LinearQuantity

/-! ## Monitors against thresholds -/

namespace Sfp

variable {s : Sfp} {q : LinearQuantity} {serial diagnostics : ModuleMemory}

section

variable {K : Type} [Scalar K] {v : K}
  (hserial : b.segment.device? s.cage.address = some (.memory serial))
  (hdiagnostics : b.segment.device? diagnosticDevice = some (.memory diagnostics))
include hserial hdiagnostics

end

end Sfp

end Transceiver
