import Transceiver.Address
import Transceiver.Bytes
import Transceiver.Media

/-!
# Fields of memory maps

A memory map says where the fields of a module family lie.  Maps that look alike are kept apart,
since they differ in places that matter.
-/

namespace Transceiver

/-- The place of a field. -/
structure Field where
  offset : UInt8
  /-- The width in bytes; a field of no width does not exist. -/
  size : UInt8
  /-- Whether the field is text. -/
  printable : Bool
deriving DecidableEq, Repr

namespace Field

def absent : Field := ⟨0, 0, false⟩

def bytes (offset size : UInt8) : Field := ⟨offset, size, false⟩

def text (offset size : UInt8) : Field := ⟨offset, size, true⟩

def isSupported (f : Field) : Bool := f.size != 0

/-- The number of bytes to read for a vendor field, whose width counts a terminator that the
memory does not hold. -/
def vendorLength (f : Field) : Nat := f.size.toNat - 1

end Field

/-- The serial ID and thresholds of a module family. -/
structure MemoryMap where
  name : String
  param : Parameter → Field
  vendor : VendorField → Field
  threshold : Threshold → Field
  thresholdDevice : DeviceSelector
  thresholdPage : PageSelector

/-- The address of a threshold that the map holds. -/
def MemoryMap.thresholdAddress? (m : MemoryMap) (t : Threshold) : Option Address :=
  let f := m.threshold t
  if f.isSupported then some ⟨m.thresholdDevice, m.thresholdPage, f.offset⟩ else none

end Transceiver
