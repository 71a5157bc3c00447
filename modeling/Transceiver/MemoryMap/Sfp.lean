import Transceiver.MemoryMap.Field

/-!
# The memory of SFP modules

The serial ID lies in the first device and the diagnostics in the second.  Tunable modules add a
page to the latter.
-/

namespace Transceiver

namespace SfpMap

/-! ## Serial ID -/

def identifier : UInt8 := 0
def compliance : UInt8 := 3
def options : UInt8 := 64
/-- Set when the diagnostic memory is paged. -/
def pagingBit : Bit := .b4
def tunableOptions : UInt8 := 65
def tunableBit : Bit := .b6
def diagMonType : UInt8 := 92
def diagnosticsBit : Bit := .b6
def internalCalBit : Bit := .b5
def externalCalBit : Bit := .b4
def enhancedOptions : UInt8 := 93
def alarmsBit : Bit := .b7
def softTxDisableBit : Bit := .b6
def softTxFaultBit : Bit := .b5
def softRxLossBit : Bit := .b4
def rateSelectBit : Bit := .b1

/-! ## Diagnostics -/

def rxPowerCal : UInt8 := 56
def txBiasCal : UInt8 := 76
def txPowerCal : UInt8 := 80
def temperatureCal : UInt8 := 84
def voltageCal : UInt8 := 88
def temperature : UInt8 := 96
def voltage : UInt8 := 98
def txBias : UInt8 := 100
def txPower : UInt8 := 102
def rxPower : UInt8 := 104
def statusControl : UInt8 := 110
def rxLossStateBit : Bit := .b1
def txFaultStateBit : Bit := .b2
def txDisableControlBit : Bit := .b6
def txDisableStateBit : Bit := .b7
def alarmFlags : UInt8 := 112
def warningFlags : UInt8 := 116
def targetWavelength : UInt8 := 146

/-! ## The tuning page -/

namespace Tuning

def page : UInt8 := 2
def support : UInt8 := 128
def wavelengthBit : Bit := .b0
def channelBit : Bit := .b1
def capabilities : UInt8 := 132
def channelSet : UInt8 := 144
def wavelengthSet : UInt8 := 146
def status : UInt8 := 168
def latchedStatus : UInt8 := 172
/-- A fault, an unlocked wavelength, and tuning in progress or a bad channel. -/
def unsettledMask : UInt8 := 0x70

end Tuning

/-! ## The map -/

def param : Parameter → Field
  | .wavelength => .bytes 60 2
  | .wavelengthTolerance => .absent
  | .maxCaseTemp => .absent
  | .ccBase => .bytes 63 1
  | .ccExt => .bytes 95 1
  | .connector => .bytes 2 1
  | .encodingType => .bytes 11 1
  | .nominalBitrate => .bytes 12 1
  | .identifier => .bytes identifier 1
  | .extIdentifier => .bytes 1 1
  | .lengthSmfKm => .bytes 14 1
  | .lengthOm1 => .bytes 17 1
  | .lengthOm2 => .bytes 16 1
  | .lengthOm3 => .bytes 19 1
  | .lengthCableAssembly => .bytes 18 1
  | .lengthSmf => .bytes 15 1
  | .options => .bytes options 2
  | .enhancedOptions => .bytes enhancedOptions 1
  | .diagMonType => .bytes diagMonType 1
  | .deviceTech => .absent
  | .maxBitrate => .bytes 66 1
  | .minBitrate => .bytes 67 1
  | .extComplianceCode => .bytes 36 1
  | .freeSideDevProp => .absent

def vendor : VendorField → Field
  | .vendorName => .text 20 17
  | .oui => .bytes 37 4
  | .serialNumber => .text 68 17
  | .date => .text 84 9
  | .partNumber => .text 40 17
  | .revision => .text 56 3

/-- The first threshold of a quantity. -/
def thresholdBase : Quantity → UInt8
  | .temperature => 0
  | .voltage => 8
  | .txBias => 16
  | .txPower => 24
  | .rxPower => 32

def threshold (t : Threshold) : Field :=
  .bytes (thresholdBase t.quantity + 2 * .ofNat t.limit.index) 2

end SfpMap

/-- The memory map of SFP modules. -/
def sfpMap : MemoryMap where
  name := "SFF-8472"
  param := SfpMap.param
  vendor := SfpMap.vendor
  threshold := SfpMap.threshold
  thresholdDevice := .explicit diagnosticDevice
  thresholdPage := .ignore

end Transceiver
