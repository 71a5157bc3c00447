import Transceiver.MemoryMap.Layout

/-! # The memory of QSFP, QSFP+ and QSFP28 modules -/

namespace Transceiver

namespace QsfpMap

def identifier : UInt8 := 0
/-- The revision of the memory map, for double density modules. -/
def revision : UInt8 := 1
def status : UInt8 := 2
/-- Set when the memory is flat, that is, not paged. -/
def flatMemoryBit : Bit := .b2
def rxRateSelect : UInt8 := 87
def txRateSelect : UInt8 := 88
def powerControl : UInt8 := 93
def pageSelect : UInt8 := 127
def extIdentifier : UInt8 := 129
def compliance : UInt8 := 131
def cdrOptions : UInt8 := 194
def txCdrBit : Bit := .b7
def rxCdrBit : Bit := .b6
def controlOptions : UInt8 := 195
def txDisableBit : Bit := .b4
def rateSelectBit : Bit := .b5
def rxPowerAverageBit : Bit := .b3

/-- Where an adapter answers with the identity of its maker. -/
def adapterOui : UInt8 := 64

/-- The maker of adapters that carry the higher rate. -/
def qsa28Oui : List UInt8 := [0x00, 0x02, 0xc9]

def param : Parameter → Field
  | .wavelength => .bytes 186 2
  | .wavelengthTolerance => .bytes 188 2
  | .maxCaseTemp => .bytes 190 1
  | .ccBase => .bytes 191 1
  | .ccExt => .bytes 223 1
  | .connector => .bytes 130 1
  | .encodingType => .bytes 139 1
  | .nominalBitrate => .bytes 140 1
  | .identifier => .bytes 128 1
  | .extIdentifier => .bytes extIdentifier 1
  | .lengthSmfKm => .bytes 142 1
  | .lengthOm1 => .bytes 145 1
  | .lengthOm2 => .bytes 144 1
  | .lengthOm3 => .bytes 143 1
  | .lengthCableAssembly => .bytes 146 1
  | .lengthSmf => .absent
  | .options => .bytes 192 4
  | .enhancedOptions => .bytes 221 1
  | .diagMonType => .bytes 220 1
  | .deviceTech => .bytes 147 1
  | .maxBitrate => .absent
  | .minBitrate => .absent
  | .extComplianceCode => .absent
  | .freeSideDevProp => .bytes 113 1

def vendor : VendorField → Field
  | .vendorName => .text 148 17
  | .oui => .bytes 165 4
  | .serialNumber => .text 196 17
  | .date => .text 212 9
  | .partNumber => .text 168 17
  | .revision => .text 184 3

/-- The first threshold of a quantity that has any. -/
def thresholdBase? : Quantity → Option UInt8
  | .temperature => some 128
  | .voltage => some 144
  | .rxPower => some 176
  | .txBias => some 184
  | .txPower => none

def threshold (t : Threshold) : Field :=
  match thresholdBase? t.quantity with
  | some base => .bytes (base + 2 * .ofNat t.limit.index) 2
  | none => .absent

end QsfpMap

/-- The memory map of QSFP modules. -/
def qsfpMap : MemoryMap where
  name := "SFF-8636"
  param := QsfpMap.param
  vendor := QsfpMap.vendor
  threshold := QsfpMap.threshold
  thresholdDevice := .auto
  thresholdPage := .select 3

/-- The lower memory of QSFP, QSFP+ and QSFP28 modules. -/
def qsfpLayout : Layout where
  name := "SFF-8636"
  channels := 4
  map := qsfpMap
  temperature := 22
  voltage := 26
  rxPower := 34
  txBias := 42
  txPower := none
  temperatureFlags := 6
  voltageFlags := 7
  channelFlags := .nibbles 9 11
  txLoss := ⟨3, 4⟩
  rxLoss := ⟨3, 0⟩
  txFault := ⟨4, 0⟩
  txDisable := ⟨86, 0⟩
  cdrTx := ⟨98, 4⟩
  cdrRx := ⟨98, 0⟩

end Transceiver
