import Transceiver.Identifier
import Transceiver.MemoryMap.Qsfp

/-!
# The memory of double density modules

The revision of the memory map decides.  The first keep the serial ID of QSFP modules and move the
monitors; from revision `0x30` the serial ID moves too.
-/

namespace Transceiver

namespace DoubleDensity

def revision2 : UInt8 := 0x20

def revision3 : UInt8 := 0x30

/-- Not zero once the module assigns lanes, and codes the length of its cable. -/
def laneAssignment : UInt8 := 89

/-- The datapath control byte with every lane powered. -/
def allLanes : UInt8 := 0xff

/-- The datapath control byte of a revision that has one. -/
def datapathControl? (revision : UInt8) : Option Address :=
  if revision3 ≤ revision then some (.paged 16 128)
  else if revision2 ≤ revision then some (.paged 0 92)
  else none

def param : Parameter → Field
  | .identifier => .bytes 0 1
  | .connector => .bytes 203 1
  | .lengthCableAssembly => .bytes 202 1
  | _ => .absent

def vendor : VendorField → Field
  | .vendorName => .text 129 17
  | .oui => .bytes 145 4
  | .partNumber => .text 148 17
  | .revision => .text 164 3
  | .serialNumber => .text 166 17
  | .date => .text 182 9

/-- The first threshold of a quantity. -/
def thresholdBase : Quantity → UInt8
  | .temperature => 128
  | .voltage => 136
  | .txPower => 176
  | .txBias => 184
  | .rxPower => 192

def threshold (t : Threshold) : Field :=
  .bytes (thresholdBase t.quantity + 2 * .ofNat t.limit.index) 2

/-- The memory map of revision `0x30`. -/
def map3 : MemoryMap where
  name := "QSFP28-DD rev 0x30"
  param := param
  vendor := vendor
  threshold := threshold
  thresholdDevice := .auto
  thresholdPage := .select 2

/-- The layouts of all revisions, which differ in where the module monitors lie. -/
def layout (name : String) (map : MemoryMap) (temperature voltage : UInt8) : Layout where
  name := name
  channels := 8
  map := map
  temperature := temperature
  voltage := voltage
  rxPower := 34
  txBias := 50
  txPower := some 66
  temperatureFlags := 8
  voltageFlags := 9
  channelFlags := .lanes ⟨some 12, some 11, none, some 10⟩ ⟨some 14, some 13, none, none⟩
  txLoss := ⟨3, 0⟩
  rxLoss := ⟨4, 0⟩
  txFault := ⟨7, 0⟩
  txDisable := ⟨84, 0⟩
  cdrTx := ⟨90, 0⟩
  cdrRx := ⟨91, 0⟩

def layout1 : Layout := layout "QSFP28-DD" qsfpMap 22 26

def layout2 : Layout := layout "QSFP28-DD rev 0x20" qsfpMap 26 30

def layout3 : Layout := layout "QSFP28-DD rev 0x30" map3 14 16

end DoubleDensity

/-- The layout of the module of a category and revision. -/
def Layout.of (category : Category) (revision : UInt8) : Layout :=
  match category with
  | .qsfpDD =>
    if DoubleDensity.revision3 ≤ revision then DoubleDensity.layout3
    else if DoubleDensity.revision2 ≤ revision then DoubleDensity.layout2
    else DoubleDensity.layout1
  | _ => qsfpLayout

end Transceiver
