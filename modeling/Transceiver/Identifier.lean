import Transceiver.Media
import Transceiver.Text.Hex

/-!
# Module identifiers

The first byte of a module's memory names its form factor.  What is found in a QSFP cage falls
into one of four categories, and an SFP is found there through an adapter.
-/

namespace Transceiver

/-- The form factor of a module. -/
inductive Identifier where
  | unknown | gbic | soldered | sfp | dwdmSfp | qsfp | qsfpPlus | qsfp28 | qsfpDD
  | other (code : UInt8)
deriving DecidableEq, Repr

namespace Identifier

def ofByte (b : UInt8) : Identifier :=
  match b with
  | 0x00 => .unknown
  | 0x01 => .gbic
  | 0x02 => .soldered
  | 0x03 => .sfp
  | 0x0b => .dwdmSfp
  | 0x0c => .qsfp
  | 0x0d => .qsfpPlus
  | 0x11 => .qsfp28
  | 0x18 => .qsfpDD
  | b => .other b

def toByte : Identifier → UInt8
  | .unknown => 0x00
  | .gbic => 0x01
  | .soldered => 0x02
  | .sfp => 0x03
  | .dwdmSfp => 0x0b
  | .qsfp => 0x0c
  | .qsfpPlus => 0x0d
  | .qsfp28 => 0x11
  | .qsfpDD => 0x18
  | .other b => b

/-- Whether a QSFP cage holds an SFP in an adapter when it reports this. -/
def isAdapted : Identifier → Bool
  | .sfp | .dwdmSfp => true
  | _ => false

def name : Identifier → String
  | .unknown => "Unknown"
  | .gbic => "Gbic"
  | .soldered => "Soldered"
  | .sfp => "Sfp"
  | .dwdmSfp => "DwdmSfp"
  | .qsfp => "Qsfp"
  | .qsfpPlus => "QsfpPlus"
  | .qsfp28 => "Qsfp28"
  | .qsfpDD => "QsfpDD"
  | .other b => "Other(" ++ toString b ++ ")"

def text : Identifier → String
  | .unknown => "Unknown or unspecified"
  | .gbic => "GBIC"
  | .soldered => "Soldered"
  | .sfp => "SFP/SFP+/SFP28"
  | .dwdmSfp => "DWDM-SFP/SFP+"
  | .qsfp => "QSFP"
  | .qsfpPlus => "QSFP+"
  | .qsfp28 => "QSFP28"
  | .qsfpDD => "QSFP28-DD"
  | .other b => "Other (" ++ Text.hex 2 b.toNat ++ ")"

end Identifier

/-- The kind of module in a QSFP cage. -/
inductive Category where
  | qsfp | qsfpPlus | qsfp28 | qsfpDD
deriving DecidableEq, Repr, Inhabited

namespace Category

instance : Enumeration Category where
  members := [.qsfp, .qsfpPlus, .qsfp28, .qsfpDD]
  name
    | .qsfp => "Qsfp" | .qsfpPlus => "QsfpPlus" | .qsfp28 => "Qsfp28" | .qsfpDD => "QsfpDD"

/-- The category of an identifier; all that names no better one counts as QSFP. -/
def ofIdentifier : Identifier → Category
  | .qsfpPlus => .qsfpPlus
  | .qsfp28 => .qsfp28
  | .qsfpDD => .qsfpDD
  | _ => .qsfp

/-- The number of lanes of a module. -/
def channels : Category → UInt8
  | .qsfpDD => 8
  | _ => 4

def text : Category → String
  | .qsfp => "QSFP"
  | .qsfpPlus => "QSFP+"
  | .qsfp28 => "QSFP28"
  | .qsfpDD => "QSFP28-DD"

end Category

end Transceiver
