import Transceiver.Bytes

/-!
# Compliance codes

Eight bytes of the serial ID tell which standards a module complies with.  SFP and QSFP modules
pack the same fields differently, and each lacks some.
-/

namespace Transceiver

/-- The fields of a compliance code. -/
structure ComplianceCode where
  eth10g : UInt8
  infiniband : UInt8
  escon : UInt8
  sonet : UInt16
  sas : UInt8
  eth1g : UInt8
  fcDistance : UInt8
  fcTechnology : UInt8
  /-- Passive or active cable of an SFP+. -/
  cableTechnology : UInt8
  fcMedia : UInt8
  fcSpeed : UInt8
deriving DecidableEq, Repr

namespace ComplianceCode

/-- The fields in the layout of SFP modules. -/
def ofSfp (b : Vector UInt8 8) : ComplianceCode where
  eth10g := b[0] >>> 4
  infiniband := b[0] &&& 0x0f
  escon := b[1] >>> 6
  sonet := word16 (b[1] &&& 0x3f) b[2]
  sas := 0
  eth1g := b[3]
  fcDistance := b[4] >>> 3
  fcTechnology := b[5] >>> 4 ||| (b[4] &&& 0x07) <<< 4
  cableTechnology := (b[5] >>> 2) &&& 0x03
  fcMedia := b[6]
  fcSpeed := b[7]

/-- The fields in the layout of QSFP modules. -/
def ofQsfp (b : Vector UInt8 8) : ComplianceCode where
  eth10g := b[0]
  infiniband := 0
  escon := 0
  sonet := b[1].toUInt16
  sas := b[2]
  eth1g := b[3]
  fcDistance := b[4] &&& 0x3f
  fcTechnology := b[4] >>> 6 ||| b[5] <<< 2
  cableTechnology := 0
  fcMedia := b[6]
  fcSpeed := b[7]

end ComplianceCode

end Transceiver
