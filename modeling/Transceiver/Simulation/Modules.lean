import Transceiver.MemoryMap.DoubleDensity
import Transceiver.MemoryMap.Sfp
import Transceiver.Simulation.Segment

/-!
# Simulated modules

Plausible modules to fill a segment with: an SFP+ for short reach, a tunable one, a QSFP28 and a
double density module.  All report 30 degrees, 3.3 V and, per channel, a bias of 6 mA and powers of
0.5 mW out and 0.4 mW in.
-/

namespace Transceiver

/-- Bytes in a row on a page of a module. -/
structure Content where
  page : UInt8
  offset : UInt8
  data : List UInt8
deriving DecidableEq, Repr

/-- Put contents into the module at an address, later ones over earlier ones. -/
def Segment.load (s : Segment) (address : UInt8) (cs : List Content) : Segment :=
  cs.foldl (fun s c ↦ s.poke address c.page c.offset c.data) s

namespace Sample

/-- A text in ASCII, cut or padded with spaces to a length. -/
def padded (length : Nat) (s : String) : List UInt8 :=
  let bs := s.toList.map fun c ↦ UInt8.ofNat c.toNat
  (bs ++ List.replicate length 0x20).take length

/-- The word that a quantity reads. -/
def reading : Quantity → List UInt8
  | .temperature => [0x1e, 0x00]
  | .voltage => [0x80, 0xe8]
  | .txBias => [0x0b, 0xb8]
  | .txPower => [0x13, 0x88]
  | .rxPower => [0x0f, 0xa0]

/-- The word of a threshold. -/
def threshold (t : Threshold) : List UInt8 :=
  match t.quantity, t.limit with
  | .temperature, .highAlarm => [0x50, 0x00]
  | .temperature, .lowAlarm => [0xf6, 0x00]
  | .temperature, .highWarning => [0x4b, 0x00]
  | .temperature, .lowWarning => [0xfb, 0x00]
  | .voltage, .highAlarm => [0x8c, 0xa0]
  | .voltage, .lowAlarm => [0x75, 0x30]
  | .voltage, .highWarning => [0x88, 0xb8]
  | .voltage, .lowWarning => [0x79, 0x18]
  | .txBias, .highAlarm => [0x1d, 0x4c]
  | .txBias, .lowAlarm => [0x01, 0xf4]
  | .txBias, .highWarning => [0x17, 0x70]
  | .txBias, .lowWarning => [0x03, 0xe8]
  | .txPower, .highAlarm => [0x27, 0x10]
  | .txPower, .lowAlarm => [0x03, 0xe8]
  | .txPower, .highWarning => [0x1f, 0x40]
  | .txPower, .lowWarning => [0x04, 0xe2]
  | .rxPower, .highAlarm => [0x27, 0x10]
  | .rxPower, .lowAlarm => [0x00, 0x64]
  | .rxPower, .highWarning => [0x1f, 0x40]
  | .rxPower, .lowWarning => [0x00, 0xc8]

/-- The thresholds that a memory map has a place for. -/
def thresholds (map : MemoryMap) (page : UInt8) : List Content :=
  ((Enumeration.members : List Threshold).filter fun t ↦ (map.threshold t).isSupported).map
    fun t ↦ ⟨page, (map.threshold t).offset, threshold t⟩

/-- The readings of the first channels of a layout. -/
def channelReadings (l : Layout) : List Content :=
  (List.range l.channels.toNat).flatMap fun n ↦
    let word (base : UInt8) (q : Quantity) : Content := ⟨0, channelWord base (.ofNat n), reading q⟩
    [word l.rxPower .rxPower, word l.txBias .txBias] ++
      (l.txPower.map fun base ↦ word base .txPower).toList

/-! ## SFP modules -/

/-- The serial ID of an SFP+ for 10GBASE-SR. -/
def sfpSerial : List Content :=
  [⟨0, SfpMap.identifier, [Identifier.sfp.toByte, 0x04, 0x07]⟩,
    ⟨0, SfpMap.compliance, [0x10, 0, 0, 0, 0, 0, 0, 0]⟩,
    ⟨0, 12, [0x67]⟩,
    ⟨0, 20, padded 16 "ACME"⟩,
    ⟨0, 37, [0x00, 0x90, 0x65]⟩,
    ⟨0, 40, padded 16 "SFP-10G-SR"⟩,
    ⟨0, 56, padded 2 "A"⟩,
    ⟨0, 60, [0x03, 0x52]⟩,
    ⟨0, 68, padded 16 "SN12345678"⟩,
    ⟨0, 84, padded 8 "230101"⟩,
    ⟨0, SfpMap.diagMonType, [0x68, 0xf2]⟩]

/-- Its diagnostics. -/
def sfpDiagnostics : List Content :=
  thresholds sfpMap 0 ++
    [⟨0, SfpMap.temperature, reading .temperature⟩,
      ⟨0, SfpMap.voltage, reading .voltage⟩,
      ⟨0, SfpMap.txBias, reading .txBias⟩,
      ⟨0, SfpMap.txPower, reading .txPower⟩,
      ⟨0, SfpMap.rxPower, reading .rxPower⟩]

/-- What a tunable module adds to the serial ID. -/
def tunableSerial : List Content :=
  [⟨0, SfpMap.options, [bitMask SfpMap.pagingBit, bitMask SfpMap.tunableBit]⟩]

/-- A grid of 50 GHz from 191 to 196 THz, for channels and wavelengths. -/
def tuningPage : List Content :=
  [⟨SfpMap.Tuning.page, SfpMap.Tuning.support, [0x03]⟩,
    ⟨SfpMap.Tuning.page, SfpMap.Tuning.capabilities, [0, 191, 0, 0, 0, 196, 0, 0, 0x01, 0xf4]⟩]

/-! ## QSFP modules -/

/-- A QSFP28 for 100GBASE-SR4. -/
def qsfp28 : List Content :=
  [⟨0, QsfpMap.identifier, [Identifier.qsfp28.toByte, 0x07, 0x00]⟩,
    ⟨0, qsfpLayout.temperature, reading .temperature⟩,
    ⟨0, qsfpLayout.voltage, reading .voltage⟩] ++
  channelReadings qsfpLayout ++
  [⟨0, 128, [Identifier.qsfp28.toByte, 0xc0, 0x07]⟩,
    ⟨0, QsfpMap.compliance, [0x80, 0, 0, 0, 0, 0, 0, 0]⟩,
    ⟨0, 140, [0xff]⟩,
    ⟨0, 146, [0x03]⟩,
    ⟨0, 148, padded 16 "ACME CORP."⟩,
    ⟨0, 165, [0x00, 0x17, 0x6a]⟩,
    ⟨0, 168, padded 16 "QSFP28-100G-SR4"⟩,
    ⟨0, 184, padded 2 "A0"⟩,
    ⟨0, 186, [0x42, 0x68, 0x07, 0xd0]⟩,
    ⟨0, QsfpMap.cdrOptions, [0xc0, 0x30]⟩,
    ⟨0, 196, padded 16 "QSN0001"⟩,
    ⟨0, 212, padded 8 "230615"⟩,
    ⟨0, 220, [0x08]⟩] ++
  thresholds qsfpMap 3

/-- A double density module with a revision of the memory map. -/
def qsfpDD (revision : UInt8) : List Content :=
  let l := Layout.of .qsfpDD revision
  [⟨0, QsfpMap.identifier, [Identifier.qsfpDD.toByte, revision, 0x00]⟩,
    ⟨0, l.temperature, reading .temperature⟩,
    ⟨0, l.voltage, reading .voltage⟩] ++
  channelReadings l ++
  [⟨0, 128, [Identifier.qsfpDD.toByte]⟩,
    ⟨0, 129, padded 16 "ACME DD"⟩,
    ⟨0, 145, [0x00, 0x17, 0x6a]⟩,
    ⟨0, 148, padded 16 "QSFP28-DD-2X100"⟩,
    ⟨0, 164, padded 2 "B1"⟩,
    ⟨0, 166, padded 16 "DDSN0002"⟩,
    ⟨0, 182, padded 8 "240301"⟩,
    ⟨0, 202, [0x43, 0x23]⟩,
    ⟨0, QsfpMap.cdrOptions, [0xc0, 0x30]⟩] ++
  thresholds l.map (l.map.thresholdPage.number?.getD 3)

end Sample

namespace Segment

def addSfp (s : Segment) : Segment :=
  (((s.addModule serialDevice).addModule diagnosticDevice).load serialDevice
    Sample.sfpSerial).load diagnosticDevice Sample.sfpDiagnostics

def addTunableSfp (s : Segment) : Segment :=
  (s.addSfp.load serialDevice Sample.tunableSerial).load diagnosticDevice
    Sample.tuningPage

def addQsfp28 (s : Segment) (address : UInt8) : Segment :=
  (s.addModule address).load address Sample.qsfp28

def addQsfpDD (s : Segment) (address revision : UInt8) : Segment :=
  (s.addModule address).load address (Sample.qsfpDD revision)

end Segment

end Transceiver
