/-!
# Vocabulary of pluggable media

The enumerations that requests and answers are made of.  Each lists its members in order and names
them; a member is found again from its name.
-/

namespace Transceiver

/-- A finite type whose members have names. -/
class Enumeration (α : Type) where
  members : List α
  name : α → String

/-- The member of a given name. -/
def Enumeration.ofName? {α : Type} [Enumeration α] (s : String) : Option α :=
  (members : List α).find? fun a ↦ name a = s

/-- Nominal line rates, in the order of their declaration. -/
inductive Speed where
  | m10 | m100 | g1 | g2p5 | g5 | g10 | g25 | g40 | g100 | g20 | g50 | g200 | g400
  | fc4 | fc8 | fc16 | fc32
deriving DecidableEq, Repr

namespace Speed

instance : Enumeration Speed where
  members := [.m10, .m100, .g1, .g2p5, .g5, .g10, .g25, .g40, .g100, .g20, .g50, .g200, .g400,
    .fc4, .fc8, .fc16, .fc32]
  name
    | .m10 => "Speed10M" | .m100 => "Speed100M" | .g1 => "Speed1G" | .g2p5 => "Speed2500M"
    | .g5 => "Speed5G" | .g10 => "Speed10G" | .g25 => "Speed25G" | .g40 => "Speed40G"
    | .g100 => "Speed100G" | .g20 => "Speed20G" | .g50 => "Speed50G" | .g200 => "Speed200G"
    | .g400 => "Speed400G" | .fc4 => "Fc4G" | .fc8 => "Fc8G" | .fc16 => "Fc16G"
    | .fc32 => "Fc32G"

/-- The rate in megabits per second. -/
def mbps : Speed → Nat
  | .m10 => 10 | .m100 => 100 | .g1 => 1000 | .g2p5 => 2500 | .g5 => 5000 | .g10 => 10000
  | .g25 => 25000 | .g40 => 40000 | .g100 => 100000 | .g20 => 20000 | .g50 => 50000
  | .g200 => 200000 | .g400 => 400000 | .fc4 => 4000 | .fc8 => 8000 | .fc16 => 16000
  | .fc32 => 32000

/-- The position in the order of declaration, by which speeds compare. -/
def rank (s : Speed) : Nat := s.ctorIdx

/-- The customary short form. -/
def text (s : Speed) : String :=
  match s with
  | .m10 | .m100 => toString s.mbps ++ "M"
  | .g2p5 => "2.5G"
  | .fc4 | .fc8 | .fc16 | .fc32 => toString (s.mbps / 1000) ++ "GFC"
  | _ => toString (s.mbps / 1000) ++ "G"

end Speed

/-- Readings of a whole module. -/
inductive ModuleMonitor where
  | temperature | voltage
deriving DecidableEq, Repr

instance : Enumeration ModuleMonitor where
  members := [.temperature, .voltage]
  name | .temperature => "Temperature" | .voltage => "Voltage"

/-- Readings of one channel. -/
inductive ChannelMonitor where
  | rxPower | txBias | txPower
deriving DecidableEq, Repr

instance : Enumeration ChannelMonitor where
  members := [.rxPower, .txBias, .txPower]
  name | .rxPower => "RxPower" | .txBias => "TxBias" | .txPower => "TxPower"

/-- What a reading or threshold measures: degrees, volts, decibels or milliamperes. -/
inductive Quantity where
  | temperature | voltage | rxPower | txBias | txPower
deriving DecidableEq, Repr

instance : Enumeration Quantity where
  members := [.temperature, .voltage, .rxPower, .txBias, .txPower]
  name
    | .temperature => "Temperature" | .voltage => "Voltage" | .rxPower => "RxPower"
    | .txBias => "TxBias" | .txPower => "TxPower"

def ModuleMonitor.quantity : ModuleMonitor → Quantity
  | .temperature => .temperature
  | .voltage => .voltage

def ChannelMonitor.quantity : ChannelMonitor → Quantity
  | .rxPower => .rxPower
  | .txBias => .txBias
  | .txPower => .txPower

/-- Numeric fields of the serial ID. -/
inductive Parameter where
  | wavelength | wavelengthTolerance | maxCaseTemp | ccBase | ccExt | connector | encodingType
  | nominalBitrate | identifier | extIdentifier | lengthSmfKm | lengthOm1 | lengthOm2 | lengthOm3
  | lengthCableAssembly | lengthSmf | options | enhancedOptions | diagMonType | deviceTech
  | maxBitrate | minBitrate | extComplianceCode | freeSideDevProp
deriving DecidableEq, Repr

instance : Enumeration Parameter where
  members := [.wavelength, .wavelengthTolerance, .maxCaseTemp, .ccBase, .ccExt, .connector,
    .encodingType, .nominalBitrate, .identifier, .extIdentifier, .lengthSmfKm, .lengthOm1,
    .lengthOm2, .lengthOm3, .lengthCableAssembly, .lengthSmf, .options, .enhancedOptions,
    .diagMonType, .deviceTech, .maxBitrate, .minBitrate, .extComplianceCode, .freeSideDevProp]
  name
    | .wavelength => "Wavelength" | .wavelengthTolerance => "WavelengthTolerance"
    | .maxCaseTemp => "MaxCaseTemp" | .ccBase => "CcBase" | .ccExt => "CcExt"
    | .connector => "Connector" | .encodingType => "EncodingType"
    | .nominalBitrate => "NominalBitrate" | .identifier => "Identifier"
    | .extIdentifier => "ExtIdentifier" | .lengthSmfKm => "LengthSmfKm"
    | .lengthOm1 => "LengthOm1" | .lengthOm2 => "LengthOm2" | .lengthOm3 => "LengthOm3"
    | .lengthCableAssembly => "LengthCableAssembly" | .lengthSmf => "LengthSmf"
    | .options => "Options" | .enhancedOptions => "EnhancedOptions"
    | .diagMonType => "DiagMonType" | .deviceTech => "DeviceTech" | .maxBitrate => "MaxBitrate"
    | .minBitrate => "MinBitrate" | .extComplianceCode => "ExtComplianceCode"
    | .freeSideDevProp => "FreeSideDevProp"

/-- The position in the list of parameters. -/
def Parameter.index (p : Parameter) : Nat := p.ctorIdx

/-- Fields that identify the maker and the unit. -/
inductive VendorField where
  | vendorName | oui | serialNumber | date | partNumber | revision
deriving DecidableEq, Repr

instance : Enumeration VendorField where
  members := [.vendorName, .oui, .serialNumber, .date, .partNumber, .revision]
  name
    | .vendorName => "Name" | .oui => "Oui" | .serialNumber => "SerialNumber" | .date => "Date"
    | .partNumber => "PartNumber" | .revision => "Revision"

def VendorField.index (f : VendorField) : Nat := f.ctorIdx

/-- The label of a field in reports. -/
def VendorField.label : VendorField → String
  | .vendorName => "name" | .oui => "oui" | .serialNumber => "serial" | .date => "date"
  | .partNumber => "part" | .revision => "revision"

/-- One of the four limits of a quantity. -/
inductive Limit where
  | highAlarm | lowAlarm | highWarning | lowWarning
deriving DecidableEq, Repr

def Limit.members : List Limit := [.highAlarm, .lowAlarm, .highWarning, .lowWarning]

/-- The position of a limit among the four of its quantity. -/
def Limit.index (l : Limit) : Nat := l.ctorIdx

def Limit.name : Limit → String
  | .highAlarm => "HighAlarm" | .lowAlarm => "LowAlarm" | .highWarning => "HighWarning"
  | .lowWarning => "LowWarning"

/-- A limit of a quantity, at which the module raises a flag. -/
structure Threshold where
  quantity : Quantity
  limit : Limit
deriving DecidableEq, Repr

/-- The short form of a quantity in the names of its thresholds. -/
def Quantity.stem : Quantity → String
  | .temperature => "Temp" | .voltage => "Volt" | .rxPower => "RxPower" | .txBias => "TxBias"
  | .txPower => "TxPower"

instance : Enumeration Threshold where
  members := (Enumeration.members : List Quantity).flatMap fun q ↦
    Limit.members.map fun l ↦ ⟨q, l⟩
  name t := t.quantity.stem ++ t.limit.name

/-- The position in the list of thresholds, four to a quantity. -/
def Threshold.index (t : Threshold) : Nat := 4 * t.quantity.ctorIdx + t.limit.index

/-- Controls of a whole module. -/
inductive ModuleControl where
  | lowPowerMode | reset
deriving DecidableEq, Repr

instance : Enumeration ModuleControl where
  members := [.lowPowerMode, .reset]
  name | .lowPowerMode => "LowPowerMode" | .reset => "Reset"

/-- How receive power is measured. -/
inductive RxPowerType where
  | modulationAmplitude | average
deriving DecidableEq, Repr

instance : Enumeration RxPowerType where
  members := [.modulationAmplitude, .average]
  name | .modulationAmplitude => "Oma" | .average => "Average"

/-- The code under which the kind of measurement is reported. -/
def RxPowerType.code : RxPowerType → UInt32
  | .modulationAmplitude => 0
  | .average => 1

/-- What is plugged into a cage, where it matters for reaching its PHY. -/
inductive MediaType where
  | plain
  /-- A breakout of one cage into four 1000BASE-T PHYs. -/
  | copperBreakout
  | adapter
  /-- A module with a 10GBASE-T PHY behind its mailbox. -/
  | tenGigCopper
deriving DecidableEq, Repr

instance : Enumeration MediaType where
  members := [.plain, .copperBreakout, .adapter, .tenGigCopper]
  name
    | .plain => "Default" | .copperBreakout => "Qsfp4x1_1000BaseT" | .adapter => "QsaAdapter"
    | .tenGigCopper => "SfpPlus10GBaseT"

/-- The adapter found in a cage. -/
inductive AdapterKind where
  | none | unknown | qsa | qsa28
deriving DecidableEq, Repr

instance : Enumeration AdapterKind where
  members := [.none, .unknown, .qsa, .qsa28]
  name | .none => "None" | .unknown => "Unknown" | .qsa => "Qsa" | .qsa28 => "Qsa28"

/-- Firmware generations with their own rate select codes. -/
inductive FirmwareRevision where
  | rev0 | rev1
deriving DecidableEq, Repr

instance : Enumeration FirmwareRevision where
  members := [.rev0, .rev1]
  name | .rev0 => "Rev0" | .rev1 => "Rev1"

/-- Interfaces between a PHY and the host. -/
inductive PhyMode where
  | mii | gmii | sgmii
deriving DecidableEq, Repr

instance : Enumeration PhyMode where
  members := [.mii, .gmii, .sgmii]
  name | .mii => "Mii" | .gmii => "Gmii" | .sgmii => "Sgmii"

/-- Optional features of an SFP module. -/
structure SfpFeatures where
  rateSelect : Bool
  alarmWarning : Bool
  diagMonitoring : Bool
deriving DecidableEq, Repr

/-- Optional features of a QSFP module. -/
structure QsfpFeatures where
  rateSelect : Bool
  txControl : Bool
  paging : Bool
  softwarePowerMode : Bool
deriving DecidableEq, Repr

inductive FeatureSupport where
  | sfp (features : SfpFeatures)
  | qsfp (features : QsfpFeatures)
deriving DecidableEq, Repr

/-- Properties of a port. -/
structure PortInfo where
  maxSpeedMbps : UInt32
  /-- The number of logical ports in the cage. -/
  density : UInt8
  maxPowerMw : Int
deriving DecidableEq, Repr

/-- Properties of an inserted module. -/
structure ModuleInfo where
  density : UInt8
  mapVersion : UInt8
  softwarePowerMode : Bool
  maxPowerMw : Int
deriving DecidableEq, Repr

/-- Stands for a power that is not known. -/
def noMaxPower : Int := -1

/-- Link state towards the host of a 10GBASE-T PHY. -/
structure SystemStatus where
  rxLink : Bool
  txLink : Bool
  speed : Option Speed
deriving DecidableEq, Repr

/-- Link state on the line of a 10GBASE-T PHY. -/
structure LineStatus where
  link : Bool
  speed : Option Speed
deriving DecidableEq, Repr

end Transceiver
