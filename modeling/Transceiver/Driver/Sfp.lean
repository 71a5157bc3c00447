import Transceiver.Cage
import Transceiver.CopperPhy
import Transceiver.Operation
import Transceiver.TenGigPhy
import Transceiver.Tuning.Procedure
import Transceiver.VendorText

/-!
# SFP cages

The serial ID is read from one device and the diagnostics from another.  The transmitter and its
conditions are reached through lines where a cage wires them, and through the soft control and
status byte where the module implements it.
-/

namespace Transceiver

/-- The driver of an SFP cage. -/
structure Sfp where
  cage : Cage
  phy : TenGigPhy
  tuning : TuningTiming
deriving DecidableEq, Repr

/-- How the monitors of a module are calibrated. -/
inductive CalibrationKind where
  | internal
  | external
deriving DecidableEq, Repr

/-- Where the calibration of a quantity lies. -/
def LinearQuantity.calibrationOffset : LinearQuantity → UInt8
  | .temperature => SfpMap.temperatureCal
  | .voltage => SfpMap.voltageCal
  | .txBias => SfpMap.txBiasCal
  | .txPower => SfpMap.txPowerCal

/-- The levels of a quantity in an alarm and a warning byte, at the same two bits of either. -/
def Levels.ofBytes (alarms warnings : UInt8) (high low : Bit) : Levels :=
  ⟨hasBit alarms high, hasBit alarms low, hasBit warnings high, hasBit warnings low⟩

namespace Sfp

/-- The driver of a cage with the usual timing. -/
def ofCage (c : Cage) : Sfp := ⟨c, .standard, .standard⟩

/-- The number of channels of a cage. -/
def channels : UInt8 := 1

def eeprom (s : Sfp) : Eeprom where
  address := s.cage.address
  selector := s.cage.selector
  settleTime := s.cage.selectDelay
  scheme := .sff8472
  presence := some s.cage.presence

def session {α : Type} (s : Sfp) (body : Selected → Procedure α) : Procedure α :=
  s.eeprom.session body

/-! ## Monitors -/

def enhancedOptions (m : Selected) : Procedure UInt8 := m.lowerByte SfpMap.enhancedOptions

/-- Refuse modules without alarm flags. -/
def requireAlarms (m : Selected) : Procedure Unit := do
  let options ← enhancedOptions m
  unless hasBit options SfpMap.alarmsBit do throw .notSupported

/-- How the monitors are calibrated, if the module has any. -/
def calibrationKind (m : Selected) : Procedure CalibrationKind := do
  let kind ← m.lowerByte SfpMap.diagMonType
  unless hasBit kind SfpMap.diagnosticsBit do throw .notSupported
  if hasBit kind SfpMap.externalCalBit then return .external
  if hasBit kind SfpMap.internalCalBit then return .internal
  report .debug "module reports no calibration type" [("diag_mon_type", toString kind)]
  throw .notSupported

/-- The calibration of a quantity. -/
def calibration {K : Type} [Scalar K] (m : Selected) (kind : CalibrationKind)
    (q : LinearQuantity) : Procedure (Calibration K) :=
  match kind with
  | .internal => return .internal
  | .external => do return .ofBytes (← m.read (.diagnostic q.calibrationOffset) 4)

def rxPowerCalibration (m : Selected) (kind : CalibrationKind) :
    Procedure RxPowerCalibration :=
  match kind with
  | .internal => return .internal
  | .external => do
    return .ofBytes (← m.read (.diagnostic SfpMap.rxPowerCal) RxPowerCalibration.size)

/-- A reading in physical units. -/
def linearReading {K : Type} [Scalar K] (m : Selected) (kind : CalibrationKind)
    (q : LinearQuantity) (w : UInt16) : Procedure K := do
  return q.reading w (← calibration m kind q)

/-- A monitor or threshold word in the units of its quantity; powers are in decibels. -/
def reading (m : Selected) (kind : CalibrationKind) (q : Quantity) (w : UInt16) :
    Procedure Float :=
  match q with
  | .temperature => linearReading m kind .temperature w
  | .voltage => linearReading m kind .voltage w
  | .txBias => linearReading m kind .txBias w
  | .txPower => mwToDbm <$> linearReading m kind .txPower w
  | .rxPower => do return mwToDbm (rxPowerMw w (← rxPowerCalibration m kind))

/-- Interpret the word at an address as the calibration of the module says. -/
def measure {α : Type} (s : Sfp) (a : Address)
    (interpret : Selected → CalibrationKind → UInt16 → Procedure α) : Procedure α :=
  s.session fun m ↦ do
    let kind ← calibrationKind m
    let w ← m.readWord a
    interpret m kind w

/-- The word of a monitor. -/
def monitorOffset : Quantity → UInt8
  | .temperature => SfpMap.temperature
  | .voltage => SfpMap.voltage
  | .rxPower => SfpMap.rxPower
  | .txBias => SfpMap.txBias
  | .txPower => SfpMap.txPower

def monitor (s : Sfp) (q : Quantity) : Procedure Float :=
  s.measure (.diagnostic (monitorOffset q)) fun m kind w ↦ reading m kind q w

def channelMonitor (s : Sfp) (channel : UInt8) (q : ChannelMonitor) : Procedure Float := do
  let _ ← Lane.check channel channels
  s.monitor q.quantity

def threshold (s : Sfp) (t : Threshold) : Procedure Float :=
  match sfpMap.thresholdAddress? t with
  | none => throw .notSupported
  | some a => s.measure a fun m kind w ↦ reading m kind t.quantity w

/-! ## Flags and conditions -/

/-- A flag byte, if one of the flags in it is wanted. -/
def flagByte {k : Subject} (m : Selected) (flags wanted : Flags k) (offset : UInt8) :
    Procedure UInt8 :=
  if flags.intersects wanted then m.readByte (.diagnostic offset) else return 0

def moduleMonitorStatus (s : Sfp) (flags : ModuleStatus) : Procedure ModuleStatus :=
  s.session fun m ↦ do
    requireAlarms m
    let alarms ← flagByte m flags ModuleStatus.alarms SfpMap.alarmFlags
    let warnings ← flagByte m flags ModuleStatus.warnings SfpMap.warningFlags
    let temperature := (Levels.ofBytes alarms warnings .b7 .b6).reduce ModuleStatus.temperature
    let voltage := (Levels.ofBytes alarms warnings .b5 .b4).reduce ModuleStatus.voltage
    return (temperature ||| voltage) &&& flags

def channelMonitorStatus (s : Sfp) (channel : UInt8) (flags : ChannelMonitorStatus) :
    Procedure ChannelMonitorStatus := do
  let _ ← Lane.check channel channels
  let biasFlags := ChannelMonitorStatus.txBias
  let txFlags := ChannelMonitorStatus.txPower
  let rxFlags := ChannelMonitorStatus.rxPower
  s.session fun m ↦ do
    requireAlarms m
    let txAlarms ← flagByte m flags (biasFlags.alarms ||| txFlags.alarms) SfpMap.alarmFlags
    let rxAlarms ← flagByte m flags rxFlags.alarms (SfpMap.alarmFlags + 1)
    let txWarnings ←
      flagByte m flags (biasFlags.warnings ||| txFlags.warnings) SfpMap.warningFlags
    let rxWarnings ← flagByte m flags rxFlags.warnings (SfpMap.warningFlags + 1)
    let bias := (Levels.ofBytes txAlarms txWarnings .b3 .b2).reduce biasFlags
    let tx := (Levels.ofBytes txAlarms txWarnings .b1 .b0).reduce txFlags
    let rx := (Levels.ofBytes rxAlarms rxWarnings .b7 .b6).reduce rxFlags
    return (bias ||| tx ||| rx) &&& flags

/-- The soft status of a module: its options, and the status byte if it has any option. -/
structure SoftStatus where
  options : UInt8
  status : Option UInt8
deriving DecidableEq, Repr

def softStatus (m : Selected) : Procedure SoftStatus := do
  let options ← enhancedOptions m
  if options = 0 then return ⟨0, none⟩
  return ⟨options, some (← m.readByte (.diagnostic SfpMap.statusControl))⟩

/-- A condition from its line, or else from the soft status if that has it. -/
def condition (line : Option Line) (soft : SoftStatus) (supportBit stateBit : Bit) :
    Procedure Bool :=
  match line with
  | some l => l.read
  | none =>
    match soft.status with
    | some status => if hasBit soft.options supportBit then return hasBit status stateBit
      else throw .notSupported
    | none => throw .notSupported

/-- Whether every condition has a line. -/
def allWired (s : Sfp) : Bool :=
  s.cage.txControl.isSome && s.cage.rxLoss.isSome && s.cage.txFault.isSome

/-- A flag if it is wanted and its condition holds. -/
def flagIf (flags flag : ChannelStatus) (holds : Procedure Bool) : Procedure ChannelStatus := do
  if flags.contains flag then
    if ← holds then return flag
  return .empty

def channelStatus (s : Sfp) (channel : UInt8) (flags : ChannelStatus) :
    Procedure ChannelStatus := do
  let _ ← Lane.check channel channels
  if flags.contains ChannelStatus.txLoss then throw .notSupported
  let soft ← if s.allWired then pure ⟨0, none⟩ else s.session softStatus
  let disabled ← flagIf flags ChannelStatus.txDisable
    (condition s.cage.txControl soft SfpMap.softTxDisableBit SfpMap.txDisableStateBit)
  let fault ← flagIf flags ChannelStatus.txFault
    (condition s.cage.txFault soft SfpMap.softTxFaultBit SfpMap.txFaultStateBit)
  let loss ← flagIf flags ChannelStatus.rxLoss
    (condition s.cage.rxLoss soft SfpMap.softRxLossBit SfpMap.rxLossStateBit)
  return disabled ||| fault ||| loss

/-- Refuse modules whose transmitter has no soft control. -/
def requireSoftTxDisable (m : Selected) : Procedure Unit := do
  let options ← enhancedOptions m
  unless hasBit options SfpMap.softTxDisableBit do throw .notSupported

/-- Switch the transmitter, by the line that disables it or by the soft control. -/
def txControl (s : Sfp) (channel : UInt8) (enable : Bool) : Procedure Unit := do
  let _ ← Lane.check channel channels
  match s.cage.txControl with
  | some line => line.write !enable
  | none =>
    s.session fun m ↦ do
      requireSoftTxDisable m
      let _ ← m.modify (.diagnostic SfpMap.statusControl) fun status ↦
        .ok (withBit status SfpMap.txDisableControlBit !enable)
      report .debug "soft tx control" [("enable", toString enable)]

def txControlStatus (s : Sfp) (channel : UInt8) : Procedure Bool := do
  let _ ← Lane.check channel channels
  match s.cage.txControl with
  | some line => return !(← line.read)
  | none =>
    s.session fun m ↦ do
      requireSoftTxDisable m
      let status ← m.readByte (.diagnostic SfpMap.statusControl)
      return !hasBit status SfpMap.txDisableControlBit

/-! ## Serial ID -/

def parameter (s : Sfp) (p : Parameter) : Procedure UInt32 := do
  let f := sfpMap.param p
  unless f.isSupported do
    report .debug "parameter not in memory map" [("param", Enumeration.name p)]
    throw .notSupported
  let bytes ← s.eeprom.read (.unpaged f.offset) f.size.toNat
  match Checked.number bytes.toList with
  | .ok n => return n
  | .error e => throw (.decode e)

def vendorInfo (s : Sfp) (v : VendorField) : Procedure String := do
  let f := sfpMap.vendor v
  let bytes ← s.eeprom.read (.unpaged f.offset) f.vendorLength
  return VendorText.decode bytes.toList f

def transceiverCode (s : Sfp) : Procedure ComplianceCode := do
  return .ofSfp (← s.eeprom.read (.unpaged SfpMap.compliance) 8)

def featureSupport (s : Sfp) : Procedure FeatureSupport :=
  s.session fun m ↦ do
    let options ← enhancedOptions m
    let kind ← m.lowerByte SfpMap.diagMonType
    return .sfp {
      rateSelect := hasBit options SfpMap.rateSelectBit
      alarmWarning := hasBit options SfpMap.alarmsBit
      diagMonitoring := hasBit kind SfpMap.diagnosticsBit
    }

/-! ## Controls -/

/-- The level of a LED for a speed it has a mode for. -/
def ledLevel (led : PortLed) : Speed → Except Error Bool
  | .g1 => .ok led.level1g
  | .g10 => .ok led.level10g
  | speed => .error (.invalidArgument ("no LED mode for " ++ speed.text))

def ledSet (s : Sfp) (channel : UInt8) (speed : Speed) : Procedure Unit := do
  let _ ← Lane.check channel channels
  let some led := s.cage.portLed | throw .notSupported
  led.line.write (← ledLevel led speed)

def wavelengthSet (s : Sfp) (nm : Float) : Procedure Unit :=
  s.session fun m ↦ do
    unless ← Tuning.isTunable m do throw .notSupported
    if ← m.pagingSupported then
      let tuned ← Tuning.setWavelength m s.tuning nm
      report .info "tuned transmitter"
        [("wavelength_nm", Decimal.shortest nm), ("frequency_thz", Decimal.shortest tuned.thz),
          ("request", tuned.request.text)]
    else Tuning.setTargetWavelength m nm

def chain (s : Sfp) (ps : List Packet) : Program (List Packet × Except Error Unit) := do
  match ← (s.session fun m ↦ Mailbox.chain m s.phy.timing ps).run with
  | .ok r => return r
  | .error e => return (ps, .error e)

/-- What the driver does for an operation. -/
def serve (s : Sfp) : (op : Operation) → Procedure op.Answer
  | .presence => s.cage.presence.read
  | .moduleInit _ => return ()
  | .moduleMonitorStatus flags => s.moduleMonitorStatus flags
  | .channelMonitorStatus channel flags => s.channelMonitorStatus channel flags
  | .channelStatus channel flags => s.channelStatus channel flags
  | .txControl channel enable => s.txControl channel enable
  | .txControlStatus channel => s.txControlStatus channel
  | .cdrSet _ _ => throw .notSupported
  | .cdrStatus _ => throw .notSupported
  | .speed => return s.cage.portType.capability
  | .parameter p => s.parameter p
  | .vendorInfo v => s.vendorInfo v
  | .transceiverCode => s.transceiverCode
  | .threshold t => s.threshold t
  | .moduleControl _ _ => throw .notSupported
  | .moduleControlStatus _ => throw .notSupported
  | .moduleMonitor q => s.monitor q.quantity
  | .channelMonitor channel q => s.channelMonitor channel q
  | .featureSupport => s.featureSupport
  | .readGeneric a length => s.eeprom.read a length
  | .writeGeneric a data => s.eeprom.write a data
  | .read offset length => s.eeprom.read (.unpaged offset) length
  | .write offset data => s.eeprom.write (.unpaged offset) data
  | .ledSet channel speed => s.ledSet channel speed
  | .extRateSelect _ _ _ => throw .notSupported
  | .wavelengthSet nm => s.wavelengthSet nm
  | .adapterKind => throw .notSupported
  | .portInfo => return s.cage.portInfo
  | .moduleInfo => throw .notSupported
  | .phyAutonegSet _ _ enable => s.session fun _ ↦ CopperPhy.setAutoneg enable
  | .phyModeSet _ _ mode => s.session fun _ ↦ CopperPhy.setMode mode
  | .phySpeedSet _ _ speed => s.session fun _ ↦ CopperPhy.setSpeed speed
  | .phyLinkStatus _ _ => s.session fun _ ↦ CopperPhy.linkUp
  | .phyPowerDown _ _ enable => s.session fun _ ↦ CopperPhy.setPowerDown enable
  | .phySerdesControl _ _ enable =>
    s.session fun _ ↦ CopperPhy.setSerdes CopperPhy.standardSerdesDelay enable
  | .mailboxChain ps => do
    let (qs, r) ← s.chain ps
    r
    return qs
  | .tenGigSetRate speed => s.session fun m ↦ s.phy.setRate m speed
  | .tenGigTxState => s.session fun m ↦ s.phy.txEnabled m
  | .tenGigSetTxState enable => s.session fun m ↦ s.phy.setTxEnabled m enable
  | .tenGigSystemStatus => s.session fun m ↦ s.phy.systemStatus m
  | .tenGigLineStatus => s.session fun m ↦ s.phy.lineStatus m
  | .tenGigLinkStatus => s.session fun m ↦ s.phy.linkUp m

instance : MediaControl Sfp where
  perform s op := keeping s (s.serve op)
  chain := chain

end Sfp

end Transceiver
