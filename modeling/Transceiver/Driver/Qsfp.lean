import Transceiver.Driver.Sfp
import Transceiver.MemoryMap.DoubleDensity
import Transceiver.Power

/-!
# QSFP cages

What is found in a cage when a module is inserted decides where its monitors and controls lie.  An
adapter shows the serial ID of the SFP module it carries: until that is removed, most operations
go to a driver for the SFP module, and those of the cage alone are not supported.
-/

namespace Transceiver

/-- The waits after switching a transmitter. -/
structure TxSettle where
  enable : Duration
  disable : Duration
deriving DecidableEq, Repr

def TxSettle.standard : TxSettle := ⟨.ofMillis 400, .ofMillis 100⟩

/-- What is known of an inserted module. -/
structure Discovery where
  category : Category
  revision : UInt8
  maxPower : Option MaxPower
  /-- The module is an SFP in an adapter. -/
  adapted : Bool
deriving DecidableEq, Repr

/-- What is known before anything is found. -/
def Discovery.nothing : Discovery := ⟨.qsfp, 0, none, false⟩

/-- The driver of a QSFP cage. -/
structure Qsfp where
  cage : Cage
  txSettle : TxSettle
  found : Discovery
deriving DecidableEq, Repr

/-- Where an operation goes while an adapter is fitted. -/
inductive Route where
  /-- To the module in the adapter. -/
  | adapted
  /-- Nowhere. -/
  | refused
  /-- To the cage, as without an adapter. -/
  | cage
deriving DecidableEq, Repr

/-- The route of an operation. -/
def Operation.route : Operation → Route
  | .presence | .moduleInit _ | .readGeneric _ _ | .writeGeneric _ _ | .read _ _ | .write _ _
  | .ledSet _ _ | .adapterKind | .portInfo | .moduleInfo => .cage
  | .cdrSet _ _ | .cdrStatus _ | .moduleControl _ _ | .moduleControlStatus _
  | .extRateSelect _ _ _ => .refused
  | .moduleMonitorStatus _ | .channelMonitorStatus _ _ | .channelStatus _ _ | .txControl _ _
  | .txControlStatus _ | .speed | .parameter _ | .vendorInfo _ | .transceiverCode | .threshold _
  | .moduleMonitor _ | .channelMonitor _ _ | .featureSupport | .wavelengthSet _
  | .phyAutonegSet _ _ _ | .phyModeSet _ _ _ | .phySpeedSet _ _ _ | .phyLinkStatus _ _
  | .phyPowerDown _ _ _ | .phySerdesControl _ _ _ | .mailboxChain _ | .tenGigSetRate _
  | .tenGigTxState | .tenGigSetTxState _ | .tenGigSystemStatus | .tenGigLineStatus
  | .tenGigLinkStatus => .adapted

/-- The levels in the lower half of a byte, the first at its highest bit. -/
def Levels.ofNibble (b : UInt8) : Levels :=
  ⟨hasBit b .b3, hasBit b .b2, hasBit b .b1, hasBit b .b0⟩

namespace Qsfp

/-- The driver of a cage before a module is found, with the usual timing. -/
def ofCage (c : Cage) : Qsfp := ⟨c, .standard, .nothing⟩

def eeprom (q : Qsfp) : Eeprom where
  address := q.cage.address
  selector := q.cage.selector
  settleTime := q.cage.selectDelay
  scheme := .sff8636
  presence := some q.cage.presence

def session {α : Type} (q : Qsfp) (body : Selected → Procedure α) : Procedure α :=
  q.eeprom.session body

/-- The driver of the module in an adapter. -/
def adapter? (q : Qsfp) : Option Sfp :=
  if q.found.adapted then some (.ofCage q.cage.adapted) else none

/-- Where the monitors and controls of the module lie. -/
def layout (q : Qsfp) : Layout := .of q.found.category q.found.revision

def lane (q : Qsfp) (channel : UInt8) : Except Error (Lane q.layout.channels) :=
  Lane.check channel q.layout.channels

/-! ## Discovery -/

/-- Override the power mode of a module that has it under software control. -/
def forcePower (m : Selected) (high : Bool) : Procedure Unit := do
  let extIdentifier ← m.lowerByte QsfpMap.extIdentifier
  unless softwarePowerSupported extIdentifier do throw .notSupported
  let _ ← m.modify (.unpaged QsfpMap.powerControl) fun control ↦
    .ok (PowerControl.force control high)

/-- Override the power mode of the module. -/
def forcePowerMode (q : Qsfp) (high : Bool) : Procedure Unit :=
  q.session fun m ↦ forcePower m high

/-- Write the datapath control byte and look whether it was taken. -/
def tryDatapath (m : Selected) (a : Address) : Procedure UInt8 := do
  m.writeByte a DoubleDensity.allLanes
  m.readByte a

/-- Power up every lane.  A module that does not take it is usable all the same. -/
def powerUpDatapath (m : Selected) (a : Address) : Program Unit := do
  match ← (tryDatapath m a).run with
  | .ok value =>
    if value = DoubleDensity.allLanes then report .debug "datapath powered up" [("addr", a.text)]
    else
      report .warning "datapath power up did not take"
        [("addr", a.text), ("value", toString value)]
  | .error e =>
    report .warning "datapath power up failed" [("addr", a.text), ("reason", e.wording)]

/-- Go to page zero, as far as that is possible. -/
def homePage (m : Selected) : Program Unit := do
  match ← m.pagingSupported.run with
  | .ok false => return ()
  | .ok true =>
    match ← (Selected.selectPage m.address 0).run with
    | .ok () => return ()
    | .error e => report .warning "failed to select page 0" [("reason", e.wording)]
  | .error e => report .warning "failed to read paging support" [("reason", e.wording)]

/-- Read the power class, and force low power on modules that leave it to software. -/
def readMaxPower (m : Selected) : Program (Option MaxPower) := do
  match ← (m.lowerByte QsfpMap.extIdentifier).run with
  | .error e =>
    report .warning "failed to read max power" [("reason", e.wording)]
    return none
  | .ok extIdentifier =>
    let power := MaxPower.ofExtIdentifier extIdentifier
    if power.softwareControlled then
      match ← (forcePower m false).run with
      | .ok () => return power
      | .error e =>
        report .warning "failed to force low power" [("reason", e.wording)]
        return power
    return power

/-- Classify the module and get it ready. -/
def discover (q : Qsfp) : Procedure Discovery :=
  q.session fun m ↦ do
    let id := Identifier.ofByte (← m.lowerByte QsfpMap.identifier)
    if id.isAdapted then return { Discovery.nothing with adapted := true }
    homePage m
    let category := Category.ofIdentifier id
    let revision ← m.lowerByte QsfpMap.revision
    if category = .qsfpDD then
      if let some a := DoubleDensity.datapathControl? revision then powerUpDatapath m a
      return ⟨category, revision, none, false⟩
    return ⟨category, revision, ← readMaxPower m, false⟩

/-- Find out about an inserted module, or forget a removed one. -/
def moduleInit (q : Qsfp) (present : Bool) : Program (Except Error Unit × Qsfp) := do
  if present then
    match ← q.discover.run with
    | .error e => return (.error e, q)
    | .ok found =>
      report .info "module initialized"
        [("category", found.category.text), ("revision", toString found.revision),
          ("qsa", toString found.adapted)]
      return (.ok (), { q with found := found })
  else
    if q.found.adapted then report .info "QSA adapter removed" []
    return (.ok (), { q with found := .nothing })

/-! ## Flags and conditions -/

def moduleMonitorStatus (q : Qsfp) (flags : ModuleStatus) : Procedure ModuleStatus :=
  q.session fun m ↦ do
    let levels (quad : FlagQuad .module) (offset : UInt8) : Procedure ModuleStatus := do
      if flags.intersects quad.all then
        return (Levels.ofNibble ((← m.lowerByte offset) >>> 4)).reduce quad
      return .empty
    let temperature ← levels ModuleStatus.temperature q.layout.temperatureFlags
    let voltage ← levels ModuleStatus.voltage q.layout.voltageFlags
    return (temperature ||| voltage) &&& flags

/-- The flag of a lane in a byte of its own, if the layout has one. -/
def laneFlag (m : Selected) (channel : UInt8) (offset : Option UInt8) : Procedure Bool := do
  let some o := offset | return false
  return (← m.lowerByte o) &&& (1 <<< channel) != 0

/-- The passed levels of receive power, or else of bias, of a lane. -/
def laneLevels {n : UInt8} (m : Selected) (flags : ChannelFlags) (rxPower : Bool)
    (lane : Lane n) : Procedure Levels := do
  let channel := lane.channel
  match flags with
  | .nibbles rx tx =>
    let byte ← m.lowerByte ((if rxPower then rx else tx) + channel / 2)
    return .ofNibble (if channel % 2 = 0 then byte >>> 4 else byte)
  | .lanes rx tx =>
    let offsets := if rxPower then rx else tx
    let highAlarm ← laneFlag m channel offsets.highAlarm
    let lowAlarm ← laneFlag m channel offsets.lowAlarm
    let highWarning ← laneFlag m channel offsets.highWarning
    let lowWarning ← laneFlag m channel offsets.lowWarning
    return ⟨highAlarm, lowAlarm, highWarning, lowWarning⟩

def channelMonitorStatus (q : Qsfp) (channel : UInt8) (flags : ChannelMonitorStatus) :
    Procedure ChannelMonitorStatus := do
  let lane ← q.lane channel
  q.session fun m ↦ do
    let levels (quad : FlagQuad .channelMonitor) (rxPower : Bool) :
        Procedure ChannelMonitorStatus := do
      if flags.intersects quad.all then
        return (← laneLevels m q.layout.channelFlags rxPower lane).reduce quad
      return .empty
    let rx ← levels ChannelMonitorStatus.rxPower true
    let bias ← levels ChannelMonitorStatus.txBias false
    return (rx ||| bias) &&& flags

/-- Whether the bit of a lane is set. -/
def laneBit {n : UInt8} (m : Selected) (bit : ChannelBit) (lane : Lane n) : Procedure Bool := do
  return (← m.lowerByte bit.offset) &&& bit.mask lane.channel != 0

def channelStatus (q : Qsfp) (channel : UInt8) (flags : ChannelStatus) :
    Procedure ChannelStatus := do
  let lane ← q.lane channel
  q.session fun m ↦ do
    let flagAt (flag : ChannelStatus) (bit : ChannelBit) :=
      Sfp.flagIf flags flag (laneBit m bit lane)
    let disabled ← flagAt ChannelStatus.txDisable q.layout.txDisable
    let fault ← flagAt ChannelStatus.txFault q.layout.txFault
    let txLoss ← flagAt ChannelStatus.txLoss q.layout.txLoss
    let rxLoss ← flagAt ChannelStatus.rxLoss q.layout.rxLoss
    return disabled ||| fault ||| txLoss ||| rxLoss

/-! ## Lane controls -/

/-- Switch the transmitter of a lane, of a module that allows it. -/
def txControl (q : Qsfp) (channel : UInt8) (enable : Bool) : Procedure Unit := do
  let lane ← q.lane channel
  q.session fun m ↦ do
    let options ← m.lowerByte QsfpMap.controlOptions
    unless hasBit options QsfpMap.txDisableBit do throw .notSupported
    let bit := q.layout.txDisable
    let _ ← m.modify (.unpaged bit.offset) fun byte ↦
      .ok (if enable then byte &&& ~~~ bit.mask lane.channel else byte ||| bit.mask lane.channel)
  settle (if enable then q.txSettle.enable else q.txSettle.disable)
  report .debug "tx control" [("channel", toString channel), ("enable", toString enable)]

def txControlStatus (q : Qsfp) (channel : UInt8) : Procedure Bool := do
  let lane ← q.lane channel
  let disabled ← q.session fun m ↦ laneBit m q.layout.txDisable lane
  return !disabled

/-- The controls of the clock recovery that a module has, in either direction. -/
def cdrBits (q : Qsfp) (m : Selected) : Procedure (List ChannelBit) := do
  let options ← m.lowerByte QsfpMap.cdrOptions
  let tx := hasBit options QsfpMap.txCdrBit
  let rx := hasBit options QsfpMap.rxCdrBit
  if !tx && !rx then throw .notSupported
  return (if tx then [q.layout.cdrTx] else []) ++ if rx then [q.layout.cdrRx] else []

/-- Switch some bits of a lane, in order. -/
def setLaneBits {n : UInt8} (m : Selected) (lane : Lane n) (on : Bool) :
    List ChannelBit → Procedure Unit
  | [] => return ()
  | bit :: bits => do
    let mask := bit.mask lane.channel
    let _ ← m.modify (.unpaged bit.offset) fun byte ↦
      .ok (if on then byte ||| mask else byte &&& ~~~ mask)
    setLaneBits m lane on bits

/-- Whether some bit of a lane is set; all are read. -/
def anyLaneBit {n : UInt8} (m : Selected) (lane : Lane n) : List ChannelBit → Procedure Bool
  | [] => return false
  | bit :: bits => do
    let first ← laneBit m bit lane
    let others ← anyLaneBit m lane bits
    return first || others

def cdrSet (q : Qsfp) (channel : UInt8) (enable : Bool) : Procedure Unit := do
  let lane ← q.lane channel
  q.session fun m ↦ do setLaneBits m lane enable (← q.cdrBits m)

def cdrStatus (q : Qsfp) (channel : UInt8) : Procedure Bool := do
  let lane ← q.lane channel
  q.session fun m ↦ do anyLaneBit m lane (← q.cdrBits m)

/-- The rate select code of a firmware generation. -/
def rateCode : FirmwareRevision → Bool → UInt8
  | .rev0, true => 0xaa
  | .rev0, false => 0x00
  | .rev1, true => 0xff
  | .rev1, false => 0x55

def extRateSelect (q : Qsfp) (channel : UInt8) (revision : FirmwareRevision)
    (cdrEnable : Bool) : Procedure Unit := do
  let _ ← q.lane channel
  q.session fun m ↦ do
    let code := rateCode revision cdrEnable
    let _ ← m.modify (.unpaged QsfpMap.rxRateSelect) fun _ ↦ .ok code
    let _ ← m.modify (.unpaged QsfpMap.txRateSelect) fun _ ↦ .ok code

/-! ## Serial ID -/

/-- Whether the cable length is coded, which the module has to be asked for. -/
def lengthCoded (q : Qsfp) (m : Selected) : Procedure Bool := do
  if q.found.category = .qsfpDD ∧ DoubleDensity.revision3 ≤ q.found.revision then
    return (← m.lowerByte DoubleDensity.laneAssignment) != 0
  return false

/-- A parameter as it is reported, from the number in its field. -/
def parameterValue (q : Qsfp) (m : Selected) (p : Parameter) (raw : UInt32) :
    Procedure UInt32 :=
  match p with
  | .wavelength => return raw / .ofNat wavelengthUnits
  | .wavelengthTolerance => return raw / .ofNat toleranceUnits
  | .diagMonType =>
    return (if hasBit raw.toUInt8 QsfpMap.rxPowerAverageBit then RxPowerType.average
      else .modulationAmplitude).code
  | .lengthCableAssembly => do
    if ← q.lengthCoded m then return (lengthOfCode raw.toUInt8).toUInt32
    return raw
  | _ => return raw

def parameter (q : Qsfp) (p : Parameter) : Procedure UInt32 := do
  let f := q.layout.map.param p
  unless f.isSupported do
    report .debug "parameter not in memory map"
      [("param", Enumeration.name p), ("map", q.layout.map.name)]
    throw .notSupported
  q.session fun m ↦ do
    let bytes ← m.read (.unpaged f.offset) f.size.toNat
    match Checked.number bytes.toList with
    | .ok raw => q.parameterValue m p raw
    | .error e => throw (.decode e)

def vendorInfo (q : Qsfp) (v : VendorField) : Procedure String := do
  let f := q.layout.map.vendor v
  let bytes ← q.eeprom.read (.unpaged f.offset) f.vendorLength
  return VendorText.decode bytes.toList f

def transceiverCode (q : Qsfp) : Procedure ComplianceCode := do
  return .ofQsfp (← q.eeprom.read (.unpaged QsfpMap.compliance) 8)

def featureSupport (q : Qsfp) : Procedure FeatureSupport :=
  q.session fun m ↦ do
    let options ← m.lowerByte QsfpMap.controlOptions
    let paging ← m.pagingSupported
    let extIdentifier ← m.lowerByte QsfpMap.extIdentifier
    return .qsfp {
      rateSelect := hasBit options QsfpMap.rateSelectBit
      txControl := hasBit options QsfpMap.txDisableBit
      paging := paging
      softwarePowerMode := softwarePowerSupported extIdentifier
    }

/-! ## Monitors -/

/-- A word in the units of its quantity.  All monitors are internally calibrated. -/
def reading (quantity : Quantity) (w : UInt16) : Float :=
  match quantity with
  | .temperature => LinearQuantity.temperature.reading w .internal
  | .voltage => LinearQuantity.voltage.reading w .internal
  | .txBias => LinearQuantity.txBias.reading w .internal
  | .txPower => mwToDbm (LinearQuantity.txPower.reading w .internal)
  | .rxPower => mwToDbm (rxPowerMw w .internal)

def monitor (q : Qsfp) (offset : UInt8) (quantity : Quantity) : Procedure Float := do
  let w ← q.session fun m ↦ m.readWord (.unpaged offset)
  return reading quantity w

def moduleMonitor (q : Qsfp) : ModuleMonitor → Procedure Float
  | .temperature => q.monitor q.layout.temperature .temperature
  | .voltage => q.monitor q.layout.voltage .voltage

/-- Where the words of a channel monitor start, if the layout has them. -/
def monitorBase? (l : Layout) : ChannelMonitor → Option UInt8
  | .rxPower => some l.rxPower
  | .txBias => some l.txBias
  | .txPower => l.txPower

def channelMonitor (q : Qsfp) (channel : UInt8) (monitor : ChannelMonitor) :
    Procedure Float := do
  let lane ← q.lane channel
  let some base := monitorBase? q.layout monitor | throw .notSupported
  q.monitor (channelWord base lane.channel) monitor.quantity

/-- A threshold, of a module with pages to hold it. -/
def threshold (q : Qsfp) (t : Threshold) : Procedure Float := do
  let some a := q.layout.map.thresholdAddress? t | throw .notSupported
  q.session fun m ↦ do
    unless ← m.pagingSupported do throw .notSupported
    return reading t.quantity (← m.readWord a)

/-! ## Module controls -/

/-- The line of a control. -/
def controlLine (q : Qsfp) : ModuleControl → Option Line
  | .lowPowerMode => q.cage.lowPower
  | .reset => q.cage.reset

/-- Refuse high power to a module that draws more than the port has. -/
def checkBudget (q : Qsfp) (power : MaxPower) (high : Bool) : Procedure Unit := do
  if high && q.cage.maxPowerMw < power.milliwatts then
    report .error "module power exceeds port budget, refusing high power"
      [("module_mw", toString power.milliwatts), ("port_mw", toString q.cage.maxPowerMw)]
    throw .notSupported

/-- Set the power class of a module that leaves it to software.  What goes wrong is reported. -/
def setPowerClass (q : Qsfp) (power : MaxPower) (high : Bool) : Program Unit := do
  if power.softwareControlled then
    match ← (q.forcePowerMode high).run with
    | .ok () =>
      report .debug "power class set"
        [("module_mw", toString power.milliwatts), ("high_power", toString high)]
    | .error e =>
      unless e.isNotSupported do
        report .error "failed to set power class, module may not work" [("reason", e.wording)]

/-- Drive the line of a control. -/
def driveControl (q : Qsfp) (control : ModuleControl) (enable : Bool) : Procedure Unit := do
  let some line := q.controlLine control | throw .notSupported
  line.write enable

def moduleControl (q : Qsfp) (control : ModuleControl) (enable : Bool) : Procedure Unit := do
  if let .lowPowerMode := control then
    if let some power := q.found.maxPower then
      q.checkBudget power !enable
      q.setPowerClass power !enable
  q.driveControl control enable

def moduleControlStatus (q : Qsfp) (control : ModuleControl) : Procedure Bool := do
  let some line := q.controlLine control | throw .notSupported
  line.read

/-- Tell adapters apart by their maker. -/
def adapterOfOui (oui : List UInt8) : AdapterKind :=
  if oui = QsfpMap.qsa28Oui then .qsa28 else .qsa

/-- Ask the adapter for its maker. -/
def readAdapter (q : Qsfp) : Program AdapterKind := do
  match ← (q.eeprom.read (.unpaged QsfpMap.adapterOui) 3).run with
  | .ok oui => return adapterOfOui oui.toList
  | .error e =>
    report .warning "failed to read QSA adapter OUI" [("reason", e.wording)]
    return .unknown

/-- The kind of the adapter, which it tells while the module is held in reset. -/
def adapterKind (q : Qsfp) : Procedure AdapterKind := do
  unless q.found.adapted do return .none
  let some reset := q.cage.reset | throw .notSupported
  reset.write true
  settle q.cage.resetDelay
  let kind ← q.readAdapter
  reset.write false
  return kind

def moduleInfo (q : Qsfp) : ModuleInfo where
  density := q.cage.portType.density
  mapVersion := q.found.revision
  softwarePowerMode := (q.found.maxPower.map (·.softwareControlled)).getD false
  maxPowerMw := (q.found.maxPower.map (·.milliwatts)).getD noMaxPower

/-- Access the PHY of a channel of a breakout. -/
def breakout {α : Type} (q : Qsfp) (channel : UInt8) (media : MediaType) (body : Procedure α) :
    Procedure α := do
  if media ≠ .copperBreakout then
    throw (.invalidArgument ("media type " ++ Enumeration.name media ++
      " has no copper PHY in a QSFP cage"))
  q.session fun _ ↦ do
    CopperPhy.selectBreakout channel
    body

/-- What the driver does for an operation that goes to the cage. -/
def serveCage (q : Qsfp) : (op : Operation) → Procedure op.Answer
  | .presence => q.cage.presence.read
  | .moduleInit _ => throw .notSupported
  | .moduleMonitorStatus flags => q.moduleMonitorStatus flags
  | .channelMonitorStatus channel flags => q.channelMonitorStatus channel flags
  | .channelStatus channel flags => q.channelStatus channel flags
  | .txControl channel enable => q.txControl channel enable
  | .txControlStatus channel => q.txControlStatus channel
  | .cdrSet channel enable => q.cdrSet channel enable
  | .cdrStatus channel => q.cdrStatus channel
  | .speed => return q.cage.portType.capability
  | .parameter p => q.parameter p
  | .vendorInfo v => q.vendorInfo v
  | .transceiverCode => q.transceiverCode
  | .threshold t => q.threshold t
  | .moduleControl control enable => q.moduleControl control enable
  | .moduleControlStatus control => q.moduleControlStatus control
  | .moduleMonitor monitor => q.moduleMonitor monitor
  | .channelMonitor channel monitor => q.channelMonitor channel monitor
  | .featureSupport => q.featureSupport
  | .readGeneric a length => q.eeprom.read a length
  | .writeGeneric a data => q.eeprom.write a data
  | .read offset length => q.eeprom.read (.unpaged offset) length
  | .write offset data => q.eeprom.write (.unpaged offset) data
  | .ledSet _ _ => throw .notSupported
  | .extRateSelect channel revision cdrEnable => q.extRateSelect channel revision cdrEnable
  | .wavelengthSet _ => throw .notSupported
  | .adapterKind => q.adapterKind
  | .portInfo => return q.cage.portInfo
  | .moduleInfo => return q.moduleInfo
  | .phyAutonegSet channel media enable => q.breakout channel media (CopperPhy.setAutoneg enable)
  | .phyModeSet channel media mode => q.breakout channel media (CopperPhy.setMode mode)
  | .phySpeedSet channel media speed => q.breakout channel media (CopperPhy.setSpeed speed)
  | .phyLinkStatus _ _ => throw .notSupported
  | .phyPowerDown _ _ _ => throw .notSupported
  | .phySerdesControl _ _ _ => throw .notSupported
  | .mailboxChain _ => throw .notSupported
  | .tenGigSetRate _ => throw .notSupported
  | .tenGigTxState => throw .notSupported
  | .tenGigSetTxState _ => throw .notSupported
  | .tenGigSystemStatus => throw .notSupported
  | .tenGigLineStatus => throw .notSupported
  | .tenGigLinkStatus => throw .notSupported

/-- What the driver does for an operation that leaves it as it is. -/
def serve (q : Qsfp) (op : Operation) : Procedure op.Answer :=
  match q.adapter?, op.route with
  | some sfp, .adapted => sfp.serve op
  | some _, .refused => throw .notSupported
  | _, _ => q.serveCage op

def chain (q : Qsfp) (ps : List Packet) : Program (List Packet × Except Error Unit) :=
  match q.adapter? with
  | some sfp => sfp.chain ps
  | none => return (ps, .error .notSupported)

/-- What the driver does for an operation. -/
def perform (q : Qsfp) : (op : Operation) → Program (Except Error op.Answer × Qsfp)
  | .moduleInit present => q.moduleInit present
  | op => keeping q (q.serve op)

instance : MediaControl Qsfp where
  perform := perform
  chain := chain

end Qsfp

end Transceiver
