import Transceiver.Compliance
import Transceiver.Mailbox.Packet
import Transceiver.Power
import Transceiver.Status
import Transceiver.Tuning.Procedure
import Transceiver.Wire.Value

/-!
# The plain form of messages

Structures are objects with a key for each field.
-/

namespace Transceiver.Wire

open Value (tagged)

/-! ## Addresses -/

instance : Encode DeviceSelector where
  encode
    | .auto => .text "Auto"
    | .explicit a => tagged "Explicit" (encode a)

instance : Decode DeviceSelector where
  decode? v := do
    match ← v.variant? with
    | ("Auto", .null) => return .auto
    | ("Explicit", a) => return .explicit (← decode? a)
    | _ => none

instance : Encode PageSelector where
  encode
    | .ignore => .text "Ignore"
    | .select n => tagged "Select" (encode n)

instance : Decode PageSelector where
  decode? v := do
    match ← v.variant? with
    | ("Ignore", .null) => return .ignore
    | ("Select", n) => return .select (← decode? n)
    | _ => none

instance : Encode Address where
  encode a := .object
    [("device", encode a.device), ("page", encode a.page), ("offset", encode a.offset)]

instance : Decode Address where
  decode? v := do
    let [device, page, offset] ← v.fields? ["device", "page", "offset"] | none
    return ⟨← decode? device, ← decode? page, ← decode? offset⟩

/-- The kind of an error. -/
def kind : MessageError → String
  | .invalidPage _ => "InvalidPage"
  | .invalidDevice _ => "InvalidDeviceAddress"
  | .invalidMailboxOp _ => "InvalidMailboxOp"
  | .tooShort _ _ => "BufferTooShort"

instance : Encode MessageError where
  encode e := tagged (kind e) <|
    match e with
    | .invalidPage n => encode n
    | .invalidDevice n => encode n
    | .invalidMailboxOp code => encode code
    | .tooShort needed actual => .object [("needed", encode needed), ("actual", encode actual)]

instance : Decode MessageError where
  decode? v := do
    match ← v.variant? with
    | ("InvalidPage", n) => return .invalidPage (← decode? n)
    | ("InvalidDeviceAddress", n) => return .invalidDevice (← decode? n)
    | ("InvalidMailboxOp", code) => return .invalidMailboxOp (← decode? code)
    | ("BufferTooShort", payload) =>
      let [needed, actual] ← payload.fields? ["needed", "actual"] | none
      return .tooShort (← decode? needed) (← decode? actual)
    | _ => none

/-! ## Packets -/

instance : Enumeration MailboxOp := ⟨[.read, .write], MailboxOp.name⟩

instance : Encode Packet where
  encode p := .object
    [("memory", encode p.memory), ("offset", encode p.offset), ("data", encode p.data),
      ("op", encode p.op)]

instance : Decode Packet where
  decode? v := do
    let [memory, offset, data, op] ← v.fields? ["memory", "offset", "data", "op"] | none
    return ⟨← decode? memory, ← decode? offset, ← decode? data, ← decode? op⟩

/-! ## Features and properties -/

instance : Encode SfpFeatures where
  encode f := .object
    [("rate_select", encode f.rateSelect), ("alarm_warning", encode f.alarmWarning),
      ("diag_monitoring", encode f.diagMonitoring)]

instance : Decode SfpFeatures where
  decode? v := do
    let [rateSelect, alarmWarning, diagMonitoring] ←
      v.fields? ["rate_select", "alarm_warning", "diag_monitoring"] | none
    return ⟨← decode? rateSelect, ← decode? alarmWarning, ← decode? diagMonitoring⟩

instance : Encode QsfpFeatures where
  encode f := .object
    [("rate_select", encode f.rateSelect), ("tx_control", encode f.txControl),
      ("paging", encode f.paging), ("software_power_mode", encode f.softwarePowerMode)]

instance : Decode QsfpFeatures where
  decode? v := do
    let [rateSelect, txControl, paging, softwarePowerMode] ←
      v.fields? ["rate_select", "tx_control", "paging", "software_power_mode"] | none
    return ⟨← decode? rateSelect, ← decode? txControl, ← decode? paging,
      ← decode? softwarePowerMode⟩

instance : Encode FeatureSupport where
  encode
    | .sfp f => tagged "Sfp" (encode f)
    | .qsfp f => tagged "Qsfp" (encode f)

instance : Decode FeatureSupport where
  decode? v := do
    match ← v.variant? with
    | ("Sfp", f) => return .sfp (← decode? f)
    | ("Qsfp", f) => return .qsfp (← decode? f)
    | _ => none

instance : Encode PortInfo where
  encode p := .object
    [("max_port_speed_mbps", encode p.maxSpeedMbps), ("port_density", encode p.density),
      ("max_port_power_mw", encode p.maxPowerMw)]

instance : Decode PortInfo where
  decode? v := do
    let [speed, density, power] ←
      v.fields? ["max_port_speed_mbps", "port_density", "max_port_power_mw"] | none
    return ⟨← decode? speed, ← decode? density, ← decode? power⟩

instance : Encode ModuleInfo where
  encode m := .object
    [("module_density", encode m.density), ("eeprom_map_version", encode m.mapVersion),
      ("software_controlled_power_mode", encode m.softwarePowerMode),
      ("max_module_power_mw", encode m.maxPowerMw)]

instance : Decode ModuleInfo where
  decode? v := do
    let [density, version, software, power] ←
      v.fields? ["module_density", "eeprom_map_version", "software_controlled_power_mode",
        "max_module_power_mw"] | none
    return ⟨← decode? density, ← decode? version, ← decode? software, ← decode? power⟩

instance : Encode SystemStatus where
  encode s := .object
    [("rx_link", encode s.rxLink), ("tx_link", encode s.txLink), ("speed", encode s.speed)]

instance : Decode SystemStatus where
  decode? v := do
    let [rxLink, txLink, speed] ← v.fields? ["rx_link", "tx_link", "speed"] | none
    return ⟨← decode? rxLink, ← decode? txLink, ← decode? speed⟩

instance : Encode LineStatus where
  encode s := .object [("link", encode s.link), ("speed", encode s.speed)]

instance : Decode LineStatus where
  decode? v := do
    let [link, speed] ← v.fields? ["link", "speed"] | none
    return ⟨← decode? link, ← decode? speed⟩

/-! ## Flags and codes -/

instance {s : Subject} : Encode (Flags s) := ⟨fun f ↦ encode f.bits⟩

instance {s : Subject} : Decode (Flags s) := ⟨fun v ↦ (decode? v).map Flags.mk⟩

instance : Encode ComplianceCode where
  encode c := .object
    [("eth_10g", encode c.eth10g), ("infiniband", encode c.infiniband),
      ("escon", encode c.escon), ("sonet", encode c.sonet), ("sas", encode c.sas),
      ("eth_1g", encode c.eth1g), ("fc_distance", encode c.fcDistance),
      ("fc_technology", encode c.fcTechnology), ("cable_technology", encode c.cableTechnology),
      ("fc_media", encode c.fcMedia), ("fc_speed", encode c.fcSpeed)]

instance : Encode MaxPower where
  encode p := .object
    [("milliwatts", encode p.milliwatts), ("software_controlled", encode p.softwareControlled)]

instance : Encode TuneRequest where
  encode
    | .channel n => tagged "channel" (encode n)
    | .wavelength n => tagged "wavelength" (encode n)

end Transceiver.Wire
