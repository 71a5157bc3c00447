import Transceiver.Decimal.Places
import Transceiver.Resource
import Transceiver.Text.Record
import Transceiver.Text.Table

/-!
# Reports on a module

Tables of what a module tells about itself.  A capability that it lacks is shown by a hyphen, and
any other failure in its place.
-/

namespace Transceiver.Admin.Report

open Text (Row)

/-- What becomes of an operation that leaves the driver of a resource as it is. -/
def query {δ : Type} [MediaControl δ] (r : Resource δ) (op : Operation) :
    Program (Except Error op.Answer) := do
  return (← r.call op).1

/-- The row of an outcome. -/
def outcomeRow {α : Type} (field : String) (text : α → String) : Except Error α → Row
  | .ok a => ⟨field, text a⟩
  | .error e => ⟨field, if e.isNotSupported then "-" else "error: " ++ e.wording⟩

/-- The row of an operation. -/
def queryRow {δ : Type} [MediaControl δ] (r : Resource δ) (field : String) (op : Operation)
    (text : op.Answer → String) : Program Row := do
  return outcomeRow field text (← query r op)

/-! ## Texts of answers -/

def complianceText (c : ComplianceCode) : String :=
  Text.record "TransceiverCode" [("eth_10g", toString c.eth10g),
    ("infiniband", toString c.infiniband), ("escon", toString c.escon),
    ("sonet", toString c.sonet), ("sas", toString c.sas), ("eth_1g", toString c.eth1g),
    ("fc_distance", toString c.fcDistance), ("fc_technology", toString c.fcTechnology),
    ("cable_technology", toString c.cableTechnology), ("fc_media", toString c.fcMedia),
    ("fc_speed", toString c.fcSpeed)]

def featureText : FeatureSupport → String
  | .sfp f =>
    "Sfp(" ++ Text.record "SfpFeatures" [("rate_select", toString f.rateSelect),
      ("alarm_warning", toString f.alarmWarning),
      ("diag_monitoring", toString f.diagMonitoring)] ++ ")"
  | .qsfp f =>
    "Qsfp(" ++ Text.record "QsfpFeatures" [("rate_select", toString f.rateSelect),
      ("tx_control", toString f.txControl), ("paging", toString f.paging),
      ("software_power_mode", toString f.softwarePowerMode)] ++ ")"

def moduleText (m : ModuleInfo) : String :=
  Text.record "ModuleInfo" [("module_density", toString m.density),
    ("eeprom_map_version", toString m.mapVersion),
    ("software_controlled_power_mode", toString m.softwarePowerMode),
    ("max_module_power_mw", toString m.maxPowerMw)]

/-! ## Reports -/

variable {δ : Type} [MediaControl δ]

/-- Rows in order. -/
def collect : List (Program Row) → Program (List Row)
  | [] => return []
  | row :: rows => do
    let first ← row
    return first :: (← collect rows)

/-- Maker, standards and features. -/
def identity (r : Resource δ) : Program (List Row) :=
  collect <|
    ((Enumeration.members : List VendorField).map fun v ↦
      queryRow r v.label (.vendorInfo v) id) ++
    [queryRow r "Compliance" .transceiverCode complianceText,
      queryRow r "Speed" .speed Speed.text,
      queryRow r "Features" .featureSupport featureText,
      queryRow r "Module" .moduleInfo moduleText]

/-- The monitors of a channel with their labels, in the order of the report. -/
def channelMonitors : List (ChannelMonitor × String) :=
  [(.rxPower, "rx power (dBm)"), (.txPower, "tx power (dBm)"), (.txBias, "tx bias (mA)")]

/-- The rows of some monitors of a channel, and whether the channel exists. -/
def channelRows (r : Resource δ) (channel : UInt8) :
    List (ChannelMonitor × String) → Program (List Row × Bool)
  | [] => return ([], true)
  | (monitor, label) :: monitors => do
    match ← query r (.channelMonitor channel monitor) with
    | .error (.invalidArgument _) => return ([], false)
    | result =>
      let row :=
        outcomeRow ("ch" ++ toString channel ++ " " ++ label) (Decimal.fixed 3) result
      let (rows, found) ← channelRows r channel monitors
      return (row :: rows, found)

/-- The rows of at most `count` channels from `channel` on, up to the first that does not exist. -/
def channelsFrom (r : Resource δ) (channel : UInt8) : (count : Nat) → Program (List Row)
  | 0 => return []
  | count + 1 => do
    match ← channelRows r channel channelMonitors with
    | (rows, false) => return rows
    | (rows, true) => return rows ++ (← channelsFrom r (channel + 1) count)

/-- The readings of a module and its channels. -/
def monitors (r : Resource δ) : Program (List Row) := do
  let temperature ←
    queryRow r "Temperature (C)" (.moduleMonitor .temperature) (Decimal.fixed 2)
  let voltage ← queryRow r "Voltage (V)" (.moduleMonitor .voltage) (Decimal.fixed 3)
  return temperature :: voltage :: (← channelsFrom r 0 255)

/-- All thresholds. -/
def thresholds (r : Resource δ) : Program (List Row) :=
  collect <| (Enumeration.members : List Threshold).map fun t ↦
    queryRow r (Enumeration.name t) (.threshold t) (Decimal.fixed 3)

end Transceiver.Admin.Report
