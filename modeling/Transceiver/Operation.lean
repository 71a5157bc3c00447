import Transceiver.Mailbox.Packet
import Transceiver.Program
import Transceiver.Status

/-!
# Operations on media

Every request to the module in a cage is an operation, with the type of its answer.  Channels
count from zero in the logical port.  A family that lacks an operation reports it as not
supported.
-/

namespace Transceiver

/-- A request to the module in a cage. -/
inductive Operation where
  /-- Is a module inserted? -/
  | presence
  /-- Prepare a module that was inserted, or forget one that was removed. -/
  | moduleInit (present : Bool)
  | moduleMonitorStatus (flags : ModuleStatus)
  | channelMonitorStatus (channel : UInt8) (flags : ChannelMonitorStatus)
  | channelStatus (channel : UInt8) (flags : ChannelStatus)
  | txControl (channel : UInt8) (enable : Bool)
  | txControlStatus (channel : UInt8)
  | cdrSet (channel : UInt8) (enable : Bool)
  | cdrStatus (channel : UInt8)
  /-- The fastest speed of the port. -/
  | speed
  | parameter (param : Parameter)
  | vendorInfo (field : VendorField)
  | transceiverCode
  | threshold (threshold : Threshold)
  | moduleControl (control : ModuleControl) (enable : Bool)
  | moduleControlStatus (control : ModuleControl)
  | moduleMonitor (monitor : ModuleMonitor)
  | channelMonitor (channel : UInt8) (monitor : ChannelMonitor)
  | featureSupport
  | readGeneric (address : Address) (length : Nat)
  | writeGeneric (address : Address) (data : List UInt8)
  | read (offset : UInt8) (length : Nat)
  | write (offset : UInt8) (data : List UInt8)
  | ledSet (channel : UInt8) (speed : Speed)
  | extRateSelect (channel : UInt8) (revision : FirmwareRevision) (cdrEnable : Bool)
  | wavelengthSet (nm : Float)
  | adapterKind
  | portInfo
  | moduleInfo
  | phyAutonegSet (channel : UInt8) (media : MediaType) (enable : Bool)
  | phyModeSet (channel : UInt8) (media : MediaType) (mode : PhyMode)
  | phySpeedSet (channel : UInt8) (media : MediaType) (speed : Speed)
  | phyLinkStatus (channel : UInt8) (media : MediaType)
  | phyPowerDown (channel : UInt8) (media : MediaType) (enable : Bool)
  | phySerdesControl (channel : UInt8) (media : MediaType) (enable : Bool)
  | mailboxChain (packets : List Packet)
  | tenGigSetRate (speed : Speed)
  | tenGigTxState
  | tenGigSetTxState (enable : Bool)
  | tenGigSystemStatus
  | tenGigLineStatus
  | tenGigLinkStatus

namespace Operation

/-- What an operation answers. -/
abbrev Answer : Operation → Type
  | .presence => Bool
  | .moduleInit _ => Unit
  | .moduleMonitorStatus _ => ModuleStatus
  | .channelMonitorStatus _ _ => ChannelMonitorStatus
  | .channelStatus _ _ => ChannelStatus
  | .txControl _ _ => Unit
  | .txControlStatus _ => Bool
  | .cdrSet _ _ => Unit
  | .cdrStatus _ => Bool
  | .speed => Speed
  | .parameter _ => UInt32
  | .vendorInfo _ => String
  | .transceiverCode => ComplianceCode
  | .threshold _ => Float
  | .moduleControl _ _ => Unit
  | .moduleControlStatus _ => Bool
  | .moduleMonitor _ => Float
  | .channelMonitor _ _ => Float
  | .featureSupport => FeatureSupport
  | .readGeneric _ length => Vector UInt8 length
  | .writeGeneric _ _ => Unit
  | .read _ length => Vector UInt8 length
  | .write _ _ => Unit
  | .ledSet _ _ => Unit
  | .extRateSelect _ _ _ => Unit
  | .wavelengthSet _ => Unit
  | .adapterKind => AdapterKind
  | .portInfo => PortInfo
  | .moduleInfo => ModuleInfo
  | .phyAutonegSet _ _ _ => Unit
  | .phyModeSet _ _ _ => Unit
  | .phySpeedSet _ _ _ => Unit
  | .phyLinkStatus _ _ => Bool
  | .phyPowerDown _ _ _ => Unit
  | .phySerdesControl _ _ _ => Unit
  | .mailboxChain _ => List Packet
  | .tenGigSetRate _ => Unit
  | .tenGigTxState => Bool
  | .tenGigSetTxState _ => Unit
  | .tenGigSystemStatus => SystemStatus
  | .tenGigLineStatus => LineStatus
  | .tenGigLinkStatus => Bool

/-- The name of an operation in the log. -/
def name : Operation → String
  | .presence => "presence"
  | .moduleInit _ => "module_init"
  | .moduleMonitorStatus _ => "module_monitor_status"
  | .channelMonitorStatus _ _ => "channel_monitor_status"
  | .channelStatus _ _ => "channel_status"
  | .txControl _ _ => "tx_control"
  | .txControlStatus _ => "tx_control_status"
  | .cdrSet _ _ => "cdr_set"
  | .cdrStatus _ => "cdr_status"
  | .speed => "speed"
  | .parameter _ => "parameter"
  | .vendorInfo _ => "vendor_info"
  | .transceiverCode => "transceiver_code"
  | .threshold _ => "threshold"
  | .moduleControl _ _ => "module_control"
  | .moduleControlStatus _ => "module_control_status"
  | .moduleMonitor _ => "module_monitor"
  | .channelMonitor _ _ => "channel_monitor"
  | .featureSupport => "feature_support"
  | .readGeneric _ _ => "read_generic"
  | .writeGeneric _ _ => "write_generic"
  | .read _ _ => "read"
  | .write _ _ => "write"
  | .ledSet _ _ => "led_set"
  | .extRateSelect _ _ _ => "ext_rate_select"
  | .wavelengthSet _ => "wavelength_set"
  | .adapterKind => "qsa_adapter_type"
  | .portInfo => "port_info"
  | .moduleInfo => "module_info"
  | .phyAutonegSet _ _ _ => "phy_autoneg_set"
  | .phyModeSet _ _ _ => "phy_mode_set"
  | .phySpeedSet _ _ _ => "phy_speed_set"
  | .phyLinkStatus _ _ => "phy_link_status"
  | .phyPowerDown _ _ _ => "phy_power_down"
  | .phySerdesControl _ _ _ => "phy_serdes_control"
  | .mailboxChain _ => "mailbox_chain"
  | .tenGigSetRate _ => "aq_set_rate"
  | .tenGigTxState => "aq_tx_state"
  | .tenGigSetTxState _ => "aq_set_tx_state"
  | .tenGigSystemStatus => "aq_system_status"
  | .tenGigLineStatus => "aq_line_status"
  | .tenGigLinkStatus => "aq_link_status"

end Operation

/-- A driver: what it does for each operation, and the state that leaves it in. -/
class MediaControl (δ : Type) where
  perform : δ → (op : Operation) → Program (Except Error op.Answer × δ)
  /-- Run packets in order up to the first failure, with the packets as they stand then. -/
  chain : δ → List Packet → Program (List Packet × Except Error Unit)

/-- A procedure that leaves a driver as it is. -/
def keeping {δ α : Type} (d : δ) (p : Procedure α) : Program (Except Error α × δ) := do
  return (← p.run, d)

end Transceiver
