import Transceiver.Main
import Transceiver.Text.Quoted
import Transceiver.Wire.Messages
import Transceiver.Proofs.Conduct.Session
import Transceiver.Proofs.Observer
import Transceiver.Proofs.Conduct.Phy
import Transceiver.Proofs.Conduct.Operation
import Transceiver.Proofs.Conduct.Sfp
import Transceiver.Proofs.Conduct.Qsfp
import Transceiver.Proofs.Conduct.Driver
import Transceiver.Proofs.Conduct.Query
import Transceiver.Proofs.Selection
import Transceiver.Proofs.PageRestore
import Transceiver.Proofs.PagedMemory
import Transceiver.Proofs.Session
import Transceiver.Proofs.MailboxExchange
import Transceiver.Proofs.MailboxChain
import Transceiver.Proofs.RateChange
import Transceiver.Proofs.Failures
import Transceiver.Proofs.Outcomes
import Transceiver.Proofs.ExactArithmetic
import Transceiver.Proofs.Absence
import Transceiver.Proofs.Refusal
import Transceiver.Proofs.LogLevels
import Transceiver.Proofs.Adapter
import Transceiver.Proofs.Discovery
import Transceiver.Proofs.Surfacing
import Transceiver.Proofs.Queries
import Transceiver.Proofs.Interleaving
import Transceiver.Proofs.LaneSwitch
import Transceiver.Proofs.Lifecycle
import Transceiver.Proofs.ChannelOffset
import Transceiver.Proofs.Coupling
import Transceiver.Proofs.Flags
import Transceiver.Proofs.StatusFlags
import Transceiver.Proofs.MonitorWords
import Transceiver.Proofs.Devices
import Transceiver.Proofs.Confinement
import Transceiver.Proofs.TuningProtocol
import Transceiver.Proofs.WavelengthRefusal
import Transceiver.Proofs.ByteAccess
import Transceiver.Proofs.PowerBudget
import Transceiver.Proofs.LaneControl
import Transceiver.Proofs.LaneLocality
import Transceiver.Proofs.PollBudget
import Transceiver.Proofs.Configuration
import Transceiver.Proofs.WiredConditions
import Transceiver.Proofs.ByteChanges
import Transceiver.Proofs.RepeatedControl
import Transceiver.Proofs.Trimming
import Transceiver.Proofs.Numerals
import Transceiver.Proofs.PacketCodec
import Transceiver.Proofs.PaddedText
import Transceiver.Proofs.ComplianceBits
import Transceiver.Proofs.GridChannels
import Transceiver.Proofs.CalibratedReadings
import Transceiver.Proofs.RegisterUpdates
import Transceiver.Proofs.SharedLines
import Transceiver.Proofs.AdapterProbe
import Transceiver.Proofs.SpeedList
import Transceiver.Proofs.ChannelRefusals
import Transceiver.Proofs.MonitorTable
