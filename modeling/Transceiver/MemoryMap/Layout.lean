import Transceiver.MemoryMap.Field

/-!
# Lower memory of QSFP modules

A layout places the monitors, flags and controls of a module.  Offsets and bits of a channel stay
in their byte as long as the channel is below the number of channels of the layout.
-/

namespace Transceiver

/-- The bits of the channels in one byte, channel `n` at position `shift + n`. -/
structure ChannelBit where
  offset : UInt8
  shift : UInt8
deriving DecidableEq, Repr

/-- The bit of a channel. -/
def ChannelBit.mask (b : ChannelBit) (channel : UInt8) : UInt8 :=
  1 <<< ((b.shift + channel) &&& 7)

/-- Offsets of the flag bytes of one quantity, as far as the layout reports them. -/
structure LaneFlags where
  highAlarm : Option UInt8
  lowAlarm : Option UInt8
  highWarning : Option UInt8
  lowWarning : Option UInt8
deriving DecidableEq, Repr

/-- How the flags of the channel monitors lie. -/
inductive ChannelFlags where
  /-- A byte for two channels, the even one in the high half. -/
  | nibbles (rxPower txBias : UInt8)
  /-- A byte for each condition, with a bit for each channel. -/
  | lanes (rxPower txBias : LaneFlags)
deriving DecidableEq, Repr

/-- The lower memory of one family and revision. -/
structure Layout where
  name : String
  channels : UInt8
  map : MemoryMap
  temperature : UInt8
  voltage : UInt8
  /-- The word of the first channel, where those of the others follow. -/
  rxPower : UInt8
  txBias : UInt8
  txPower : Option UInt8
  temperatureFlags : UInt8
  voltageFlags : UInt8
  channelFlags : ChannelFlags
  txLoss : ChannelBit
  rxLoss : ChannelBit
  txFault : ChannelBit
  txDisable : ChannelBit
  cdrTx : ChannelBit
  cdrRx : ChannelBit

/-- The offset of the word of a channel in a row of words that starts at `base`. -/
def channelWord (base channel : UInt8) : UInt8 := base + 2 * channel

end Transceiver
