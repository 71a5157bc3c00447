import Transceiver.Driver.Qsfp

/-!
# Logical ports of double density cages

A double density cage carries two logical ports, each with a driver of the cage of its own.
Channels of a port are counted from the channel offset of its cage on.
-/

namespace Transceiver

/-- The driver of a logical port. -/
structure SubPort where
  inner : Qsfp
deriving DecidableEq, Repr

namespace SubPort

/-- The driver of a cage with the usual timing. -/
def ofCage (c : Cage) : SubPort := ⟨.ofCage c⟩

/-- What is added to a channel of the port. -/
def offset (p : SubPort) : UInt8 := p.inner.cage.channelOffset

/-- Whether the port is the second of its cage. -/
def isSecondary (p : SubPort) : Bool := p.inner.cage.portType.rank == 1

/-- The channel of the cage that a channel of the port is. -/
def channel (p : SubPort) (c : UInt8) : Except Error UInt8 :=
  if c.toNat + p.offset.toNat < 256 then .ok (c + p.offset)
  else
    .error (.invalidArgument ("channel " ++ toString c ++ " out of range with offset " ++
      toString p.offset))

/-- Whether a double density module fills the cage.  One that cannot be read does not. -/
def doubleDensity (p : SubPort) : Program Bool := do
  match ← (p.inner.session fun m ↦ m.lowerByte QsfpMap.identifier).run with
  | .ok b => return Identifier.ofByte b = .qsfpDD
  | .error e =>
    report .warning "failed to read identifier of secondary port" [("reason", e.wording)]
    return false

/-- A second port is there only if the module has one. -/
def presence (p : SubPort) : Procedure Bool := do
  unless ← p.inner.cage.presence.read do return false
  if p.isSecondary then p.doubleDensity else return true

/-- What the driver does for an operation that leaves it as it is. -/
def serve (p : SubPort) : (op : Operation) → Procedure op.Answer
  | .presence => p.presence
  | .channelMonitorStatus c flags => do
    p.inner.serve (.channelMonitorStatus (← p.channel c) flags)
  | .channelStatus c flags => do p.inner.serve (.channelStatus (← p.channel c) flags)
  | .txControl c enable => do p.inner.serve (.txControl (← p.channel c) enable)
  | .txControlStatus c => do p.inner.serve (.txControlStatus (← p.channel c))
  | .cdrSet c enable => do p.inner.serve (.cdrSet (← p.channel c) enable)
  | .cdrStatus c => do p.inner.serve (.cdrStatus (← p.channel c))
  | .channelMonitor c monitor => do p.inner.serve (.channelMonitor (← p.channel c) monitor)
  | .extRateSelect c revision cdrEnable => do
    p.inner.serve (.extRateSelect (← p.channel c) revision cdrEnable)
  | .phyAutonegSet c media enable => do
    p.inner.serve (.phyAutonegSet (← p.channel c) media enable)
  | .phyModeSet c media mode => do p.inner.serve (.phyModeSet (← p.channel c) media mode)
  | .phySpeedSet c media speed => do p.inner.serve (.phySpeedSet (← p.channel c) media speed)
  | .phyLinkStatus c media => do p.inner.serve (.phyLinkStatus (← p.channel c) media)
  | .phyPowerDown c media enable => do
    p.inner.serve (.phyPowerDown (← p.channel c) media enable)
  | .phySerdesControl c media enable => do
    p.inner.serve (.phySerdesControl (← p.channel c) media enable)
  | op => p.inner.serve op

def chain (p : SubPort) (ps : List Packet) : Program (List Packet × Except Error Unit) :=
  p.inner.chain ps

/-- What the driver does for an operation. -/
def perform (p : SubPort) : (op : Operation) → Program (Except Error op.Answer × SubPort)
  | .moduleInit present => do
    let (r, inner) ← p.inner.moduleInit present
    return (r, ⟨inner⟩)
  | op => keeping p (p.serve op)

instance : MediaControl SubPort where
  perform := perform
  chain := chain

end SubPort

end Transceiver
