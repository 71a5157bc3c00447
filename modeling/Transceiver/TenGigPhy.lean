import Transceiver.Mailbox.Exchange

/-!
# The PHY of 10GBASE-T modules

All access goes through the mailbox of the module.  The rate is changed by restarting
autonegotiation with the transmitter held off.
-/

namespace Transceiver

/-- How the PHY of a module is reached. -/
structure TenGigPhy where
  timing : MailboxTiming
  /-- The wait on either side of a change of rate. -/
  rateSettle : Duration
deriving DecidableEq, Repr

namespace TenGigPhy

/-- The wait around a change of rate. -/
def standardSettle : Duration := .ofMillis 800

def standard : TenGigPhy := ⟨.standard, standardSettle⟩

/-! ## Registers -/

def lineMemory : UInt8 := 1
def hostMemory : UInt8 := 4
def autonegMemory : UInt8 := 7

def txDisable : UInt16 := 0x0009
def lineLink : UInt16 := 0xe800
def lineSpeed : UInt16 := 0xc800
def systemStatusRegister : UInt16 := 0xe812

/-- Registers that restart autonegotiation, in the order they are written. -/
def rateRegisters : List UInt16 := [0x0000, 0x0010, 0xc400, 0x0020, 0x0000]

/-- The values of those registers for a rate the PHY has. -/
def rateValues? : Speed → Option (List UInt16)
  | .g10 => some [0x2000, 0x9001, 0x0040, 0x1001, 0x3000]
  | .g5 => some [0x2000, 0x9001, 0x0040, 0x0141, 0x3000]
  | .g2p5 => some [0x2000, 0x9001, 0x0040, 0x00a1, 0x3000]
  | .g1 => some [0x2000, 0x8001, 0x8040, 0x0001, 0x3000]
  | .m100 => some [0x2000, 0x0101, 0x0040, 0x0001, 0x3000]
  | _ => none

/-- The speed of a code of either side, where zero tells that there is none. -/
def decodeSpeed (code : UInt16) : Except Error (Option Speed) :=
  match code with
  | 0 => .ok none
  | 1 => .ok (some .m100)
  | 2 => .ok (some .g1)
  | 3 => .ok (some .g10)
  | 4 => .ok (some .g2p5)
  | 5 => .ok (some .g5)
  | n => .error (.protocol ("unknown PHY speed code " ++ toString n))

/-! ## Operations -/

/-- Whether the transmitter is on. -/
def txEnabled (phy : TenGigPhy) (m : Selected) : Procedure Bool := do
  let value ← Mailbox.read m phy.timing lineMemory txDisable
  return value &&& 1 == 0

/-- Switch the transmitter. -/
def setTxEnabled (phy : TenGigPhy) (m : Selected) (enable : Bool) : Procedure Unit := do
  let value ← Mailbox.read m phy.timing lineMemory txDisable
  Mailbox.write m phy.timing lineMemory txDisable
    (if enable then value &&& ~~~ 1 else value ||| 1)

def systemStatus (phy : TenGigPhy) (m : Selected) : Procedure SystemStatus := do
  let value ← Mailbox.read m phy.timing hostMemory systemStatusRegister
  let speed ← decodeSpeed ((value >>> 8) &&& 0xf)
  return ⟨value &&& 0x2000 != 0, value &&& 0x1000 != 0, speed⟩

def lineStatus (phy : TenGigPhy) (m : Selected) : Procedure LineStatus := do
  let link ← Mailbox.read m phy.timing lineMemory lineLink
  let value ← Mailbox.read m phy.timing autonegMemory lineSpeed
  let speed ← decodeSpeed ((value >>> 1) &&& 0x7)
  return ⟨link &&& 1 != 0, speed⟩

/-- The packets that restart autonegotiation. -/
def ratePackets (values : List UInt16) : List Packet :=
  rateRegisters.zipWith (fun register value ↦ .write autonegMemory register value) values

/-- Advertise one rate alone.  A line that runs at it is left alone. -/
def setRate (phy : TenGigPhy) (m : Selected) (speed : Speed) : Procedure Unit := do
  let some values := rateValues? speed
    | throw (.invalidArgument ("10GBASE-T PHY cannot run at " ++ speed.text))
  let line ← phy.lineStatus m
  if line.speed = some speed then
    report .debug "PHY already at requested rate" [("speed", speed.text)]
  else
    let enabled ← phy.txEnabled m
    phy.setTxEnabled m false
    settle phy.rateSettle
    let (_, r) ← Mailbox.chain m phy.timing (ratePackets values)
    r
    settle phy.rateSettle
    if enabled then phy.setTxEnabled m true
    report .info "PHY rate changed" [("speed", speed.text)]

/-- Whether both sides are up at the same speed. -/
def linkUp (phy : TenGigPhy) (m : Selected) : Procedure Bool := do
  let line ← phy.lineStatus m
  let system ← phy.systemStatus m
  return line.link && system.rxLink && system.txLink && line.speed.isSome &&
    line.speed == system.speed

end TenGigPhy

end Transceiver
