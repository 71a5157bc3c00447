import Transceiver.Bus
import Transceiver.Lane

/-!
# The PHY of copper modules

A 1000BASE-T PHY answers at a device of its own, with words for registers.  A breakout of a QSFP
cage puts four of them behind a mux.
-/

namespace Transceiver.CopperPhy

/-- The device of the PHY. -/
def device : UInt8 := 0x56

/-! ## Registers -/

def control : UInt8 := 0x00
def controlReset : UInt16 := 0x8000
def controlAutoneg : UInt16 := 0x1000
def controlPowerDown : UInt16 := 0x0800
def advertise : UInt8 := 0x04
/-- Both duplexes at 10 and 100 megabits. -/
def advertiseMask : UInt16 := 0x01e0
def advertise10 : UInt16 := 0x0040
def advertise100 : UInt16 := 0x0100
def gigabitControl : UInt8 := 0x09
/-- Both duplexes at a gigabit. -/
def gigabitMask : UInt16 := 0x0300
def advertise1000 : UInt16 := 0x0200
def phyControl : UInt8 := 0x10
def hostPowerDown : UInt16 := 0x0008
def linkStatus : UInt8 := 0x11
def linkUpMask : UInt16 := 0x0400
def modeRegister : UInt8 := 0x1b
def sgmiiMode : UInt16 := 0x9084
def extAddress : UInt8 := 0x1d
def extControl : UInt8 := 0x1e
def serdesRegister : UInt16 := 0x001f
def serdesOn : UInt16 := 0x0000
def serdesOff : UInt16 := 0x2001

/-- The wait between naming the register of the serdes and writing it. -/
def standardSerdesDelay : Duration := .ofMillis 100

/-! ## Operations -/

def read (register : UInt8) : Procedure UInt16 := do
  let value ← Bus.readWord device register
  report .trace "phy read" [("reg", toString register), ("value", toString value)]
  return value

def write (register : UInt8) (value : UInt16) : Procedure Unit := do
  report .trace "phy write" [("reg", toString register), ("value", toString value)]
  Bus.writeWord device register value

/-- Replace the word of a register. -/
def update (register : UInt8) (f : UInt16 → UInt16) : Procedure Unit := do
  let value ← read register
  write register (f value)

/-- Ask for a reset, with which pending settings take effect. -/
def softReset : Procedure Unit := update control (· ||| controlReset)

/-- Reset a PHY that is not powered down. -/
def apply : Procedure Unit := do
  let value ← read control
  if value &&& controlPowerDown == 0 then softReset
  else report .debug "phy powered down, deferring reset" []

def setAutoneg (enable : Bool) : Procedure Unit := do
  update control fun v ↦ if enable then v ||| controlAutoneg else v &&& ~~~ controlAutoneg
  apply

/-- Choose the interface to the host.  All but one leave the PHY as it was strapped. -/
def setMode (mode : PhyMode) : Procedure Unit := do
  update modeRegister fun v ↦
    match mode with
    | .sgmii => sgmiiMode
    | .mii | .gmii => v
  apply

/-- What is advertised for a speed the PHY has, below a gigabit and at it. -/
def advertisement? : Speed → Option (UInt16 × UInt16)
  | .g1 => some (0, advertise1000)
  | .m100 => some (advertise100 ||| advertise10, 0)
  | .m10 => some (advertise10, 0)
  | _ => none

/-- Advertise one speed. -/
def setSpeed (speed : Speed) : Procedure Unit := do
  let some (base, gigabit) := advertisement? speed
    | throw (.invalidArgument ("copper PHY cannot run at " ++ speed.text))
  update advertise fun v ↦ v &&& ~~~ advertiseMask ||| base
  update gigabitControl fun v ↦ v &&& ~~~ gigabitMask ||| gigabit

def linkUp : Procedure Bool := do
  let value ← read linkStatus
  return value &&& linkUpMask != 0

/-- Power the copper side down or up.  The host side is brought up first, so that the PHY can be
reached. -/
def setPowerDown (enable : Bool) : Procedure Unit := do
  let value ← read control
  let phy ← read phyControl
  if phy &&& hostPowerDown != 0 then
    write phyControl (phy &&& ~~~ hostPowerDown)
    softReset
  if (value &&& controlPowerDown != 0) ≠ enable then
    write control (if enable then value ||| controlPowerDown else value &&& ~~~ controlPowerDown)

/-- Switch the serdes. -/
def setSerdes (delay : Duration) (enable : Bool) : Procedure Unit := do
  write extAddress serdesRegister
  settle delay
  write extControl (if enable then serdesOn else serdesOff)

/-! ## Breakouts -/

/-- The device of the mux of a breakout. -/
def breakoutMux : UInt8 := 0x74

/-- Route the bus to the PHY of a channel. -/
def selectBreakout (channel : UInt8) : Procedure Unit := do
  let lane ← Lane.check channel 4
  Bus.writeByte breakoutMux 0x00 (1 <<< lane.channel)

end Transceiver.CopperPhy
