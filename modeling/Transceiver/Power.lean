import Transceiver.Bytes

/-!
# Power classes

The extended identifier of a QSFP module tells its power class.  Classes above the fourth are
entered only when the host allows it through the power control byte.
-/

namespace Transceiver

/-- The most power a module may draw. -/
structure MaxPower where
  milliwatts : Int
  /-- Whether the host has to enable the class by software. -/
  softwareControlled : Bool
deriving DecidableEq, Repr

/-- The power class in an extended identifier.  Its low two bits name the classes five to seven,
and only where they are clear do the high two name the first four. -/
def MaxPower.ofExtIdentifier (b : UInt8) : MaxPower :=
  match b &&& 0x03 with
  | 0 =>
    match b >>> 6 with
    | 0 => ⟨1500, false⟩
    | 1 => ⟨2000, false⟩
    | 2 => ⟨2500, false⟩
    | _ => ⟨3500, false⟩
  | 1 => ⟨4000, true⟩
  | 2 => ⟨4500, true⟩
  | _ => ⟨5000, true⟩

/-- Whether an extended identifier advertises classes under software control. -/
def softwarePowerSupported (extIdentifier : UInt8) : Bool := extIdentifier &&& 0x03 != 0

namespace PowerControl

def overrideBit : Bit := .b0

def lowPowerBit : Bit := .b1

def highClassBit : Bit := .b2

/-- The power control byte that overrides the low-power line, towards high or low power. -/
def force (control : UInt8) (high : Bool) : UInt8 :=
  withBit (withBit (withBit control highClassBit high) lowPowerBit !high) overrideBit true

end PowerControl

end Transceiver
