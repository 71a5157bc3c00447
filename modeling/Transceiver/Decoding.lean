import Transceiver.Compliance
import Transceiver.Decimal.Shortest
import Transceiver.Identifier
import Transceiver.Mailbox.Status
import Transceiver.Tuning.Grid
import Transceiver.Units

/-!
# Checked decoding

Decoders that are handed bytes of any number, or positions of any size, and say what is wrong with
them.
-/

namespace Transceiver

/-- Why bytes do not decode. -/
inductive DecodeError where
  | bitOutOfRange
  | invalidBitField
  | unsupportedIdentifier (id : Identifier)
  | invalidCapability (min max : Float)
  | shortField (needed actual : Nat)
  | message (e : MessageError)
deriving Repr

namespace DecodeError

/-- The wording of an error. -/
def wording : DecodeError → String
  | .bitOutOfRange => "Bit index out of range"
  | .invalidBitField => "Invalid value for a bit field"
  | .unsupportedIdentifier id => "Unsupported SFF-8024 Identifier: '" ++ id.text ++ "'"
  | .invalidCapability min max =>
    "Invalid tunable capability: max frequency " ++ Decimal.shortest max ++ " THz below min " ++
      Decimal.shortest min ++ " THz"
  | .shortField needed actual =>
    "Field needs " ++ toString needed ++ " bytes, found " ++ toString actual
  | .message _ => "Message error"

end DecodeError

namespace Checked

/-- A position in a byte. -/
def position (bit : UInt8) : Except DecodeError Bit :=
  match Bit.ofIndex? bit with
  | some i => .ok i
  | none => .error .bitOutOfRange

def hasBit (b bit : UInt8) : Except DecodeError Bool := do
  return Transceiver.hasBit b (← position bit)

def withBit (b bit : UInt8) (on : Bool) : Except DecodeError UInt8 := do
  return Transceiver.withBit b (← position bit) on

/-- The first `n` bytes. -/
def leading (n : Nat) (bs : List UInt8) : Except DecodeError (Vector UInt8 n) :=
  match leading? n bs with
  | some v => .ok v
  | none => .error (.shortField n bs.length)

def word16 (bs : List UInt8) : Except DecodeError UInt16 := wordIn <$> leading 2 bs

/-- A word whose low byte comes first. -/
def word16Low (bs : List UInt8) : Except DecodeError UInt16 := do
  let b ← leading 2 bs
  return wordIn b.reverse

def word32 (bs : List UInt8) : Except DecodeError UInt32 := doubleWordIn <$> leading 4 bs

/-- A double word whose low byte comes first. -/
def word32Low (bs : List UInt8) : Except DecodeError UInt32 := do
  let b ← leading 4 bs
  return doubleWordIn b.reverse

/-- A number of one to four bytes, high byte first. -/
def number (bs : List UInt8) : Except DecodeError UInt32 :=
  if bs.isEmpty ∨ 4 < bs.length then .error (.shortField 4 bs.length) else .ok (bigEndian bs)

def calibration (bs : List UInt8) : Except DecodeError (Calibration Float) :=
  .ofBytes <$> leading 4 bs

def rxPowerCalibration (bs : List UInt8) : Except DecodeError RxPowerCalibration :=
  .ofBytes <$> leading RxPowerCalibration.size bs

def sfpCompliance (bs : List UInt8) : Except DecodeError ComplianceCode :=
  .ofSfp <$> leading 8 bs

def qsfpCompliance (bs : List UInt8) : Except DecodeError ComplianceCode :=
  .ofQsfp <$> leading 8 bs

def mailboxStatus (b : UInt8) : Except DecodeError MailboxStatus :=
  match MailboxStatus.ofByte? b with
  | some s => .ok s
  | none => .error .invalidBitField

/-- The grid in a capability block of any length. -/
def grid (bs : List UInt8) (support : UInt8) : Except DecodeError (Grid Float) := do
  match Grid.ofBlock (← leading 10 bs) support with
  | .ok g => return g
  | .error (min, max) => throw (.invalidCapability min max)

end Checked

end Transceiver
