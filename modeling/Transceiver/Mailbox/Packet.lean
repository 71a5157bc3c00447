import Transceiver.Address
import Transceiver.Bytes

/-!
# Mailbox packets

A packet asks a module to read or write one register of a PHY behind it.  It is six bytes: the
memory, the register and the data with their high bytes first, and the operation in the low two
bits of the last.
-/

namespace Transceiver

/-- Where a packet is written. -/
def packetOffset : UInt8 := 250

/-- Where the word read is found. -/
def resultOffset : UInt8 := 253

/-- Where the state of the last operation is found. -/
def mailboxStatusOffset : UInt8 := 255

inductive MailboxOp where
  | read
  | write
deriving DecidableEq, Repr

namespace MailboxOp

def code : MailboxOp → UInt8
  | .read => 1
  | .write => 2

/-- The operation in the low two bits of a byte. -/
def ofByte (b : UInt8) : Except MessageError MailboxOp :=
  if b &&& 0b11 = 1 then .ok .read
  else if b &&& 0b11 = 2 then .ok .write
  else .error (.invalidMailboxOp b)

def name : MailboxOp → String
  | .read => "Read"
  | .write => "Write"

end MailboxOp

/-- One register access of a PHY. -/
structure Packet where
  memory : UInt8
  offset : UInt16
  /-- The word to write, or the word read. -/
  data : UInt16
  op : MailboxOp
deriving DecidableEq, Repr

namespace Packet

/-- The number of bytes of a packet. -/
def size : Nat := 6

def read (memory : UInt8) (offset : UInt16) : Packet := ⟨memory, offset, 0, .read⟩

def write (memory : UInt8) (offset data : UInt16) : Packet := ⟨memory, offset, data, .write⟩

def encode (p : Packet) : List UInt8 :=
  [p.memory, highByte p.offset, lowByte p.offset, highByte p.data, lowByte p.data, p.op.code]

/-- The packet at the start of some bytes. -/
def decode : List UInt8 → Except MessageError Packet
  | m :: oh :: ol :: dh :: dl :: c :: _ => do
    return ⟨m, word16 oh ol, word16 dh dl, ← MailboxOp.ofByte c⟩
  | bs => .error (.tooShort size bs.length)

def text (p : Packet) : String :=
  let register := toString p.memory ++ "." ++ Text.hex 4 p.offset.toNat
  match p.op with
  | .read => "read " ++ register
  | .write => "write " ++ register ++ " <- " ++ Text.hex 4 p.data.toNat

@[simp] theorem length_encode (p : Packet) : p.encode.length = size := rfl

end Packet

end Transceiver
