import Transceiver.Eeprom
import Transceiver.Mailbox.Packet

/-!
# Exchanging packets with a mailbox

The packet is written as a whole, then the status is read until it tells an end, and a word read
is collected.  Only the status is asked for again, never the packet.
-/

namespace Transceiver

/-- How often and how long the status is asked for. -/
structure MailboxTiming where
  interval : Duration
  timeout : Duration
deriving DecidableEq, Repr

namespace MailboxTiming

def standard : MailboxTiming := ⟨.ofMillis 10, .ofMillis 100⟩

/-- The number of status reads before an operation is given up, counted in whole milliseconds. -/
def polls (t : MailboxTiming) : Nat :=
  if t.interval.isZero then 1
  else
    let step := max t.interval.millis 1
    max ((t.timeout.millis + step - 1) / step) 1

end MailboxTiming

namespace Mailbox

/-- Ask for the status until it tells an end, at most a number of times. -/
def await (m : Selected) (t : MailboxTiming) : Nat → Procedure Unit
  | 0 => throw (.timeout t.timeout)
  | n + 1 => do
    let b ← m.readByte (.diagnostic mailboxStatusOffset)
    match MailboxStatus.ofByte? b with
    | some .done => return
    | some .failed => throw (.protocol "mailbox reported an error status")
    | some .idle =>
      settle t.interval
      await m t n
    | none => throw (.protocol ("invalid mailbox status byte " ++ Text.hex 2 b.toNat))

/-- Run a packet, and return the word read or written. -/
def execute (m : Selected) (t : MailboxTiming) (p : Packet) : Procedure UInt16 := do
  report .trace "mailbox packet" [("packet", p.text)]
  m.write (.diagnostic packetOffset) p.encode
  await m t t.polls
  match p.op with
  | .write => return p.data
  | .read => m.readWord (.diagnostic resultOffset)

/-- Read a register. -/
def read (m : Selected) (t : MailboxTiming) (memory : UInt8) (offset : UInt16) :
    Procedure UInt16 :=
  execute m t (.read memory offset)

/-- Write a register. -/
def write (m : Selected) (t : MailboxTiming) (memory : UInt8) (offset data : UInt16) :
    Procedure Unit := do
  let _ ← execute m t (.write memory offset data)

/-- Run packets in order up to the first failure, counting from `index`. -/
def chainFrom (m : Selected) (t : MailboxTiming) (index : Nat) :
    List Packet → Program (List Packet × Except Error Unit)
  | [] => return ([], .ok ())
  | p :: ps => do
    match ← (execute m t p).run with
    | .ok data =>
      let (qs, r) ← chainFrom m t (index + 1) ps
      return ({ p with data := data } :: qs, r)
    | .error e =>
      report .error "mailbox chain failed"
        [("index", toString index), ("packet", p.text), ("reason", e.wording)]
      return (p :: ps, .error (.chainFailed index e))

/-- Run packets in order up to the first failure.  Those that ran hold their words, the others
stay as they are. -/
def chain (m : Selected) (t : MailboxTiming) (ps : List Packet) :
    Program (List Packet × Except Error Unit) := do
  let (qs, r) ← chainFrom m t 0 ps
  if let .ok () := r then
    report .debug "mailbox chain complete" [("packets", toString ps.length)]
  return (qs, r)

end Mailbox

end Transceiver
