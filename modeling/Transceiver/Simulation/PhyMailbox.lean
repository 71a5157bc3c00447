import Transceiver.Mailbox.Packet
import Transceiver.Mailbox.Status

/-!
# A mailbox with a PHY behind it

A packet is carried out when it arrives; for a number of reads after that the status is idle, as if
it took that long.  One packet can be made to fail.
-/

namespace Transceiver

/-- The registers of a PHY that were ever written, by memory and register. -/
abbrev RegisterFile := UInt8 → UInt16 → Option UInt16

namespace RegisterFile

def blank : RegisterFile := fun _ _ ↦ none

/-- The word of a register; one that was never written holds zero. -/
def value (f : RegisterFile) (memory : UInt8) (register : UInt16) : UInt16 :=
  (f memory register).getD 0

def set (f : RegisterFile) (memory : UInt8) (register value : UInt16) : RegisterFile :=
  fun m r ↦ if m = memory ∧ r = register then some value else f m r

@[simp] theorem set_self (f : RegisterFile) (m : UInt8) (r v : UInt16) :
    f.set m r v m r = some v := by simp [set]

theorem set_of_ne {m m' : UInt8} {r r' : UInt16} (f : RegisterFile) (v : UInt16)
    (h : ¬(m' = m ∧ r' = r)) : f.set m r v m' r' = f m' r' := if_neg h

end RegisterFile

/-- The mailbox of a simulated module. -/
structure PhyMailbox where
  registers : RegisterFile
  /-- The packets received, in order. -/
  packets : List Packet
  /-- How often the status reads as idle after a packet. -/
  busyPolls : Nat
  /-- How often it will still do so. -/
  remaining : Nat
  /-- The packet that fails, counted from zero. -/
  failing : Option Nat
  status : MailboxStatus

namespace PhyMailbox

def blank : PhyMailbox := ⟨.blank, [], 0, 0, none, .idle⟩

/-- Take in a packet, and return the word that it reads. -/
def submit (b : PhyMailbox) (p : Packet) : Option UInt16 × PhyMailbox :=
  let received := { b with packets := b.packets ++ [p], remaining := b.busyPolls }
  if b.failing = some b.packets.length then (none, { received with status := .failed })
  else
    match p.op with
    | .read => (some (b.registers.value p.memory p.offset), { received with status := .done })
    | .write =>
      (none, { received with
        status := .done
        registers := b.registers.set p.memory p.offset p.data })

/-- The status byte that is read next. -/
def statusByte (b : PhyMailbox) : UInt8 :=
  (if b.remaining = 0 then b.status else .idle).toByte

/-- The mailbox after its status was read. -/
def polled (b : PhyMailbox) : PhyMailbox := { b with remaining := b.remaining - 1 }

end PhyMailbox

end Transceiver
