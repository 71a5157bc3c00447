import Transceiver.MemoryMap.Qsfp
import Transceiver.Simulation.PhyMailbox

/-!
# Simulated module memory

The lower half of a device is always there; the upper half shows the page that a byte of the lower
half selects.  A module may have a mailbox in its last bytes.
-/

namespace Transceiver

/-- Where the upper half of a device starts. -/
def upperHalf : UInt8 := 128

/-- The bytes of a module, and its mailbox. -/
structure ModuleMemory where
  /-- The bytes by page and offset; those of the lower half are on page zero. -/
  cell : UInt8 → UInt8 → UInt8
  mailbox : Option PhyMailbox

namespace ModuleMemory

/-- A module of zeros. -/
def blank : ModuleMemory := ⟨fun _ _ ↦ 0, none⟩

/-- The page that holds the byte at an offset while `page` is selected. -/
def home (page offset : UInt8) : UInt8 := if offset < upperHalf then 0 else page

/-- The byte at an offset while `page` is selected. -/
def get (m : ModuleMemory) (page offset : UInt8) : UInt8 := m.cell (home page offset) offset

def set (m : ModuleMemory) (page offset value : UInt8) : ModuleMemory :=
  { m with cell := fun p o ↦ if p = home page offset ∧ o = offset then value else m.cell p o }

@[simp] theorem get_set_self (m : ModuleMemory) (page offset value : UInt8) :
    (m.set page offset value).get page offset = value := by simp [get, set]

theorem get_set_of_ne {page offset page' offset' : UInt8} (m : ModuleMemory) (value : UInt8)
    (h : ¬(home page' offset' = home page offset ∧ offset' = offset)) :
    (m.set page offset value).get page' offset' = m.get page' offset' := if_neg h

/-- The page in the upper half. -/
def currentPage (m : ModuleMemory) : UInt8 := m.get 0 QsfpMap.pageSelect

/-- Put bytes in a row on a page, as far as the device reaches. -/
def fill (m : ModuleMemory) (page : UInt8) : (offset : Nat) → List UInt8 → ModuleMemory
  | _, [] => m
  | offset, b :: bs =>
    if offset < 256 then (m.set page (.ofNat offset) b).fill page (offset + 1) bs else m

/-- The bytes of a page from an offset on, as far as the device reaches. -/
def row (m : ModuleMemory) (page offset : UInt8) (length : Nat) : List UInt8 :=
  (List.range (min length (256 - offset.toNat))).map fun i ↦
    m.get page (.ofNat (offset.toNat + i))

/-! ## Transactions -/

/-- The byte that a transaction reads while `page` is selected. -/
def fetch (m : ModuleMemory) (page offset : UInt8) : UInt8 :=
  match m.mailbox with
  | some b => if offset = mailboxStatusOffset then b.statusByte else m.get page offset
  | none => m.get page offset

/-- The bytes that a transaction reads; there are only zeros past the end. -/
def read (m : ModuleMemory) (offset : UInt8) (length : Nat) : Vector UInt8 length :=
  .ofFn fun i ↦
    if offset.toNat + i < 256 then m.fetch m.currentPage (.ofNat (offset.toNat + i)) else 0

/-- The module after a read, which counts if it reached the status of the mailbox. -/
def afterRead (m : ModuleMemory) (offset : UInt8) (length : Nat) : ModuleMemory :=
  if mailboxStatusOffset.toNat < offset.toNat + length then
    { m with mailbox := m.mailbox.map PhyMailbox.polled }
  else m

/-- Store bytes in a row, but for those at discarded offsets.  Each goes to the page that is
selected by then. -/
def store (m : ModuleMemory) (discards : UInt8 → Bool) :
    (offset : Nat) → List UInt8 → ModuleMemory
  | _, [] => m
  | offset, b :: bs =>
    if offset < 256 then
      let o : UInt8 := .ofNat offset
      (if discards o then m else m.set m.currentPage o b).store discards (offset + 1) bs
    else m

/-- Put the word that a packet read where it is found. -/
def deliver (m : ModuleMemory) (word : UInt16) : ModuleMemory :=
  (m.set m.currentPage resultOffset (highByte word)).set m.currentPage (resultOffset + 1)
    (lowByte word)

/-- Hand a packet to the mailbox, if there is one. -/
def post (m : ModuleMemory) (p : Packet) : ModuleMemory :=
  match m.mailbox with
  | none => m
  | some b =>
    match b.submit p with
    | (some word, b) => { m with mailbox := some b }.deliver word
    | (none, b) => { m with mailbox := some b }

/-- The packet in a write, if the write is one. -/
def packet? (offset : UInt8) (data : List UInt8) : Option Packet :=
  if offset = packetOffset ∧ data.length = Packet.size then (Packet.decode data).toOption
  else none

/-- The module after a write. -/
def write (m : ModuleMemory) (discards : UInt8 → Bool) (offset : UInt8) (data : List UInt8) :
    ModuleMemory :=
  let stored := m.store discards offset.toNat data
  match packet? offset data with
  | some p => stored.post p
  | none => stored

end ModuleMemory

end Transceiver
