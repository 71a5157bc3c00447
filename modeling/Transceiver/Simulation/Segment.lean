import Transceiver.Program
import Transceiver.Simulation.Memory

/-!
# A simulated bus segment

Devices are module memories, or banks of words such as PHYs and muxes have.  Transactions that
touch certain bytes can be made to fail, and writes to others to be lost.
-/

namespace Transceiver

/-- A bank of words, of those that were ever written. -/
abbrev RegisterBank := UInt8 → Option UInt16

namespace RegisterBank

def blank : RegisterBank := fun _ ↦ none

def set (b : RegisterBank) (register : UInt8) (value : UInt16) : RegisterBank :=
  fun r ↦ if r = register then some value else b r

/-- The bytes that a transaction reads: the low byte alone, or the word and zeros. -/
def read (b : RegisterBank) (register : UInt8) (length : Nat) : Vector UInt8 length :=
  let value := (b register).getD 0
  .ofFn fun i ↦
    if length = 1 ∨ i.val = 1 then lowByte value else if i.val = 0 then highByte value else 0

/-- The bank after a write of a byte or of a word; what follows the word is lost. -/
def write (b : RegisterBank) (register : UInt8) : List UInt8 → RegisterBank
  | [] => b
  | [lo] => b.set register lo.toUInt16
  | hi :: lo :: _ => b.set register (word16 hi lo)

end RegisterBank

/-- What answers at an address. -/
inductive Device where
  | memory (m : ModuleMemory)
  | registers (bank : RegisterBank)

/-- A byte behind an address. -/
structure Spot where
  address : UInt8
  offset : UInt8
deriving DecidableEq, Repr

/-- The bytes that transactions go wrong at. -/
structure Faults where
  reads : List Spot
  writes : List Spot
  /-- Writes to these are acknowledged and lost. -/
  discards : List Spot
deriving DecidableEq, Repr

/-- Whether a transaction touches one of some bytes. -/
def touches (spots : List Spot) (address offset : UInt8) (length : Nat) : Bool :=
  spots.any fun s ↦
    s.address = address ∧ offset ≤ s.offset ∧ s.offset.toNat < offset.toNat + length

/-- A bus segment. -/
structure Segment where
  device? : UInt8 → Option Device
  faults : Faults

namespace Segment

def blank : Segment := ⟨fun _ ↦ none, ⟨[], [], []⟩⟩

/-! ## Transactions -/

/-- Replace what answers at an address. -/
def setDevice (s : Segment) (address : UInt8) (d : Option Device) : Segment :=
  { s with device? := fun a ↦ if a = address then d else s.device? a }

def read (s : Segment) (address offset : UInt8) (length : Nat) :
    Except BusFault (Vector UInt8 length) × Segment :=
  if touches s.faults.reads address offset length then (.error .notAcknowledged, s)
  else
    match s.device? address with
    | none => (.error .notAcknowledged, s)
    | some (.memory m) =>
      (.ok (m.read offset length), s.setDevice address (some (.memory (m.afterRead offset length))))
    | some (.registers bank) => (.ok (bank.read offset length), s)

/-- Whether a write to a byte is lost. -/
def discards (s : Segment) (address offset : UInt8) : Bool :=
  s.faults.discards.contains ⟨address, offset⟩

def write (s : Segment) (address offset : UInt8) (data : List UInt8) :
    Except BusFault Unit × Segment :=
  if touches s.faults.writes address offset data.length then (.error .notAcknowledged, s)
  else
    match s.device? address with
    | none => (.error .notAcknowledged, s)
    | some (.memory m) =>
      (.ok (), s.setDevice address (some (.memory (m.write (s.discards address) offset data))))
    | some (.registers bank) =>
      (.ok (), s.setDevice address (some (.registers (bank.write offset data))))

/-! ## Set-up -/

def addModule (s : Segment) (address : UInt8) : Segment :=
  s.setDevice address (some (.memory .blank))

def addRegisters (s : Segment) (address : UInt8) : Segment :=
  s.setDevice address (some (.registers .blank))

def remove (s : Segment) (address : UInt8) : Segment := s.setDevice address none

/-- The module at an address. -/
def module? (s : Segment) (address : UInt8) : Option ModuleMemory :=
  match s.device? address with
  | some (.memory m) => some m
  | _ => none

def bank? (s : Segment) (address : UInt8) : Option RegisterBank :=
  match s.device? address with
  | some (.registers b) => some b
  | _ => none

def mailbox? (s : Segment) (address : UInt8) : Option PhyMailbox :=
  (s.module? address).bind ModuleMemory.mailbox

/-- Change the module at an address, if there is one. -/
def mapModule (s : Segment) (address : UInt8) (f : ModuleMemory → ModuleMemory) : Segment :=
  match s.module? address with
  | some m => s.setDevice address (some (.memory (f m)))
  | none => s

def mapMailbox (s : Segment) (address : UInt8) (f : PhyMailbox → PhyMailbox) : Segment :=
  s.mapModule address fun m ↦ { m with mailbox := m.mailbox.map f }

def attachMailbox (s : Segment) (address : UInt8) : Segment :=
  s.mapModule address fun m ↦ { m with mailbox := some .blank }

/-- Put bytes on a page of a module. -/
def poke (s : Segment) (address page offset : UInt8) (data : List UInt8) : Segment :=
  s.mapModule address fun m ↦ m.fill page offset.toNat data

/-- The bytes of a page of a module. -/
def peek (s : Segment) (address page offset : UInt8) (length : Nat) : List UInt8 :=
  ((s.module? address).map fun m ↦ m.row page offset length).getD []

def currentPage (s : Segment) (address : UInt8) : UInt8 :=
  ((s.module? address).map ModuleMemory.currentPage).getD 0

def setRegister (s : Segment) (address register : UInt8) (value : UInt16) : Segment :=
  match s.bank? address with
  | some b => s.setDevice address (some (.registers (b.set register value)))
  | none => s

def register? (s : Segment) (address register : UInt8) : Option UInt16 :=
  (s.bank? address).bind fun b ↦ b register

def failReads (s : Segment) (spot : Spot) : Segment :=
  { s with faults := { s.faults with reads := spot :: s.faults.reads } }

def failWrites (s : Segment) (spot : Spot) : Segment :=
  { s with faults := { s.faults with writes := spot :: s.faults.writes } }

def discardWrites (s : Segment) (spot : Spot) : Segment :=
  { s with faults := { s.faults with discards := spot :: s.faults.discards } }

def clearFaults (s : Segment) : Segment := { s with faults := ⟨[], [], []⟩ }

end Segment

end Transceiver
