import Transceiver.Bus
import Transceiver.MemoryMap.Qsfp
import Transceiver.Selection

/-!
# Paged module memory

An access names a device, a page and an offset.  When the module is paged, the page is selected
for the access and page zero after it, whatever the access returned; otherwise the memory is
accessed as it is.  All accesses take place in a session, while the module is selected.
-/

namespace Transceiver

/-- How a module advertises pages. -/
inductive PagingScheme where
  /-- Paged unless the flat memory bit is set. -/
  | sff8636
  /-- The diagnostic memory is paged when the options of the serial ID say so. -/
  | sff8472
  /-- Never paged. -/
  | flat
deriving DecidableEq, Repr

instance : Enumeration PagingScheme where
  members := [.sff8636, .sff8472, .flat]
  name | .sff8636 => "Sff8636" | .sff8472 => "Sff8472" | .flat => "Flat"

/-- The memory of the module in a cage. -/
structure Eeprom where
  address : UInt8
  selector : Selector
  settleTime : Duration
  scheme : PagingScheme
  /-- Tells whether there is a module to be selected. -/
  presence : Option Line
deriving DecidableEq, Repr

/-- A module during a session. -/
structure Selected where
  address : UInt8
  scheme : PagingScheme
deriving DecidableEq, Repr

/-- The number of bytes behind a device address. -/
def addressSpace : Nat := 256

namespace Selected

/-- Whether the module is paged. -/
def pagingSupported (m : Selected) : Procedure Bool :=
  match m.scheme with
  | .sff8636 => do
    let status ← Bus.readByte m.address QsfpMap.status
    return !hasBit status QsfpMap.flatMemoryBit
  | .sff8472 => do
    let options ← Bus.readByte serialDevice SfpMap.options
    return hasBit options SfpMap.pagingBit
  | .flat => return false

def selectPage (device page : UInt8) : Procedure Unit :=
  Bus.writeByte device QsfpMap.pageSelect page

/-- Run a procedure with a page selected, then go back to page zero.  A failure to go back is
reported and nothing more. -/
def onPage {α : Type} (device page : UInt8) (body : Procedure α) : Procedure α := .mk do
  match ← (selectPage device page).run with
  | .error e => return .error e
  | .ok () =>
    let r ← body.run
    match ← (selectPage device 0).run with
    | .ok () => return r
    | .error e =>
      report .warning "failed to restore default page"
        [("device", toString device), ("reason", e.wording)]
      return r

/-- Refuse accesses beyond the end of a device. -/
def checkRange (a : Address) (length : Nat) : Except Error Unit :=
  if addressSpace < a.offset.toNat + length then
    .error (.invalidArgument ("access of " ++ toString length ++ " bytes at " ++ a.text ++
      " runs past the end of the device"))
  else .ok ()

/-- Run an access on the device of an address, with its page selected if there are pages. -/
def paged {α : Type} (m : Selected) (a : Address) (body : UInt8 → Procedure α) :
    Procedure α := do
  let device := a.device.resolve m.address
  match a.page with
  | .ignore => body device
  | .select page =>
    if ← m.pagingSupported then onPage device page (body device)
    else
      report .debug "paging not supported, accessing unpaged"
        [("page", toString page), ("offset", toString a.offset)]
      body device

def read (m : Selected) (a : Address) (length : Nat) : Procedure (Vector UInt8 length) := do
  checkRange a length
  m.paged a fun device ↦ Bus.read device a.offset length

def write (m : Selected) (a : Address) (data : List UInt8) : Procedure Unit := do
  checkRange a data.length
  m.paged a fun device ↦ Bus.write device a.offset data

def readByte (m : Selected) (a : Address) : Procedure UInt8 := do
  let b ← m.read a 1
  return byteIn b

def writeByte (m : Selected) (a : Address) (value : UInt8) : Procedure Unit := m.write a [value]

/-- Read a word, high byte first. -/
def readWord (m : Selected) (a : Address) : Procedure UInt16 := do
  let b ← m.read a 2
  return wordIn b

/-- Read a byte of the configured device, whatever page is selected. -/
def lowerByte (m : Selected) (offset : UInt8) : Procedure UInt8 := m.readByte (.unpaged offset)

/-- Change a byte, without a write when it stays as it is, and return what it is then. -/
def modify (m : Selected) (a : Address) (f : UInt8 → Except Error UInt8) : Procedure UInt8 := do
  let old ← m.readByte a
  let new ← f old
  if new ≠ old then m.writeByte a new
  return new

end Selected

namespace Eeprom

/-- Run a procedure on the selected module.  Without a module nothing is selected. -/
def session {α : Type} (e : Eeprom) (body : Selected → Procedure α) : Procedure α := do
  if let some line := e.presence then
    unless ← line.read do throw .notPresent
  e.selector.during do
    settle e.settleTime
    body ⟨e.address, e.scheme⟩

def read (e : Eeprom) (a : Address) (length : Nat) : Procedure (Vector UInt8 length) :=
  e.session fun m ↦ m.read a length

def write (e : Eeprom) (a : Address) (data : List UInt8) : Procedure Unit :=
  e.session fun m ↦ m.write a data

end Eeprom

end Transceiver
