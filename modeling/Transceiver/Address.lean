import Transceiver.Text.Hex

/-!
# Addresses in module memory

A byte is named by a device on the bus, a page of its upper memory and an offset.  Selectors come
as numbers in which `-1` leaves the choice to the module.
-/

namespace Transceiver

/-- The device of the serial ID, unless a cage says otherwise. -/
def serialDevice : UInt8 := 0x50

/-- The device of the diagnostics of an SFP module. -/
def diagnosticDevice : UInt8 := 0x51

/-- Why a text or number is no address, or bytes are no packet. -/
inductive MessageError where
  | invalidPage (page : Int)
  | invalidDevice (device : Int)
  | invalidMailboxOp (code : UInt8)
  | tooShort (needed actual : Nat)
deriving DecidableEq, Repr

/-- The wording of an error. -/
def MessageError.wording : MessageError → String
  | .invalidPage n => "Invalid page selector: " ++ toString n
  | .invalidDevice n => "Invalid device address selector: " ++ toString n
  | .invalidMailboxOp n => "Invalid mailbox operation code: " ++ Text.hex 2 n.toNat
  | .tooShort needed actual =>
    "Buffer too short: need " ++ toString needed ++ " bytes, have " ++ toString actual

/-- The device that an access goes to. -/
inductive DeviceSelector where
  /-- The device configured for the cage. -/
  | auto
  | explicit (address : UInt8)
deriving DecidableEq, Repr

namespace DeviceSelector

/-- A selector from a number: `-1`, or a seven bit address. -/
def ofInt (n : Int) : Except MessageError DeviceSelector :=
  if n = -1 then .ok .auto
  else if 0 ≤ n ∧ n ≤ 0x7f then .ok (.explicit (.ofNat n.toNat))
  else .error (.invalidDevice n)

/-- The device, where `configured` is that of the cage. -/
def resolve (configured : UInt8) : DeviceSelector → UInt8
  | .auto => configured
  | .explicit a => a

@[simp] theorem resolve_auto (c : UInt8) : resolve c .auto = c := rfl
@[simp] theorem resolve_explicit (c a : UInt8) : resolve c (.explicit a) = a := rfl

def text : DeviceSelector → String
  | .auto => "auto"
  | .explicit a => Text.hex 2 a.toNat

end DeviceSelector

/-- The page that an access goes to. -/
inductive PageSelector where
  /-- Whatever page is selected. -/
  | ignore
  | select (page : UInt8)
deriving DecidableEq, Repr

namespace PageSelector

/-- A selector from a number: `-1`, or a page. -/
def ofInt (n : Int) : Except MessageError PageSelector :=
  if n = -1 then .ok .ignore
  else if 0 ≤ n ∧ n ≤ 0xff then .ok (.select (.ofNat n.toNat))
  else .error (.invalidPage n)

def number? : PageSelector → Option UInt8
  | .ignore => none
  | .select n => some n

def text : PageSelector → String
  | .ignore => "ignore"
  | .select n => Text.hex 2 n.toNat

end PageSelector

/-- The place of a byte in the memory of a module. -/
structure Address where
  device : DeviceSelector
  page : PageSelector
  offset : UInt8
deriving DecidableEq, Repr

namespace Address

/-- An address from selector numbers; a bad device is reported before a bad page. -/
def ofSelectors (device page : Int) (offset : UInt8) : Except MessageError Address := do
  return ⟨← DeviceSelector.ofInt device, ← PageSelector.ofInt page, offset⟩

/-- A byte of the configured device, whatever page is selected. -/
def unpaged (offset : UInt8) : Address := ⟨.auto, .ignore, offset⟩

/-- A byte of a page of the configured device. -/
def paged (page offset : UInt8) : Address := ⟨.auto, .select page, offset⟩

/-- The same byte of an explicit device. -/
def onDevice (a : Address) (device : UInt8) : Address := { a with device := .explicit device }

/-- A byte of the diagnostic memory, whatever page is selected. -/
def diagnostic (offset : UInt8) : Address := (unpaged offset).onDevice diagnosticDevice

def text (a : Address) : String :=
  "device " ++ a.device.text ++ " page " ++ a.page.text ++ " offset " ++
    Text.hex 2 a.offset.toNat

end Address

end Transceiver
