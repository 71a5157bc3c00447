import Transceiver.Admin.Arguments
import Transceiver.Cage
import Transceiver.Decimal.Reader
import Transceiver.Log
import Transceiver.Text.Number

/-!
# Requests of an administrator

A request names a cage, by its family and attributes, a bus or a simulated module, and a command.
-/

namespace Transceiver.Admin

/-- A module to simulate. -/
inductive Simulated where
  | sfp | tunableSfp | qsfp28 | qsfpDD
deriving DecidableEq, Repr

instance : Enumeration Simulated where
  members := [.sfp, .tunableSfp, .qsfp28, .qsfpDD]
  name
    | .sfp => "sfp" | .tunableSfp => "tunable-sfp" | .qsfp28 => "qsfp28" | .qsfpDD => "qsfp-dd"

/-- What to do with a module. -/
inductive Command where
  | presence
  | identity
  | monitors
  | thresholds
  | read (offset length : UInt8) (page device : Option UInt8)
  | write (offset : UInt8) (data : List UInt8) (page device : Option UInt8)
  | tx (channel : UInt8) (on : Bool)
  | wavelength (nm : Float)
deriving Repr

structure Request where
  family : Option Family
  /-- The number of a bus adapter. -/
  adapter : Option Nat
  simulated : Option Simulated
  attributes : List (String × String)
  /-- Pin groups with the text of their levels. -/
  pins : List (String × String)
  /-- The least severe records to show. -/
  logLevel : Severity
  command : Command
deriving Repr

/-! ## Values -/

/-- The value that a reader takes. -/
def accept {α : Type} : Option α → Except Refusal α
  | some a => .ok a
  | none => .error .misuse

/-- A decimal number of at most `limit`, or a negative zero. -/
def readNumber (limit : Nat) (s : String) : Except Refusal Nat :=
  match s.toList with
  | ['-'] => .error .misuse
  | '-' :: cs => accept (Text.readDigits 10 0 0 cs).toOption
  | cs => accept (Text.readUnsigned 10 limit cs).toOption

def readByte (s : String) : Except Refusal UInt8 := .ofNat <$> readNumber 0xff s

/-- An unsigned number, hexadecimal behind a mark. -/
def readMarked (limit : Nat) (s : String) : Except Text.NumberFault Nat :=
  match s.toList with
  | '0' :: 'x' :: cs => Text.readUnsigned 16 limit cs
  | cs => Text.readUnsigned 10 limit cs

/-- A byte, hexadecimal behind a mark. -/
def readMarkedByte (s : String) : Except Refusal UInt8 :=
  .ofNat <$> accept (readMarked 0xff s).toOption

/-- A key and a value around the first equals sign, without the blanks around them. -/
def readPair (s : String) : Except Refusal (String × String) :=
  let (key, rest) := s.toList.span (· ≠ '=')
  match rest with
  | [] => .error .misuse
  | _ :: value => .ok (String.ofList (Text.trimmed key), String.ofList (Text.trimmed value))

def readSwitch : String → Except Refusal Bool
  | "on" => .ok true
  | "off" => .ok false
  | _ => .error .misuse

/-! ## Commands -/

/-- What may be given once. -/
def once {α : Type} (old : Option α) (new : Except Refusal α) : Except Refusal (Option α) :=
  match old with
  | none => new.map some
  | some _ => .error .misuse

/-- What is read of an access to memory. -/
structure Access where
  values : List UInt8
  page : Option UInt8
  device : Option UInt8
deriving DecidableEq, Repr

namespace Access

/-- An access of which nothing has been read. -/
def blank : Access := ⟨[], none, none⟩

/-- Add a value. -/
def push (a : Access) (value : Except Refusal UInt8) : Except Refusal Access :=
  value.map fun b ↦ { a with values := a.values ++ [b] }

/-- The options of an access, with what is said of the page and of the device. -/
def choices (page device : String) : List (Choice Access) :=
  [{ long := "page", short := some 'p', value := "PAGE", about := page, note := ""
     take := fun s a ↦ (once a.page (readByte s)).map ({ a with page := · }) },
    { long := "device", short := some 'd', value := "DEVICE", about := device, note := ""
      take := fun s a ↦ (once a.device (readMarkedByte s)).map ({ a with device := · }) }]

/-- The arguments of a command that reads: an offset and a length. -/
def reading : Offer Access where
  choices := choices "The page to select, if the module is paged"
    "An explicit device address, such as 0x51"
  command := some (.read, fun s a ↦
    if a.values.length < 2 then a.push (readByte s) else .error .misuse)

/-- The arguments of a command that writes: an offset and bytes. -/
def writing : Offer Access where
  choices := choices "" ""
  command := some (.write, fun s a ↦
    a.push (if a.values.isEmpty then readByte s else readMarkedByte s))

end Access

namespace Command

/-- A command that takes no arguments. -/
def bare (verb : Verb) (c : Command) (args : List String) : Except Refusal Command :=
  Offer.readAll ⟨[], some (verb, fun _ _ ↦ .error .misuse)⟩ c args

/-- The arguments of a command that switches: a channel and a state. -/
def switching : Offer (Option UInt8 × Option Bool) where
  choices := []
  command := some (.tx, fun s given ↦
    match given with
    | (none, on) => (readByte s).map fun channel ↦ (some channel, on)
    | (channel, none) => (readSwitch s).map fun on ↦ (channel, some on)
    | _ => .error .misuse)

/-- The argument of a command that tunes. -/
def tuning : Offer (Option Float) where
  choices := []
  command := some (.wavelength, fun s nm ↦ once nm (accept (Decimal.readFloat? s.toList)))

/-- A command from its arguments. -/
def ofArguments (verb : Verb) (args : List String) : Except Refusal Command := do
  match verb with
  | .presence => bare verb .presence args
  | .identity => bare verb .identity args
  | .monitors => bare verb .monitors args
  | .thresholds => bare verb .thresholds args
  | .read =>
    match ← Access.reading.readAll .blank args with
    | ⟨[offset, length], page, device⟩ => return .read offset length page device
    | _ => throw .misuse
  | .write =>
    match ← Access.writing.readAll .blank args with
    | ⟨offset :: first :: others, page, device⟩ =>
      return .write offset (first :: others) page device
    | _ => throw .misuse
  | .tx =>
    match ← switching.readAll (none, none) args with
    | (some channel, some on) => return .tx channel on
    | _ => throw .misuse
  | .wavelength => return .wavelength (← accept (← tuning.readAll none args))
  | .help =>
    match args with
    | [] => throw (.help none true)
    | [name] => throw (.help (some (← accept (Enumeration.ofName? name))) true)
    | _ => throw .misuse

end Command

/-! ## Requests -/

/-- What is said in front of a command. -/
structure Settings where
  family : Option Family
  adapter : Option Nat
  simulated : Option Simulated
  attributes : List (String × String)
  pins : List (String × String)
  logLevel : Option Severity
deriving Repr

namespace Settings

/-- Settings of which nothing has been read. -/
def blank : Settings := ⟨none, none, none, [], [], none⟩

/-- What stands in front of a command. -/
def offer : Offer Settings where
  choices :=
    [{ long := "family", short := some 'f', value := "FAMILY"
       about := "The driver family of the cage: sfp, qsfp or qsfp-dd", note := ""
       take := fun s g ↦
         (once g.family (accept (Family.parse s).toOption)).map ({ g with family := · }) },
      { long := "adapter", short := some 'a', value := "ADAPTER"
        about := "The I2C adapter number, opened as /dev/i2c-N", note := ""
        take := fun s g ↦
          (once g.adapter (readNumber 0xffffffff s)).map ({ g with adapter := · }) },
      { long := "sim", short := none, value := "SIM"
        about := "Run against a simulated module instead of hardware"
        note := "[possible values: sfp, tunable-sfp, qsfp28, qsfp-dd]"
        take := fun s g ↦
          (once g.simulated (accept (Enumeration.ofName? s))).map ({ g with simulated := · }) },
      { long := "attr", short := some 'A', value := "ATTRS"
        about := "A device attribute, as key=value", note := ""
        take := fun s g ↦
          (readPair s).map fun entry ↦ { g with attributes := g.attributes ++ [entry] } },
      { long := "pins", short := some 'p', value := "PINS"
        about := "A strapped pin group and its level, as name=level", note := ""
        take := fun s g ↦ (readPair s).map fun entry ↦ { g with pins := g.pins ++ [entry] } },
      { long := "log-level", short := some 'l', value := "LOG_LEVEL"
        about := "The log-level", note := "[default: INFO]"
        take := fun s g ↦
          (once g.logLevel (accept (Severity.ofText? s))).map ({ g with logLevel := · }) }]
  command := none

end Settings

/-- The request that arguments make.  The command is read before the last setting is looked at. -/
def Request.ofArguments (args : List String) : Except Refusal Request := do
  let (settings, rest) ← Settings.offer.read (.ok .blank) args
  match rest with
  | [] => throw .misuse
  | name :: args =>
    let command ← Command.ofArguments (← accept (Enumeration.ofName? name)) args
    let g ← settings
    if g.adapter.isSome && g.simulated.isSome then throw .misuse
    return {
      family := g.family, adapter := g.adapter, simulated := g.simulated
      attributes := g.attributes, pins := g.pins
      logLevel := g.logLevel.getD .info, command }

end Transceiver.Admin
