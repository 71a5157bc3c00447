import Transceiver.Admin.Manual
import Transceiver.Admin.Report
import Transceiver.Attributes
import Transceiver.Simulation.Bench
import Transceiver.Simulation.Modules
import Transceiver.Trace

/-!
# Carrying out requests

A request becomes a cage with a bench around it.  The module is looked for and prepared before a
command that needs it.
-/

namespace Transceiver.Admin

/-- What could not be done, and the causes, outermost first. -/
structure Failure where
  task : String
  causes : List String
deriving DecidableEq, Repr

namespace Failure

/-- An error by itself. -/
def ofError (e : Error) : Failure := ⟨e.wording, e.causes⟩

/-- An error of a task. -/
def during (task : String) (e : Error) : Failure := ⟨task, e.wording :: e.causes⟩

/-- A text whose lines after the first start with `indent`. -/
def hanging (indent : String) (s : String) : String :=
  String.join (s.toList.map fun c ↦ if c = '\n' then "\n" ++ indent else c.toString)

/-- A cause with its number. -/
def numbered (n : Nat) (cause : String) : String :=
  "\n    " ++ toString n ++ ": " ++ hanging "       " cause

/-- The report of a failure; several causes are numbered. -/
def report (f : Failure) : String :=
  "Error: " ++ f.task ++
    match f.causes with
    | [] => ""
    | [cause] => "\n\nCaused by:\n    " ++ hanging "    " cause
    | causes =>
      "\n\nCaused by:" ++ String.join (causes.zipIdx.map fun (cause, n) ↦ numbered n cause)

end Failure

/-- The value of an operation that serves a task. -/
def serving {α : Type} (task : String) : Except Error α → Except Failure α
  | .ok a => .ok a
  | .error e => .error (.during task e)

/-! ## Set-up -/

namespace Simulated

def family : Simulated → Family
  | .sfp | .tunableSfp => .sfp
  | .qsfp28 => .qsfp
  | .qsfpDD => .qsfpDD

/-- A segment with the module. -/
def segment : Simulated → Segment
  | .sfp => Segment.blank.addSfp
  | .tunableSfp => Segment.blank.addTunableSfp
  | .qsfp28 => Segment.blank.addQsfp28 serialDevice
  | .qsfpDD => Segment.blank.addQsfpDD serialDevice DoubleDensity.revision3

/-- The attributes that a cage gets when nothing else is said. -/
def attributes (m : Simulated) : List (String × String) :=
  [("mod_sel_bus", alwaysEnabled), ("mod_pres_bus", "present"), ("mod_pres_bitmask", "0")] ++
    if m = .qsfpDD then [("port_type", PortType.qsfpDD1.name)] else []

end Simulated

/-- The pin group of the presence line of a simulated module, which is set. -/
def presentPin : String × String := ("present", "1")

/-- Put a name and its value in the place that the order of names gives it, unless the name is
taken. -/
def insertSorted (entry : String × String) : List (String × String) → List (String × String)
  | [] => [entry]
  | e :: es =>
    if entry.1 < e.1 then entry :: e :: es
    else if entry.1 = e.1 then e :: es
    else e :: insertSorted entry es

/-- Pin groups in the order of their names, each with what was said last about it. -/
def Request.pinGroups (r : Request) : List (String × String) :=
  let given := r.pins.reverse ++ if r.simulated.isSome then [presentPin] else []
  given.foldl (fun sorted entry ↦ insertSorted entry sorted) []

/-- The attributes, what was said last first. -/
def Request.attributeEntries (r : Request) : List (String × String) :=
  r.attributes.reverse ++ ((r.simulated.map Simulated.attributes).getD [])

/-- The levels of pin groups. -/
def pinLevel (entry : String × String) : Except Failure (String × UInt32) :=
  match readMarked 0xffffffff entry.2 with
  | .ok level => .ok (entry.1, .ofNat level)
  | .error fault =>
    .error ⟨"invalid level for pin group '" ++ entry.1 ++ "'", [fault.wording]⟩

/-- Groups with names and levels in order. -/
def pinBench (levels : List (String × UInt32)) (segment : Segment) : Registry × Bench :=
  (⟨levels.zipIdx.map fun (entry, id) ↦ ⟨entry.1, id⟩⟩,
    ⟨segment, fun id ↦ .ofLevel ((levels[id]?.map Prod.snd).getD 0)⟩)

/-- The family of the cage. -/
def Request.cageFamily (r : Request) : Except Failure Family :=
  match r.family, r.simulated with
  | some family, _ => .ok family
  | none, some m => .ok m.family
  | none, none => .error ⟨"a driver family is required without --sim", []⟩

/-- The bus.  Adapters of the system are out of reach. -/
def Request.bus (r : Request) : Except Failure Segment :=
  match r.simulated, r.adapter with
  | some m, _ => .ok m.segment
  | none, some n =>
    .error ⟨"failed to open I2C adapter " ++ toString n,
      ["I/O error", "No such file or directory (os error 2)"]⟩
  | none, none => .error ⟨"one of --adapter or --sim is required", []⟩

/-- The resource that a request is about, and the bench around it. -/
def Request.setUp (r : Request) : Except Failure (Resource Driver × Bench) := do
  let family ← r.cageFamily
  let levels ← r.pinGroups.mapM pinLevel
  let (registry, bench) := pinBench levels .blank
  let cage ← serving "invalid device attributes"
    (Cage.ofAttributes "xcvr" family ⟨r.attributeEntries, registry⟩)
  let segment ← r.bus
  return (.ofCage cage, { bench with segment := segment })

/-! ## Commands -/

variable {δ : Type} [MediaControl δ]

/-- A program that may fail at its task. -/
abbrev Task (α : Type) := ExceptT Failure Program α

/-- An operation that serves a task. -/
def attempt (r : Resource δ) (task : String) (op : Operation) : Task op.Answer := .mk do
  return serving task (← Report.query r op)

/-- Lines, each with its end. -/
def unlines (lines : List String) : String := String.join (lines.map (· ++ "\n"))

/-- The table of a report. -/
def tableText (rows : List Text.Row) : String := unlines (Text.table ⟨"Field", "Value"⟩ rows)

/-- The address of an access. -/
def target (offset : UInt8) (page device : Option UInt8) : Address where
  device := (device.map .explicit).getD .auto
  page := (page.map .select).getD .ignore
  offset := offset

/-- Bytes in lines of sixteen, each behind its offset. -/
def dump (offset : Nat) (bytes : List UInt8) : List String :=
  match bytes with
  | [] => []
  | b :: bs =>
    (Text.hex 2 offset ++ ": " ++ " ".intercalate (((b :: bs).take 16).map Text.hexByte)) ::
      dump (offset + 16) (bs.drop 15)
termination_by bytes.length
decreasing_by simp only [List.length_drop, List.length_cons]; omega

/-- What a command prints about a module that is ready. -/
def Command.text (r : Resource δ) : Command → Task String
  | .presence => return ""
  | .identity => do return tableText (← Report.identity r)
  | .monitors => do return tableText (← Report.monitors r)
  | .thresholds => do return tableText (← Report.thresholds r)
  | .read offset length page device => do
    let a := target offset page device
    let bytes ← attempt r ("failed to read " ++ toString length ++ " bytes at " ++ a.text)
      (.readGeneric a length.toNat)
    return unlines (dump offset.toNat bytes.toList)
  | .write offset data page device => do
    let a := target offset page device
    attempt r ("failed to write " ++ toString data.length ++ " bytes at " ++ a.text)
      (.writeGeneric a data)
    return ""
  | .tx channel on => do
    attempt r ("failed to set transmitter of channel " ++ toString channel)
      (.txControl channel on)
    match ← Report.query r (.txControlStatus channel) with
    | .ok enabled =>
      return unlines ["channel " ++ toString channel ++ ": " ++ if enabled then "on" else "off"]
    | .error e => throw (.ofError e)
  | .wavelength nm => do
    attempt r ("failed to tune to " ++ Decimal.shortest nm ++ " nm") (.wavelengthSet nm)
    return ""

/-- What a command prints about a cage.  All but a look for the module need it. -/
def Command.output (r : Resource δ) (c : Command) : Task String := do
  let present ← attempt r "failed to read presence" .presence
  if let .presence := c then return if present then "present\n" else "absent\n"
  unless present do throw ⟨"no module present", []⟩
  match ← r.call (.moduleInit true) with
  | (.ok (), r) => c.text r
  | (.error e, _) => throw (.during "failed to initialize module" e)

/-! ## Outcomes -/

/-- How a run ends. -/
structure Outcome where
  exitCode : UInt8
  output : String
  /-- The report of a failure. -/
  failure : Option String
  /-- The records of the log to show. -/
  log : List Record
deriving DecidableEq, Repr

/-- Carry out a request. -/
def Request.run (r : Request) : Outcome :=
  match r.setUp with
  | .error f => ⟨1, "", some f.report, []⟩
  | .ok (resource, bench) =>
    let (result, trace, _) := (r.command.output resource).run.run Bench.answer bench
    let log := (Trace.records trace).filter fun record ↦ record.severity.passes r.logLevel
    match result with
    | .ok output => ⟨0, output, none, log⟩
    | .error f => ⟨1, "", some f.report, log⟩

/-- Carry out command line arguments. -/
def run (args : List String) : Outcome :=
  match Request.ofArguments args with
  | .ok r => r.run
  | .error (.help verb full) => ⟨0, (Manual.page verb full).text, none, []⟩
  | .error .version => ⟨0, unlines [Manual.version], none, []⟩
  | .error .misuse => ⟨2, "", some ("Usage: " ++ Manual.programCall), []⟩

end Transceiver.Admin
