import Transceiver.Admin.HelpPage
import Transceiver.Admin.Request

/-!
# The manual

One page for the program, in short and in full, and one for each command.
-/

namespace Transceiver.Admin

/-- The names of an option, in a column of its own if it has one for short. -/
def OptionLabel.text (o : OptionLabel) : String :=
  (match o.short with
    | some letter => "-" ++ letter.toString ++ ", "
    | none => "    ") ++ "--" ++ o.long ++ " <" ++ o.value ++ ">"

def OptionLabel.entry (o : OptionLabel) : Entry := ⟨o.text, o.about, o.note⟩

/-- The options that may be given in one place. -/
def Offer.entries {σ : Type} (o : Offer σ) : List Entry :=
  o.choices.map fun choice ↦ choice.toOptionLabel.entry

namespace Manual

/-- The call of the program. -/
def programCall : String := "xcvradm [OPTIONS] <COMMAND>"

/-- What the program is for, in short and in full. -/
def purpose (full : Bool) : List String :=
  if full then
    ["Administer pluggable transceiver modules.",
      "This tool drives one cage, either on a Linux I2C adapter or against a simulated module. " ++
        "The cage is described by the same attributes used in platform configuration, " ++
        "given as `-A key=value`."]
  else ["Administer pluggable transceiver modules"]

/-- The commands, each with what it does. -/
def commands : Section where
  title := "Commands"
  entries := (Enumeration.members : List Verb).map fun v ↦ ⟨Enumeration.name v, v.about, ""⟩
  listing := .beside

/-- The page of the program. -/
def program (full : Bool) : HelpPage where
  about := purpose full
  call := programCall
  sections :=
    [commands,
      { title := "Options"
        entries := Settings.offer.entries ++
          [⟨"-h, --help",
              if full then "Print help (see a summary with '-h')"
              else "Print help (see more with '--help')", ""⟩,
            ⟨"-V, --version", "Print version", ""⟩]
        listing := if full then .beneath else .beside }]

/-- The plain arguments of a command. -/
def plain : Verb → List Entry
  | .presence | .identity | .monitors | .thresholds => []
  | .read => [⟨"<OFFSET>", "", ""⟩, ⟨"<LEN>", "", ""⟩]
  | .write => [⟨"<OFFSET>", "", ""⟩, ⟨"<DATA>...", "", ""⟩]
  | .tx => [⟨"<CHANNEL>", "", ""⟩, ⟨"<STATE>", "", "[possible values: on, off]"⟩]
  | .wavelength => [⟨"<NM>", "", ""⟩]
  | .help => [⟨"[COMMAND]...", "Print help for the subcommand(s)", ""⟩]

/-- The options of a command, without the call for help. -/
def options : Verb → List Entry
  | .read => Access.reading.entries
  | .write => Access.writing.entries
  | _ => []

/-- The page of a command.  Help itself takes no options. -/
def command (verb : Verb) : HelpPage where
  about := [verb.about]
  call :=
    " ".intercalate
      (["xcvradm", Enumeration.name verb] ++
        (if (options verb).isEmpty then [] else ["[OPTIONS]"]) ++ (plain verb).map Entry.label)
  sections :=
    (if (plain verb).isEmpty then [] else [⟨"Arguments", plain verb, .beside⟩]) ++
      if verb = .help then []
      else [⟨"Options", options verb ++ [⟨"-h, --help", "Print help", ""⟩], .beside⟩]

/-- The page that is asked for.  Commands have one page each. -/
def page (verb : Option Verb) (full : Bool) : HelpPage :=
  match verb with
  | none => program full
  | some verb => command verb

/-- The name and the number of the version. -/
def version : String := "media-controller 0.1.0"

end Manual

end Transceiver.Admin
