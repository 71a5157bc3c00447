import Transceiver.Text.Filled
import Transceiver.Text.Table

/-!
# Pages of a manual

A page says what a thing is about, how it is called, and what its parts are.  Parts are listed with
what is said of them beside them, or beneath them and apart from each other.
-/

namespace Transceiver.Admin

/-- A part, and what is said of it. -/
structure Entry where
  label : String
  about : String
  note : String
deriving DecidableEq, Repr

/-- How parts are listed. -/
inductive Listing where
  | beside
  | beneath
deriving DecidableEq, Repr

/-- Parts of one kind. -/
structure Section where
  title : String
  entries : List Entry
  listing : Listing
deriving DecidableEq, Repr

structure HelpPage where
  /-- Paragraphs of text. -/
  about : List String
  /-- How the program is called. -/
  call : String
  sections : List Section
deriving DecidableEq, Repr

/-- The width of a page. -/
def HelpPage.width : Nat := 100

/-- Lines behind an indent, except that the first goes on where it is. -/
def indented (indent : Nat) (lines : List String) : String :=
  ("\n" ++ Text.padRight indent "").intercalate lines

namespace Entry

/-- What is said of a part, in one paragraph. -/
def text (e : Entry) : String :=
  if e.about = "" then e.note else if e.note = "" then e.about else e.about ++ " " ++ e.note

/-- What is said of a part beside it, in a column of a given width. -/
def beside (column : Nat) (e : Entry) : String :=
  let indent := column + 4
  "  " ++ Text.padRight (column + 2) e.label ++
    indented indent (Text.fill (HelpPage.width - indent) e.text)

/-- What is said of a part beneath it, with a note in a paragraph of its own. -/
def beneath (e : Entry) : String :=
  let indent := 10
  let lines := Text.fill (HelpPage.width - indent)
  "  " ++ e.label ++ "\n" ++ Text.padRight indent "" ++
    indented indent (lines e.about ++ if e.note = "" then [] else "" :: lines e.note)

end Entry

namespace Section

def text (s : Section) : String :=
  let body :=
    match s.listing with
    | .beside =>
      let column := Text.widest (s.entries.map Entry.label)
      "\n".intercalate (s.entries.map (Entry.beside column))
    | .beneath => "\n\n".intercalate (s.entries.map Entry.beneath)
  s.title ++ ":\n" ++ body

end Section

namespace HelpPage

def text (p : HelpPage) : String :=
  let about := p.about.map fun paragraph ↦ "\n".intercalate (Text.fill width paragraph)
  "\n\n".intercalate (about ++ ("Usage: " ++ p.call) :: p.sections.map Section.text) ++ "\n"

end HelpPage

end Transceiver.Admin
