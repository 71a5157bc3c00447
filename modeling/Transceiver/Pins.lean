import Transceiver.Program
import Transceiver.Text.Quoted
import Transceiver.Text.Record

/-!
# Pin groups and lines

A group is held for the length of a procedure and released whatever that returns.  A line is one
bit of a group.
-/

namespace Transceiver

namespace PinGroup

def text (g : PinGroup) : String := Text.record "PinGroupHandle" [("name", Text.quoted g.name)]

/-- Run a procedure while holding the group. -/
def hold {α : Type} (g : PinGroup) (body : Procedure α) : Procedure α := .mk do
  match ← perform (.acquire g) with
  | .error fault => return .error (.gpio g.name fault)
  | .ok () =>
    let r ← body.run
    perform (.release g)
    return r

/-- The level of a group that is held. -/
def readLevel (g : PinGroup) : Procedure UInt32 := .mk do
  match ← perform (.readLevel g) with
  | .ok level => return .ok level
  | .error fault => return .error (.gpio g.name fault)

/-- Set the level of a group that is held. -/
def writeLevel (g : PinGroup) (level : UInt32) : Procedure Unit := .mk do
  match ← perform (.writeLevel g level) with
  | .ok () => return .ok ()
  | .error fault => return .error (.gpio g.name fault)

end PinGroup

/-- One bit of a pin group. -/
structure Line where
  group : PinGroup
  bit : UInt8
deriving DecidableEq, Repr

namespace Line

/-- The word with the bit of the line; a group has 32 lines. -/
def mask (l : Line) : Except Error UInt32 :=
  if l.bit < 32 then .ok (1 <<< l.bit.toUInt32)
  else .error (.invalidArgument ("GPIO line " ++ toString l.bit ++ " out of range"))

/-- Whether the line is set, while its group is held. -/
def get (l : Line) : Procedure Bool := do
  let m ← l.mask
  let level ← l.group.readLevel
  return level &&& m != 0

/-- Set or clear the line, while its group is held. -/
def assign (l : Line) (on : Bool) : Procedure Unit := do
  let m ← l.mask
  let level ← l.group.readLevel
  l.group.writeLevel (if on then level ||| m else level &&& ~~~ m)

def read (l : Line) : Procedure Bool := l.group.hold l.get

def write (l : Line) (on : Bool) : Procedure Unit := l.group.hold (l.assign on)

end Line

/-- The pin groups of a system. -/
structure Registry where
  groups : List PinGroup
deriving DecidableEq, Repr

namespace Registry

/-- The group registered last under a name. -/
def find? (r : Registry) (name : String) : Option PinGroup :=
  r.groups.reverse.find? fun g ↦ g.name = name

def resolve (r : Registry) (name : String) : Except Error PinGroup :=
  match r.find? name with
  | some g => .ok g
  | none => .error (.config ("unknown pin group '" ++ name ++ "'"))

end Registry

end Transceiver
