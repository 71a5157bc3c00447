/-!
# Sets of status flags

A set of flags is a word with one bit a flag.  Bits that name no flag are kept as they are.
-/

namespace Transceiver

/-- What a set of flags describes. -/
inductive Subject where
  | module
  | channel
  | channelMonitor
deriving DecidableEq, Repr

/-- A set of flags about one subject. -/
@[ext]
structure Flags (s : Subject) where
  bits : UInt32
deriving DecidableEq, Repr

namespace Flags

variable {s : Subject}

def empty : Flags s := ⟨0⟩

instance : OrOp (Flags s) := ⟨fun a b ↦ ⟨a.bits ||| b.bits⟩⟩

instance : AndOp (Flags s) := ⟨fun a b ↦ ⟨a.bits &&& b.bits⟩⟩

@[simp] theorem bits_or (a b : Flags s) : (a ||| b).bits = a.bits ||| b.bits := rfl

@[simp] theorem bits_and (a b : Flags s) : (a &&& b).bits = a.bits &&& b.bits := rfl

@[simp] theorem bits_empty : (empty : Flags s).bits = 0 := rfl

/-- Whether all flags of `b` are in `a`. -/
def contains (a b : Flags s) : Bool := a.bits &&& b.bits == b.bits

/-- Whether some bit is in both sets. -/
def intersects (a b : Flags s) : Bool := a.bits &&& b.bits != 0

end Flags

/-- Alarms and warnings of a module. -/
abbrev ModuleStatus := Flags .module

/-- Transmit and receive conditions of a channel. -/
abbrev ChannelStatus := Flags .channel

/-- Alarms and warnings of the monitors of a channel. -/
abbrev ChannelMonitorStatus := Flags .channelMonitor

/-- The four flags of one quantity. -/
structure FlagQuad (s : Subject) where
  highAlarm : Flags s
  lowAlarm : Flags s
  highWarning : Flags s
  lowWarning : Flags s
deriving DecidableEq, Repr

namespace FlagQuad

variable {s : Subject}

/-- Four consecutive flags, from the bit `shift` up. -/
def consecutive (shift : UInt32) : FlagQuad s where
  highAlarm := ⟨1 <<< shift⟩
  lowAlarm := ⟨2 <<< shift⟩
  highWarning := ⟨4 <<< shift⟩
  lowWarning := ⟨8 <<< shift⟩

def alarms (q : FlagQuad s) : Flags s := q.highAlarm ||| q.lowAlarm

def warnings (q : FlagQuad s) : Flags s := q.highWarning ||| q.lowWarning

def all (q : FlagQuad s) : Flags s := q.alarms ||| q.warnings

end FlagQuad

/-- Which levels of a quantity a module reports as passed. -/
structure Levels where
  highAlarm : Bool
  lowAlarm : Bool
  highWarning : Bool
  lowWarning : Bool
deriving DecidableEq, Repr

/-- The flags of the passed levels.  Where both the high and the low one of a pair are passed the
high one alone counts. -/
def Levels.reduce {s : Subject} (l : Levels) (q : FlagQuad s) : Flags s :=
  let alarm := if l.highAlarm then q.highAlarm else if l.lowAlarm then q.lowAlarm else .empty
  let warning :=
    if l.highWarning then q.highWarning else if l.lowWarning then q.lowWarning else .empty
  alarm ||| warning

namespace ModuleStatus

def temperature : FlagQuad .module := .consecutive 0

def voltage : FlagQuad .module := .consecutive 4

def alarms : ModuleStatus := temperature.alarms ||| voltage.alarms

def warnings : ModuleStatus := temperature.warnings ||| voltage.warnings

end ModuleStatus

namespace ChannelStatus

def txDisable : ChannelStatus := ⟨1⟩

def txFault : ChannelStatus := ⟨2⟩

def txLoss : ChannelStatus := ⟨4⟩

def rxLoss : ChannelStatus := ⟨8⟩

end ChannelStatus

namespace ChannelMonitorStatus

def rxPower : FlagQuad .channelMonitor := .consecutive 0

def txBias : FlagQuad .channelMonitor := .consecutive 4

def txPower : FlagQuad .channelMonitor := .consecutive 8

end ChannelMonitorStatus

end Transceiver
