import Transceiver.Program

/-!
# What a trace tells

A trace tells of transactions on the bus, of the use of every pin group and of records in the log.
Transactions count whatever became of them, and accesses of a pin group only when they succeeded.
-/

namespace Transceiver

/-- A transaction on the bus. -/
inductive Transaction where
  | read (address offset : UInt8) (length : Nat)
  | write (address offset : UInt8) (data : List UInt8)
deriving DecidableEq, Repr

/-- The use of a pin group. -/
structure PinUse where
  acquired : Nat
  released : Nat
  /-- The levels written, in order. -/
  written : List UInt32
deriving DecidableEq, Repr

/-- Whether a group was not used. -/
def PinUse.isNone (u : PinUse) : Bool :=
  u.acquired == 0 && u.released == 0 && u.written.isEmpty

def Action.transaction? : Action → Option Transaction
  | .read address offset length => some (.read address offset length)
  | .write address offset data => some (.write address offset data)
  | _ => none

def Action.record? : Action → Option Record
  | .log r => some r
  | _ => none

namespace Event

/-- The group that an event acquired. -/
def acquired? : Event → Option PinGroup
  | ⟨.acquire g, .ok ()⟩ => some g
  | _ => none

/-- The group that an event released. -/
def released? : Event → Option PinGroup
  | ⟨.release g, _⟩ => some g
  | _ => none

/-- The level that an event wrote to a group. -/
def written? (group : PinGroup) : Event → Option UInt32
  | ⟨.writeLevel g level, .ok ()⟩ => if g = group then some level else none
  | _ => none

end Event

namespace Trace

def transactions (t : Trace) : List Transaction := t.filterMap fun e ↦ e.action.transaction?

def records (t : Trace) : List Record := t.filterMap fun e ↦ e.action.record?

/-- The groups released, in order. -/
def released (t : Trace) : List PinGroup := t.filterMap Event.released?

/-- The use of a group. -/
def use (t : Trace) (group : PinGroup) : PinUse where
  acquired := (t.filterMap Event.acquired?).count group
  released := t.released.count group
  written := t.filterMap (Event.written? group)

end Trace

end Transceiver
