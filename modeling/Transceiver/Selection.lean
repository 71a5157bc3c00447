import Transceiver.Pins

/-!
# Selecting a module

Modules that share a bus are routed to it by a mux and a module select group.  Both are held, with
the values of the module written to them, for as long as it is accessed: the mux around the module
group.
-/

namespace Transceiver

/-- A pin group and the level that selects a module through it. -/
structure SelectTarget where
  group : PinGroup
  value : UInt32
deriving DecidableEq, Repr

/-- Run a procedure while the group is held at its value. -/
def SelectTarget.during {α : Type} (t : SelectTarget) (body : Procedure α) : Procedure α :=
  t.group.hold do
    t.group.writeLevel t.value
    body

/-- The groups that select a module. -/
structure Selector where
  mux : Option SelectTarget
  /-- Absent for a module that is alone on its bus. -/
  module : Option SelectTarget
deriving DecidableEq, Repr

namespace Selector

/-- Run a procedure under a target that may be absent. -/
def under {α : Type} (t? : Option SelectTarget) (body : Procedure α) : Procedure α :=
  match t? with
  | none => body
  | some t => t.during body

/-- Run a procedure while the module is selected. -/
def during {α : Type} (s : Selector) (body : Procedure α) : Procedure α :=
  under s.mux (under s.module body)

end Selector

end Transceiver
