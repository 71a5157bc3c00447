import Transceiver.Simulation.Segment

/-!
# A simulated surrounding of cages

A bench is a bus segment with the pin groups of a system.  It answers every action; a pin group can
be made to refuse.
-/

namespace Transceiver

/-- A simulated pin group. -/
structure Pin where
  level : UInt32
  /-- The group cannot be acquired. -/
  failAcquire : Bool
  /-- The level can be neither read nor written. -/
  failAccess : Bool
deriving DecidableEq, Repr

namespace Pin

/-- A group that works. -/
def ofLevel (level : UInt32) : Pin := ⟨level, false, false⟩

/-- How a group refuses. -/
def refusal : PinFault := .unavailable "injected failure"

def acquire (p : Pin) : Except PinFault Unit :=
  if p.failAcquire then .error refusal else .ok ()

def read (p : Pin) : Except PinFault UInt32 :=
  if p.failAccess then .error refusal else .ok p.level

def write (p : Pin) (level : UInt32) : Except PinFault Unit × Pin :=
  if p.failAccess then (.error refusal, p) else (.ok (), { p with level := level })

end Pin

/-- A segment and the pin groups by their numbers. -/
structure Bench where
  segment : Segment
  pin : Nat → Pin

namespace Bench

def blank : Bench := ⟨.blank, fun _ ↦ .ofLevel 0⟩

def setPin (b : Bench) (group : Nat) (p : Pin) : Bench :=
  { b with pin := fun g ↦ if g = group then p else b.pin g }

/-- The answer to an action. -/
def answer : Environment Bench
  | .acquire g, b => ((b.pin g.id).acquire, b)
  | .release _, b => ((), b)
  | .readLevel g, b => ((b.pin g.id).read, b)
  | .writeLevel g level, b =>
    let (r, p) := (b.pin g.id).write level
    (r, b.setPin g.id p)
  | .read address offset length, b =>
    let (r, s) := b.segment.read address offset length
    (r, { b with segment := s })
  | .write address offset data, b =>
    let (r, s) := b.segment.write address offset data
    (r, { b with segment := s })
  | .pause _, b => ((), b)
  | .log _, b => ((), b)

end Bench

end Transceiver
