import Transceiver.Selection

/-!
# Cages

A cage is described by the address of its module, the groups that select it and the lines wired to
it.  A draft names what is known of a cage; `build` fills in the rest and refuses drafts that do
not make a cage.
-/

namespace Transceiver

/-- The driver family of a cage. -/
inductive Family where
  | sfp | qsfp | qsfpDD
deriving DecidableEq, Repr

namespace Family

instance : Enumeration Family where
  members := [.sfp, .qsfp, .qsfpDD]
  name | .sfp => "sfp" | .qsfp => "qsfp" | .qsfpDD => "qsfp28_dd"

def name (f : Family) : String := Enumeration.name f

/-- The family of a name, in either case. -/
def parse (s : String) : Except Error Family :=
  match String.ofList (s.toList.map Char.toLower) with
  | "sfp" => .ok .sfp
  | "qsfp" => .ok .qsfp
  | "qsfp28_dd" | "qsfp-dd" => .ok .qsfpDD
  | _ => .error (.config ("unknown driver family '" ++ s ++ "'"))

end Family

/-- The kind of port that a cage provides. -/
inductive PortType where
  | sfp | sfpPlus | sfp28 | qsfp | qsfp28
  /-- The first and the second logical port of a double density cage. -/
  | qsfpDD1 | qsfpDD2
  | backplane | rj45
deriving DecidableEq, Repr

namespace PortType

instance : Enumeration PortType where
  members := [.sfp, .sfpPlus, .sfp28, .qsfp, .qsfp28, .qsfpDD1, .qsfpDD2, .backplane, .rj45]
  name
    | .sfp => "SFP" | .sfpPlus => "SFPPLUS" | .sfp28 => "SFP28" | .qsfp => "QSFP"
    | .qsfp28 => "QSFP28" | .qsfpDD1 => "QSFP28-DD-1" | .qsfpDD2 => "QSFP28-DD-2"
    | .backplane => "BACKPLANE" | .rj45 => "RJ45"

def name (p : PortType) : String := Enumeration.name p

def parse (s : String) : Except Error PortType :=
  match Enumeration.ofName? s with
  | some p => .ok p
  | none => .error (.config ("unknown port type '" ++ s ++ "'"))

/-- The port of a family that names none. -/
def standard : Family → PortType
  | .sfp => .sfpPlus
  | .qsfp => .qsfp
  | .qsfpDD => .qsfpDD1

/-- Whether a cage of a family can provide the port. -/
def fits : PortType → Family → Bool
  | .sfp, .sfp | .sfpPlus, .sfp | .sfp28, .sfp | .backplane, .sfp | .rj45, .sfp => true
  | .qsfp, .qsfp | .qsfp28, .qsfp | .qsfpDD1, .qsfp | .qsfpDD2, .qsfp => true
  | .qsfpDD1, .qsfpDD | .qsfpDD2, .qsfpDD => true
  | _, _ => false

/-- The fastest speed of the port. -/
def capability : PortType → Speed
  | .sfp | .rj45 => .g1
  | .sfpPlus | .backplane => .g10
  | .sfp28 => .g25
  | .qsfp => .g40
  | .qsfp28 => .g100
  | .qsfpDD1 | .qsfpDD2 => .g200

/-- The power budget of the port in milliwatts, where nothing else is said. -/
def maxPowerMw : PortType → Int
  | .sfp | .sfpPlus | .sfp28 => 2000
  | .qsfp => 3500
  | .qsfp28 => 4500
  | .qsfpDD1 | .qsfpDD2 => 7000
  | .backplane | .rj45 => noMaxPower

/-- The number of logical ports in the cage. -/
def density : PortType → UInt8
  | .qsfpDD1 | .qsfpDD2 => 2
  | _ => 1

/-- The rank of the port in its cage, from zero. -/
def rank : PortType → UInt8
  | .qsfpDD2 => 1
  | _ => 0

end PortType

/-- The speed LED of an SFP port, with the level of its line for either speed. -/
structure PortLed where
  line : Line
  level1g : Bool
  level10g : Bool
deriving DecidableEq, Repr

/-- The wiring of a cage. -/
structure Cage where
  instanceId : UInt32
  name : String
  family : Family
  portType : PortType
  /-- The device of the serial ID. -/
  address : UInt8
  selector : Selector
  /-- The wait between selecting the module and accessing it. -/
  selectDelay : Duration
  presence : Line
  reset : Option Line
  /-- The time a module needs after a change of its reset line. -/
  resetDelay : Duration
  lowPower : Option Line
  txControl : Option Line
  rxLoss : Option Line
  txFault : Option Line
  portLed : Option PortLed
  defaultSpeedMbps : Option UInt32
  /-- What is added to the channels of a logical port. -/
  channelOffset : UInt8
  /-- The power budget of the port in milliwatts. -/
  maxPowerMw : Int
deriving DecidableEq, Repr

namespace Cage

def standardAddress : UInt8 := serialDevice

def standardSelectDelay : Duration := .zero

def standardResetDelay : Duration := .zero

/-- What the port of the cage offers. -/
def portInfo (c : Cage) : PortInfo where
  maxSpeedMbps := c.defaultSpeedMbps.getD (.ofNat c.portType.capability.mbps)
  density := c.portType.density
  maxPowerMw := c.maxPowerMw

/-- The cage of an SFP module in an adapter, which wires none of the lines of an SFP cage. -/
def adapted (c : Cage) : Cage :=
  { c with
    family := .sfp
    portType := .sfpPlus
    reset := none
    lowPower := none
    txControl := none
    rxLoss := none
    txFault := none
    portLed := none }

end Cage

/-- What is known of a cage. -/
structure Draft where
  name : String
  family : Family
  instanceId : Option UInt32 := none
  portType : Option PortType := none
  address : Option UInt8 := none
  mux : Option SelectTarget := none
  module : Option SelectTarget := none
  selectDelay : Option Duration := none
  presence : Option Line := none
  reset : Option Line := none
  resetDelay : Option Duration := none
  lowPower : Option Line := none
  txControl : Option Line := none
  rxLoss : Option Line := none
  txFault : Option Line := none
  portLed : Option PortLed := none
  defaultSpeedMbps : Option UInt32 := none
  channelOffset : Option UInt8 := none
  maxPowerMw : Option Int := none
deriving DecidableEq, Repr

namespace Draft

/-- The group that a draft uses for both selections. -/
def sharedGroup? (d : Draft) : Option PinGroup :=
  match d.mux, d.module with
  | some mux, some module => if mux.group.id = module.group.id then some mux.group else none
  | _, _ => none

/-- The cage of a draft.  It needs a presence line, two groups to be selected by and a port of its
family. -/
def build (d : Draft) : Except Error Cage := do
  let some presence := d.presence
    | throw (.config ("cage '" ++ d.name ++ "' has no presence line"))
  if let some group := d.sharedGroup? then
    throw (.config ("cage '" ++ d.name ++ "' uses pin group '" ++ group.name ++
      "' for both mux and module select"))
  let port := d.portType.getD (.standard d.family)
  unless port.fits d.family do
    throw (.config ("port type " ++ port.name ++ " is not valid for a " ++ d.family.name ++
      " cage"))
  return {
    instanceId := d.instanceId.getD 0
    name := d.name
    family := d.family
    portType := port
    address := d.address.getD Cage.standardAddress
    selector := ⟨d.mux, d.module⟩
    selectDelay := d.selectDelay.getD Cage.standardSelectDelay
    presence := presence
    reset := d.reset
    resetDelay := d.resetDelay.getD Cage.standardResetDelay
    lowPower := d.lowPower
    txControl := d.txControl
    rxLoss := d.rxLoss
    txFault := d.txFault
    portLed := d.portLed
    defaultSpeedMbps := d.defaultSpeedMbps
    channelOffset := d.channelOffset.getD 0
    maxPowerMw := d.maxPowerMw.getD port.maxPowerMw
  }

end Draft

end Transceiver
