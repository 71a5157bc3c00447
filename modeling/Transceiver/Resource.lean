import Transceiver.Driver.SubPort

/-!
# Resources

Upper layers hold named resources and call the operations of those that are media.  A missing
capability or module is noted in the log for debugging, and any other failure as an error.
-/

namespace Transceiver

/-- A driver of any family. -/
inductive Driver where
  | sfp (d : Sfp)
  | qsfp (d : Qsfp)
  | subPort (d : SubPort)
deriving DecidableEq, Repr

namespace Driver

/-- The driver for the family of a cage. -/
def ofCage (c : Cage) : Driver :=
  match c.family with
  | .sfp => .sfp (.ofCage c)
  | .qsfp => .qsfp (.ofCage c)
  | .qsfpDD => .subPort (.ofCage c)

/-- What the driver does for an operation. -/
def perform (d : Driver) (op : Operation) : Program (Except Error op.Answer × Driver) :=
  match d with
  | .sfp d => do let (r, d) ← MediaControl.perform d op; return (r, .sfp d)
  | .qsfp d => do let (r, d) ← MediaControl.perform d op; return (r, .qsfp d)
  | .subPort d => do let (r, d) ← MediaControl.perform d op; return (r, .subPort d)

def chain (d : Driver) (ps : List Packet) : Program (List Packet × Except Error Unit) :=
  match d with
  | .sfp d => d.chain ps
  | .qsfp d => d.chain ps
  | .subPort d => d.chain ps

instance : MediaControl Driver where
  perform := perform
  chain := chain

end Driver

/-- What a resource is. -/
inductive ResourceKind (δ : Type) where
  | media (driver : δ)
  | thermal
  | fan
  | led
deriving DecidableEq, Repr

def ResourceKind.name {δ : Type} : ResourceKind δ → String
  | .media _ => "media"
  | .thermal => "thermal"
  | .fan => "fan"
  | .led => "led"

/-- A named resource, with media driven by `δ`. -/
structure Resource (δ : Type) where
  name : String
  kind : ResourceKind δ
deriving DecidableEq, Repr

namespace Resource

variable {δ : Type}

/-- The resource of a cage. -/
def ofCage (c : Cage) : Resource Driver := ⟨c.name, .media (.ofCage c)⟩

def text (r : Resource δ) : String :=
  Text.record "Resource" [("alias", Text.quoted r.name), ("kind", Text.quoted r.kind.name)]

/-- Why the operations of media do not apply. -/
def refusal (r : Resource δ) : Error :=
  .permission ("resource '" ++ r.name ++ "' is " ++ r.kind.name ++ ", not media")

/-- Note the outcome of an operation in the log. -/
def note {α : Type} (operation : String) : Except Error α → Program Unit
  | .ok _ => return ()
  | .error e =>
    if e.isNotSupported then report .debug "operation not supported" [("op", operation)]
    else
      match e with
      | .notPresent => report .debug "no module present" [("op", operation)]
      | e =>
        report .error "media operation failed" [("op", operation), ("reason", e.wording)]

variable [MediaControl δ]

/-- Call an operation. -/
def call (r : Resource δ) (op : Operation) : Program (Except Error op.Answer × Resource δ) :=
  match r.kind with
  | .media d => do
    let (result, d) ← MediaControl.perform d op
    note op.name result
    return (result, { r with kind := .media d })
  | _ => return (.error r.refusal, r)

/-- Run packets in order, with the packets as they stand then. -/
def chain (r : Resource δ) (ps : List Packet) : Program (List Packet × Except Error Unit) :=
  match r.kind with
  | .media d => do
    let (qs, result) ← MediaControl.chain d ps
    note (Operation.mailboxChain ps).name result
    return (qs, result)
  | _ => return (ps, .error r.refusal)

/-- Apply speeds in turn, all of them whatever becomes of each, after the outcome `last`. -/
def applySpeeds (d : δ) (channel : UInt8) (media : MediaType) (last : Except Error Unit) :
    List Speed → Program (Except Error Unit)
  | [] => return last
  | speed :: speeds => do
    let (result, _) ← MediaControl.perform d (.phySpeedSet channel media speed)
    note (Operation.phySpeedSet channel media speed).name result
    applySpeeds d channel media result speeds

/-- Apply speeds in turn, and return what became of the last. -/
def setPhySpeeds (r : Resource δ) (channel : UInt8) (media : MediaType) (speeds : List Speed) :
    Program (Except Error Unit) :=
  match r.kind with
  | .media d => applySpeeds d channel media (.ok ()) speeds
  | _ => return .error r.refusal

/-- A call that thresholds have taken the place of. -/
def superseded (r : Resource δ) (operation : String) : Except Error UInt32 :=
  match r.kind with
  | .media _ => .error (.unimplemented operation)
  | _ => .error r.refusal

def moduleMonitorThreshold (r : Resource δ) (_ : ModuleMonitor) : Except Error UInt32 :=
  r.superseded "module_monitor_threshold"

def channelMonitorThreshold (r : Resource δ) (_ : UInt8) (_ : ChannelMonitor) :
    Except Error UInt32 :=
  r.superseded "channel_monitor_threshold"

end Resource

end Transceiver
