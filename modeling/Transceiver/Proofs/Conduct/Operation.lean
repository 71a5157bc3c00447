import Transceiver.Cage
import Transceiver.Operation
import Transceiver.Proofs.Conduct.Session
import Transceiver.Trace

/-!
# What an operation is made of

An operation reads and writes lines, and visits the module in sessions; one comes after the other
and never inside it.
-/

namespace Transceiver

/-! ## Lines and selections -/

/-- The groups that select a module, with their levels. -/
def Selector.targets (s : Selector) : List SelectTarget := s.mux.toList ++ s.module.toList

/-- Reading and writing the level of a group. -/
def PinGroup.Accesses (g : PinGroup) : Action → Prop
  | .readLevel g' => g' = g
  | .writeLevel g' _ => g' = g
  | _ => False

/-- What is no transaction on the bus. -/
def Action.IsOffBus (a : Action) : Prop := a.transaction? = none

theorem Action.IsIdle.isOffBus {a : Action} (h : a.IsIdle) : a.IsOffBus := by
  cases a <;> first | rfl | cases h

theorem PinGroup.Accesses.isOffBus {g : PinGroup} {a : Action} (h : g.Accesses a) :
    a.IsOffBus := by
  cases a <;> first | rfl | cases h

section Lines

variable {part : Parts}

instance (g : PinGroup) [part.Includes Action.IsOffBus] : part.Includes g.Accesses where
  part_of_kind action h := Parts.Includes.part_of_kind action h.isOffBus

instance [part.Includes Action.IsOffBus] : part.Includes Action.IsIdle where
  part_of_kind action h := Parts.Includes.part_of_kind action h.isOffBus

namespace PinGroup

variable (g : PinGroup)

theorem readLevel_madeOf (h : (perform (.readLevel g)).MadeOf part) :
    g.readLevel.MadeOf part := by
  refine Program.MadeOf.bind h fun r ↦ ?_
  cases r with
  | ok level => exact .done _
  | error fault => exact .done _

theorem writeLevel_madeOf [part.Includes g.Accesses] (level : UInt32) :
    (g.writeLevel level).MadeOf part := by
  refine Program.MadeOf.bind (Parts.single g.Accesses rfl) fun r ↦ ?_
  cases r with
  | ok _ => exact .done _
  | error fault => exact .done _

theorem hold_madeOf {α : Type} {body : Procedure α}
    (hacquire : (perform (.acquire g)).MadeOf part)
    (hrelease : (perform (.release g)).MadeOf part) (h : body.MadeOf part) :
    (g.hold body).MadeOf part := by
  refine Program.MadeOf.bind hacquire fun r ↦ ?_
  cases r with
  | ok _ => exact .bind h fun r ↦ .bind hrelease fun _ ↦ .done _
  | error fault => exact .done _

/-- To hold a group is nothing on the bus. -/
theorem hold_madeOf_offBus [part.Includes Action.IsOffBus] {α : Type} {body : Procedure α}
    (h : body.MadeOf part) : (g.hold body).MadeOf part :=
  g.hold_madeOf (Parts.single Action.IsOffBus rfl) (Parts.single Action.IsOffBus rfl) h

end PinGroup

namespace Line

variable (l : Line)

theorem get_madeOf (h : (perform (.readLevel l.group)).MadeOf part) : l.get.MadeOf part :=
  .bind (.liftExcept _) fun _ ↦ .bind (l.group.readLevel_madeOf h) fun _ ↦ .pure _

theorem assign_madeOf [part.Includes l.group.Accesses] (on : Bool) : (l.assign on).MadeOf part :=
  .bind (.liftExcept _) fun _ ↦
    .bind (l.group.readLevel_madeOf (Parts.single l.group.Accesses rfl)) fun _ ↦
    l.group.writeLevel_madeOf _

theorem read_madeOf [part.Includes Action.IsOffBus] : l.read.MadeOf part :=
  l.group.hold_madeOf_offBus (l.get_madeOf (Parts.single Action.IsOffBus rfl))

theorem write_madeOf [part.Includes Action.IsOffBus] (on : Bool) : (l.write on).MadeOf part :=
  l.group.hold_madeOf_offBus (l.assign_madeOf on)

end Line

section Selection

variable [part.Includes Action.IsOffBus] {α : Type}

theorem SelectTarget.during_madeOf (t : SelectTarget) {body : Procedure α}
    (h : body.MadeOf part) : (t.during body).MadeOf part :=
  t.group.hold_madeOf_offBus <| .bind (t.group.writeLevel_madeOf _) fun _ ↦ h

theorem Selector.under_madeOf (t? : Option SelectTarget) {body : Procedure α}
    (h : body.MadeOf part) : (under t? body).MadeOf part := by
  cases t? with
  | none => exact h
  | some t => exact t.during_madeOf h

theorem Selector.during_madeOf (s : Selector) {body : Procedure α} (h : body.MadeOf part) :
    (s.during body).MadeOf part := under_madeOf s.mux (under_madeOf s.module h)

end Selection

/-- The module of a session. -/
def Eeprom.selected (e : Eeprom) : Selected := ⟨e.address, e.scheme⟩

/-- A session is a look at the presence line and a visit of the module. -/
theorem Eeprom.session_madeOf {α : Type} (e : Eeprom) {body : Selected → Procedure α}
    (hline : ∀ l : Line, l.read.MadeOf part)
    (hvisit : (e.selector.during (do settle e.settleTime; body e.selected)).MadeOf part) :
    (e.session body).MadeOf part := by
  unfold session
  split
  · exact .bind (hline _) fun _ ↦ .require hvisit
  · exact hvisit

/-- A session is made of what is done in it and of actions off the bus. -/
theorem Eeprom.session_madeOf_offBus [part.Includes Action.IsOffBus] {α : Type} (e : Eeprom)
    {body : Selected → Procedure α} (h : (body e.selected).MadeOf part) :
    (e.session body).MadeOf part :=
  e.session_madeOf (fun l ↦ l.read_madeOf) <| e.selector.during_madeOf <|
    .bind (.lift (settle_madeOf _)) fun _ ↦ h

end Lines

/-! ## Sessions -/

/-- Parts among which are looks at lines, and sessions that are made of others. -/
class Parts.Hosts (part : Parts) (inner : outParam Parts) (e : Eeprom) : Prop where
  line (l : Line) : l.read.MadeOf part
  session {α : Type} {body : Selected → Procedure α} (h : (body e.selected).MadeOf inner) :
    (e.session body).MadeOf part

/-- Parts among which are settings of lines. -/
class Parts.Drives (part : Parts) : Prop where
  lineWrite (l : Line) (on : Bool) : (l.write on).MadeOf part

section Sessions

variable {part : Parts} (e : Eeprom)

instance [part.Includes Action.IsOffBus] : part.Hosts part e where
  line l := l.read_madeOf
  session h := e.session_madeOf_offBus h

instance [part.Includes Action.IsOffBus] : part.Drives where
  lineWrite l on := l.write_madeOf on

theorem Procedure.MadeOf.lineWrite [part.Drives] (l : Line) (on : Bool) :
    (l.write on).MadeOf part := Parts.Drives.lineWrite l on

instance [h : part.Includes (Action.ReadsFrom e.address)] :
    part.Includes (Action.ReadsFrom e.selected.address) := h

instance [h : part.Includes (Action.SparesPageOf e.address)] :
    part.Includes (Action.SparesPageOf e.selected.address) := h

end Sessions

/-! ## Operations -/

/-- The parts of an operation that looks at lines and, in sessions, at the module. -/
inductive VisitPart (c : Cage) : Parts
  | idle (action : Action) : action.IsIdle → VisitPart c _ (perform action)
  | read (l : Line) : VisitPart c _ l.read.run
  | session (e : Eeprom) {α : Type} {body : Selected → Procedure α} :
      e.selector = c.selector → e.presence = some c.presence →
      (∀ m, (body m).MadeOf (SessionPart Action.IsQuery)) → VisitPart c _ (e.session body).run

/-- The parts of an operation on a cage, where `allowed` says which actions there are in a session
besides changes of the page. -/
inductive OperationPart (c : Cage) (allowed : Action → Prop) : Parts
  | idle (action : Action) : action.IsIdle → OperationPart c allowed _ (perform action)
  | read (l : Line) : OperationPart c allowed _ l.read.run
  | write (l : Line) (on : Bool) : OperationPart c allowed _ (l.write on).run
  | session (e : Eeprom) {α : Type} {body : Selected → Procedure α} :
      e.selector = c.selector → e.presence = some c.presence →
      (∀ m, (body m).MadeOf (SessionPart allowed)) →
      OperationPart c allowed _ (e.session body).run

/-- Parts among which are those of a visit to a cage. -/
class Parts.Visits (part : Parts) (c : outParam Cage) : Prop where
  part_of_visit {α : Type} {p : Program α} (h : VisitPart c α p) : part α p

section Visits

variable {part : Parts} {c : Cage} {allowed : Action → Prop}

instance [part.Visits c] : part.Includes Action.IsIdle where
  part_of_kind action h := Parts.Visits.part_of_visit (.idle action h)

instance : (OperationPart c allowed).Includes Action.IsIdle := ⟨.idle⟩

instance : (VisitPart c).Visits c := ⟨id⟩

instance : (OperationPart c allowed).Drives where
  lineWrite l on := .part (.write l on)

instance [(Single allowed).Includes Action.IsQuery] : (OperationPart c allowed).Visits c where
  part_of_visit h := by
    cases h with
    | idle action ha => exact .idle action ha
    | read l => exact .read l
    | session e hs hp hbody =>
      exact .session e hs hp fun m ↦ (hbody m).imp fun _ _ hq ↦ hq.of_includes

theorem Procedure.MadeOf.visit [part.Visits c] {α : Type} {p : Procedure α}
    (h : VisitPart c _ p.run) : p.MadeOf part := Program.MadeOf.part (Parts.Visits.part_of_visit h)

/-- A visit hosts sessions in which there are only queries. -/
theorem Parts.Visits.hosts [part.Visits c] {e : Eeprom} (hselector : e.selector = c.selector)
    (hpresence : e.presence = some c.presence) : part.Hosts (SessionPart Action.IsQuery) e where
  line l := .visit (.read l)
  session {_ body} h := by
    change Procedure.MadeOf part (e.session fun _ ↦ body e.selected)
    exact .visit (.session e hselector hpresence fun _ ↦ h)

/-- An operation hosts sessions in which there are the actions that it allows. -/
theorem OperationPart.hosts {e : Eeprom} (hselector : e.selector = c.selector)
    (hpresence : e.presence = some c.presence) :
    (OperationPart c allowed).Hosts (SessionPart allowed) e where
  line l := .part (.read l)
  session {_ body} h := by
    change Procedure.MadeOf _ (e.session fun _ ↦ body e.selected)
    exact .part (.session e hselector hpresence fun _ ↦ h)

end Visits

/-- The raw writes that an operation asks for are allowed, besides what spares the page. -/
def Operation.Allows (op : Operation) (action : Action) : Prop :=
  action.SparesPage ∨
    match op, action with
    | .writeGeneric a data, .write _ offset data' => offset = a.offset ∧ data' = data
    | .write offset data, .write _ offset' data' => offset' = offset ∧ data' = data
    | _, _ => False

/-- The operation asks for no raw write to the byte that selects a page. -/
def Operation.SparesPage : Operation → Prop
  | .writeGeneric a data => ¬ Covers a.offset data.length QsfpMap.pageSelect
  | .write offset data => ¬ Covers offset data.length QsfpMap.pageSelect
  | _ => True

instance (op : Operation) : (Single op.Allows).Includes Action.SparesPage where
  part_of_kind action h := .perform action (.inl h)

theorem Operation.Allows.sparesPage {op : Operation} {action : Action} (h : op.Allows action)
    (hop : op.SparesPage) : action.SparesPage := by
  rcases h with h | h
  · exact h
  · cases op <;> cases action <;> first | exact h.elim | (obtain ⟨rfl, rfl⟩ := h; exact hop)

theorem Operation.Allows.isOffPins {op : Operation} {action : Action} (h : op.Allows action) :
    action.IsOffPins := by
  rcases h with h | h
  · exact h.isOffPins
  · cases op <;> cases action <;> first | exact h.elim | trivial

namespace OperationPart

variable {c : Cage} {A A' : Action → Prop} {α : Type} {p : Program α}

theorem imp (h : OperationPart c A α p) (hA : ∀ a, A a → A' a) : OperationPart c A' α p := by
  cases h with
  | idle action ha => exact .idle action ha
  | read l => exact .read l
  | write l on => exact .write l on
  | session e hs hp hbody =>
    exact .session e hs hp fun m ↦ (hbody m).imp fun _ _ hq ↦ hq.imp hA

/-- An operation is made of the parts of a session and of actions off the bus. -/
theorem madeOf_sessionPart (h : OperationPart c A α p) :
    p.MadeOf (SessionPart fun a ↦ a.IsOffBus ∨ A a) := by
  have hoff : (Single fun a ↦ a.IsOffBus ∨ A a).Includes Action.IsOffBus :=
    ⟨fun action h ↦ .perform action (.inl h)⟩
  cases h with
  | idle action ha => exact .part (.single action (.inl ha.isOffBus))
  | read l => exact l.read_madeOf
  | write l on => exact l.write_madeOf on
  | session e hs hp hbody =>
    exact e.session_madeOf_offBus ((hbody _).imp fun _ _ hq ↦ hq.imp fun _ ha ↦ .inr ha)

end OperationPart

end Transceiver
