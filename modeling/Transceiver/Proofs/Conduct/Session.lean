import Transceiver.Eeprom
import Transceiver.Proofs.Memory
import Transceiver.Proofs.Parts

/-!
# What is done in a session

While a module is selected there is nothing but transactions with it, pauses and records.  Pages
change in two ways only: back to page zero, or around a procedure that does not touch the page.
-/

namespace Transceiver

/-! ## Kinds of actions -/

namespace Action

/-- Waiting, and writing records. -/
def IsIdle : Action → Prop
  | .pause _ | .log _ => True
  | _ => False

/-- Reading from the bus, and idling. -/
def IsQuery : Action → Prop
  | .read _ _ _ | .pause _ | .log _ => True
  | _ => False

/-- What does not write to the byte that selects a page. -/
def SparesPage : Action → Prop
  | .read _ _ _ | .pause _ | .log _ => True
  | .write _ offset data => ¬ Covers offset data.length QsfpMap.pageSelect
  | _ => False

/-- Reading from a device. -/
def ReadsFrom (device : UInt8) : Action → Prop
  | .read address _ _ => address = device
  | _ => False

/-- Reading from a device, and writing to it but for the byte that selects its page. -/
def SparesPageOf (device : UInt8) : Action → Prop
  | .read address _ _ => address = device
  | .write address offset data =>
    address = device ∧ ¬ Covers offset data.length QsfpMap.pageSelect
  | _ => False

/-- What leaves the pin groups alone. -/
def IsOffPins : Action → Prop
  | .read _ _ _ | .write _ _ _ | .pause _ | .log _ => True
  | _ => False

theorem IsIdle.isQuery {a : Action} (h : a.IsIdle) : a.IsQuery := by
  cases a <;> trivial

theorem IsQuery.sparesPage {a : Action} (h : a.IsQuery) : a.SparesPage := by
  cases a <;> trivial

theorem SparesPage.isOffPins {a : Action} (h : a.SparesPage) : a.IsOffPins := by
  cases a <;> trivial

theorem ReadsFrom.isQuery {device : UInt8} {a : Action} (h : a.ReadsFrom device) : a.IsQuery := by
  cases a <;> trivial

theorem ReadsFrom.sparesPageOf {device : UInt8} {a : Action} (h : a.ReadsFrom device) :
    a.SparesPageOf device := by
  cases a <;> first | exact h | exact h.elim

theorem SparesPageOf.sparesPage {device : UInt8} {a : Action} (h : a.SparesPageOf device) :
    a.SparesPage := by
  cases a <;> first | trivial | exact h.2

end Action

/-- Parts among which are all actions of a kind. -/
class Parts.Includes (part : Parts) (kind : Action → Prop) : Prop where
  part_of_kind (action : Action) (h : kind action) : part _ (perform action)

section Includes

variable {part : Parts}

theorem Parts.single (kind : Action → Prop) [part.Includes kind] {action : Action}
    (h : kind action) : (perform action).MadeOf part :=
  .part (Parts.Includes.part_of_kind action h)

instance (kind : Action → Prop) : (Single kind).Includes kind := ⟨.perform⟩

instance [part.Includes Action.IsOffPins] : part.Includes Action.SparesPage where
  part_of_kind action h := Parts.Includes.part_of_kind action h.isOffPins

instance [part.Includes Action.SparesPage] : part.Includes Action.IsQuery where
  part_of_kind action h := Parts.Includes.part_of_kind action h.sparesPage

instance [part.Includes Action.IsQuery] : part.Includes Action.IsIdle where
  part_of_kind action h := Parts.Includes.part_of_kind action h.isQuery

instance (device : UInt8) [part.Includes Action.IsQuery] :
    part.Includes (Action.ReadsFrom device) where
  part_of_kind action h := Parts.Includes.part_of_kind action h.isQuery

instance (device : UInt8) [part.Includes Action.SparesPage] :
    part.Includes (Action.SparesPageOf device) where
  part_of_kind action h := Parts.Includes.part_of_kind action h.sparesPage

instance (device : UInt8) [part.Includes (Action.SparesPageOf device)] :
    part.Includes (Action.ReadsFrom device) where
  part_of_kind action h := Parts.Includes.part_of_kind action h.sparesPageOf

end Includes

/-- What a session is made of, where `allowed` says which actions there are besides changes of the
page. -/
inductive SessionPart (allowed : Action → Prop) : Parts
  | single (action : Action) : allowed action → SessionPart allowed _ (perform action)
  | home (device : UInt8) : SessionPart allowed _ (Selected.selectPage device 0).run
  | onPage (device page : UInt8) {α : Type} {body : Procedure α} :
      body.MadeOf (Single allowed) →
      SessionPart allowed _ (Selected.onPage device page body).run

/-- Single actions may be done in a session. -/
theorem Single.inSession {allowed : Action → Prop} {α : Type} {p : Program α}
    (h : Single allowed α p) : SessionPart allowed α p := by
  cases h with
  | perform action ha => exact .single action ha

theorem SessionPart.imp {A A' : Action → Prop} {α : Type} {p : Program α}
    (h : SessionPart A α p) (hA : ∀ a, A a → A' a) : SessionPart A' α p := by
  cases h with
  | single action ha => exact .single action (hA _ ha)
  | home device => exact .home device
  | onPage device page hbody =>
    refine .onPage device page (hbody.imp fun _ _ hq ↦ ?_)
    cases hq with
    | perform action ha => exact .perform action (hA _ ha)

/-- A session in which only a kind of actions is done may be one in which that kind is allowed. -/
theorem SessionPart.of_includes {A kind : Action → Prop} [(Single A).Includes kind] {α : Type}
    {p : Program α} (h : SessionPart kind α p) : SessionPart A α p := by
  cases h with
  | single action ha =>
    exact (Parts.Includes.part_of_kind action ha : Single A _ _).inSession
  | home device => exact .home device
  | onPage device page hbody =>
    refine .onPage device page (hbody.imp fun _ _ hq ↦ ?_)
    cases hq with
    | perform action ha => exact Parts.Includes.part_of_kind action ha

instance (allowed kind : Action → Prop) [(Single allowed).Includes kind] :
    (SessionPart allowed).Includes kind where
  part_of_kind action h := (Parts.Includes.part_of_kind action h : Single allowed _ _).inSession

variable {part : Parts}

/-! ## Waiting and writing records -/

section Idle

variable [part.Includes Action.IsIdle]

theorem report_madeOf (severity : Severity) (message : String) (fields : List (String × String)) :
    (report severity message fields).MadeOf part :=
  Parts.single Action.IsIdle trivial

theorem settle_madeOf (span : Duration) : (settle span).MadeOf part := by
  unfold settle
  split
  · exact .done ()
  · exact Parts.single Action.IsIdle trivial

end Idle

/-! ## Transactions -/

namespace Bus

/-- A read is made of its transaction. -/
theorem read_madeOf_of {device offset : UInt8} {length : Nat}
    (h : (perform (.read device offset length)).MadeOf part) :
    (Bus.read device offset length).MadeOf part := by
  refine Program.MadeOf.bind h fun r ↦ ?_
  cases r with
  | ok bytes => exact .done _
  | error fault => exact .done _

section Query

variable (device offset : UInt8) [part.Includes (Action.ReadsFrom device)]

theorem read_madeOf (length : Nat) : (Bus.read device offset length).MadeOf part :=
  read_madeOf_of (Parts.single (Action.ReadsFrom device) rfl)

theorem readByte_madeOf : (readByte device offset).MadeOf part :=
  .bind (read_madeOf device offset 1) fun b ↦ .pure (byteIn b)

theorem readWord_madeOf : (readWord device offset).MadeOf part :=
  .bind (read_madeOf device offset 2) fun b ↦ .pure (wordIn b)

end Query

theorem write_madeOf {device offset : UInt8} {data : List UInt8}
    (h : (perform (.write device offset data)).MadeOf part) :
    (Bus.write device offset data).MadeOf part := by
  refine Program.MadeOf.bind h fun r ↦ ?_
  cases r with
  | ok _ => exact .done _
  | error fault => exact .done _

end Bus

namespace Selected

variable (m : Selected)

theorem pagingSupported_madeOf [part.Includes Action.IsQuery] :
    m.pagingSupported.MadeOf part := by
  unfold pagingSupported
  split
  · exact .bind (Bus.readByte_madeOf _ _) fun status ↦ .pure _
  · exact .bind (Bus.readByte_madeOf _ _) fun options ↦ .pure _
  · exact .pure false

/-! ## Accesses on whatever page is selected -/

theorem checkRange_bind {a : Address} {length : Nat} (h : a.offset.toNat + length ≤ addressSpace)
    {α : Type} (p : Procedure α) : (liftM (checkRange a length) >>= fun _ ↦ p) = p := by
  unfold checkRange
  rw [if_neg (Nat.not_lt.mpr h)]
  rfl

section Unpaged

variable {m} {a : Address} (ha : a.page = .ignore)
include ha

theorem paged_unpaged {α : Type} (body : UInt8 → Procedure α) :
    m.paged a body = body (a.device.resolve m.address) := by
  unfold paged
  rw [ha]

/-- A byte on whatever page is shown is one transaction. -/
theorem readByte_eq : m.readByte a = Bus.readByte (a.device.resolve m.address) a.offset := by
  have hrange : a.offset.toNat + 1 ≤ addressSpace := a.offset.toNat_lt
  unfold readByte read
  rw [checkRange_bind hrange, paged_unpaged ha]
  rfl

section Query

variable [part.Includes (Action.ReadsFrom (a.device.resolve m.address))]

theorem read_unpaged_madeOf (length : Nat) : (m.read a length).MadeOf part := by
  refine .bind (.liftExcept _) fun _ ↦ ?_
  rw [paged_unpaged ha]
  exact Bus.read_madeOf _ _ _

theorem readByte_unpaged_madeOf : (m.readByte a).MadeOf part :=
  .bind (read_unpaged_madeOf ha 1) fun b ↦ .pure (byteIn b)

theorem readWord_unpaged_madeOf : (m.readWord a).MadeOf part :=
  .bind (read_unpaged_madeOf ha 2) fun b ↦ .pure (wordIn b)

end Query

variable [part.Includes (Action.SparesPageOf (a.device.resolve m.address))]

theorem write_unpaged_madeOf {data : List UInt8}
    (h : ¬ Covers a.offset data.length QsfpMap.pageSelect) : (m.write a data).MadeOf part := by
  refine .bind (.liftExcept _) fun _ ↦ ?_
  rw [paged_unpaged ha]
  exact Bus.write_madeOf (Parts.single (Action.SparesPageOf _) ⟨rfl, h⟩)

/-- A word is two bytes. -/
theorem writeWord_unpaged_madeOf (h : ¬ Covers a.offset 2 QsfpMap.pageSelect) (w : UInt16) :
    (m.write a (bytes16 w)).MadeOf part := write_unpaged_madeOf ha h

theorem modify_unpaged_madeOf (h : a.offset ≠ QsfpMap.pageSelect)
    (f : UInt8 → Except Error UInt8) :
    (m.modify a f).MadeOf part := by
  refine .bind (readByte_unpaged_madeOf ha) fun old ↦ .bind (.liftExcept _) fun new ↦ ?_
  split
  · exact .bind (write_unpaged_madeOf ha (mt covers_one.mp h)) fun _ ↦ .pure new
  · exact .pure new

end Unpaged

/-! ## The devices of addresses -/

section Devices

variable (offset : UInt8)

instance [h : part.Includes (Action.ReadsFrom m.address)] :
    part.Includes (Action.ReadsFrom ((Address.unpaged offset).device.resolve m.address)) := h

instance [h : part.Includes (Action.ReadsFrom diagnosticDevice)] :
    part.Includes (Action.ReadsFrom ((Address.diagnostic offset).device.resolve m.address)) := h

instance [h : part.Includes (Action.SparesPageOf m.address)] :
    part.Includes (Action.SparesPageOf ((Address.unpaged offset).device.resolve m.address)) := h

instance [h : part.Includes (Action.SparesPageOf diagnosticDevice)] :
    part.Includes (Action.SparesPageOf ((Address.diagnostic offset).device.resolve m.address)) := h

end Devices

theorem lowerByte_madeOf (offset : UInt8) [part.Includes (Action.ReadsFrom m.address)] :
    (m.lowerByte offset).MadeOf part := readByte_unpaged_madeOf rfl

/-! ## Accesses on a page of their own -/

section Paged

variable {allowed : Action → Prop} [(Single allowed).Includes Action.IsQuery] (a : Address)

theorem paged_madeOf {α : Type} {body : UInt8 → Procedure α}
    (h : ∀ device, (body device).MadeOf (Single allowed)) :
    (m.paged a body).MadeOf (SessionPart allowed) := by
  have hs : ∀ device, (body device).MadeOf (SessionPart allowed) := fun device ↦
    (h device).imp fun _ _ hq ↦ hq.inSession
  unfold paged
  split
  · exact hs _
  · refine .bind m.pagingSupported_madeOf fun supported ↦ ?_
    split
    · exact Program.MadeOf.part (.onPage _ _ (h _))
    · exact .bind (.lift (report_madeOf _ _ _)) fun _ ↦ hs _

theorem read_madeOf (length : Nat) : (m.read a length).MadeOf (SessionPart allowed) :=
  .bind (.liftExcept _) fun _ ↦ m.paged_madeOf a fun device ↦ Bus.read_madeOf device a.offset length

theorem readByte_madeOf : (m.readByte a).MadeOf (SessionPart allowed) :=
  .bind (m.read_madeOf a 1) fun b ↦ .pure (byteIn b)

theorem readWord_madeOf : (m.readWord a).MadeOf (SessionPart allowed) :=
  .bind (m.read_madeOf a 2) fun b ↦ .pure (wordIn b)

theorem write_madeOf {data : List UInt8} (h : ∀ device, allowed (.write device a.offset data)) :
    (m.write a data).MadeOf (SessionPart allowed) :=
  .bind (.liftExcept _) fun _ ↦
    m.paged_madeOf a fun device ↦ Bus.write_madeOf (.part (.perform _ (h device)))

end Paged

end Selected

end Transceiver
