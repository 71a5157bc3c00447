import Transceiver.Proofs.Conduct.Driver
import Transceiver.Proofs.PageRestore
import Transceiver.Proofs.Session

/-!
# What initialization does to a module

Finding out about a module takes a few writes to it, of which none may reach its serial ID.  Main
statement: on every bench that loses no writes, whatever faults it has, initializing a module
changes no other device, and of the module only the byte that selects a page and one control byte
that its identifier and revision name.  Where that lies on a page and the memory is flat, the byte
at its offset is changed instead on the page that is shown: if that is page zero, the first byte of
the serial ID.
-/

namespace Transceiver

variable {α β : Type}

/-! ## What may be changed -/

namespace ModuleMemory

/-- The module is a double density one. -/
def IsDoubleDensity (m : ModuleMemory) : Prop :=
  Identifier.ofByte (m.get 0 QsfpMap.identifier) = .qsfpDD

/-- The memory of the module is flat. -/
def IsFlat (m : ModuleMemory) : Prop :=
  hasBit (m.get 0 QsfpMap.status) QsfpMap.flatMemoryBit = true

/-- The revision of the memory map. -/
def revision (m : ModuleMemory) : UInt8 := m.get 0 QsfpMap.revision

/-- A page that the module shows while it is initialized: the one it showed before, or page zero if
there are pages. -/
def Shows (m : ModuleMemory) (page : UInt8) : Prop :=
  page = m.currentPage ∨ page = 0 ∧ ¬ m.IsFlat

/-- The bytes that initialization may change, by page and offset. -/
inductive Prepares (m : ModuleMemory) : UInt8 → UInt8 → Prop
  | pageSelect (page : UInt8) : Prepares m page QsfpMap.pageSelect
  /-- A module that leaves its power class to software. -/
  | powerControl (page : UInt8) {shown : UInt8} : ¬ m.IsDoubleDensity → m.Shows shown →
      softwarePowerSupported (m.get shown QsfpMap.extIdentifier) = true →
      Prepares m page QsfpMap.powerControl
  | datapath2 (page : UInt8) : m.IsDoubleDensity → DoubleDensity.revision2 ≤ m.revision →
      m.revision < DoubleDensity.revision3 → Prepares m page 92
  | datapath3 : m.IsDoubleDensity → DoubleDensity.revision3 ≤ m.revision → ¬ m.IsFlat →
      Prepares m 16 128
  /-- The page of the datapath cannot be selected. -/
  | flat : m.IsDoubleDensity → DoubleDensity.revision3 ≤ m.revision → m.IsFlat →
      Prepares m m.currentPage 128

/-- Four bytes are all. -/
theorem Prepares.offset {m : ModuleMemory} {page offset : UInt8} (h : m.Prepares page offset) :
    offset ∈ [QsfpMap.pageSelect, QsfpMap.powerControl, 92, 128] := by
  cases h <;> decide

/-- Of the serial ID there is only the first byte, of a flat memory that shows it. -/
theorem Prepares.serial {m : ModuleMemory} {page offset : UInt8} (h : m.Prepares page offset)
    (hpage : page = 0) (hoffset : upperHalf ≤ offset) :
    offset = upperHalf ∧ m.IsDoubleDensity ∧ DoubleDensity.revision3 ≤ m.revision ∧ m.IsFlat ∧
      m.currentPage = 0 := by
  cases h with
  | pageSelect | powerControl | datapath2 => exact absurd hoffset (by decide)
  | datapath3 => exact absurd hpage (by decide)
  | flat hdd hrevision hflat => exact ⟨rfl, hdd, hrevision, hflat, hpage⟩

/-- What a write of one byte makes of a module. -/
theorem write_byte (m : ModuleMemory) (discards : UInt8 → Bool) (offset value : UInt8) :
    m.write discards offset [value] =
      if discards offset then m else m.set m.currentPage offset value := by
  have hpacket : packet? offset [value] = none := if_neg fun h ↦ nomatch h.2
  have hoffset : UInt8.ofNat offset.toNat = offset := UInt8.ofNat_toNat
  unfold write
  rw [hpacket]
  unfold store
  rw [if_pos offset.toNat_lt, hoffset]
  rfl

/-- Bytes before the mailbox are plain, but for the one that selects a page. -/
theorem plain_byte (m : ModuleMemory) {offset : UInt8} (hpage : offset ≠ QsfpMap.pageSelect)
    (hmailbox : offset < packetOffset) : m.Plain offset 1 := by
  refine ⟨mt covers_one.mp hpage, fun _ o ho hcovers ↦ ?_⟩
  cases covers_one.mp hcovers
  exact absurd hmailbox (UInt8.not_lt.mpr ho)

/-- The bytes of the lower half are on every page. -/
theorem get_of_lt (m : ModuleMemory) {offset : UInt8} (h : offset < upperHalf)
    (page page' : UInt8) : m.get page offset = m.get page' offset := by
  unfold get home
  rw [if_pos h, if_pos h]

end ModuleMemory

/-! ## What is kept -/

/-- A segment is as `s₀` was, but for the module at an address: that is as `m₀` was but for bytes
that initialization may change, and shows a page as `P` says. -/
structure Segment.Spares (s₀ : Segment) (address : UInt8) (m₀ : ModuleMemory) (P : UInt8 → Prop)
    (s : Segment) : Prop where
  faults : s.faults = s₀.faults
  others : ∀ a, a ≠ address → s.device? a = s₀.device? a
  module : ∃ m, s.device? address = some (.memory m) ∧ m.mailbox = m₀.mailbox ∧ P m.currentPage ∧
    ∀ page offset, ¬ m₀.Prepares page offset → m.get page offset = m₀.get page offset

/-- A program keeps what is so of the segment, and returns something as `Q` says. -/
def Program.Keeps (I : Segment → Prop) (p : Program α) (Q : α → Prop) : Prop :=
  ∀ b : Bench, I b.segment →
    I (p.final Bench.answer b).segment ∧ Q (p.value Bench.answer b)

namespace Program.Keeps

variable {I : Segment → Prop} {p : Program α} {f : α → Program β} {Q Q' : α → Prop}
  {R : β → Prop}

theorem done {a : α} (h : Q a) : (Program.done a).Keeps I Q := fun _ hb ↦ ⟨hb, h⟩

theorem bind (h : p.Keeps I Q) (hf : ∀ a, Q a → (f a).Keeps I R) : (p.bind f).Keeps I R := by
  intro b hb
  obtain ⟨hfinal, hvalue⟩ := h b hb
  rw [value_bind, final_bind]
  exact hf _ hvalue _ hfinal

theorem imp (h : p.Keeps I Q) (hQ : ∀ a, Q a → Q' a) : p.Keeps I Q' :=
  fun b hb ↦ (h b hb).imp_right (hQ _)

/-- What is off the bus leaves the segment as it is. -/
theorem offBus (h : p.MadeOf (Single Action.IsOffBus)) : p.Keeps I fun _ ↦ True := by
  intro b hb
  have hsegment : b.segment = (p.final Bench.answer b).segment := by
    refine h.segment_rel (R := Eq) (fun _ ↦ rfl) Eq.trans (fun _ q hq b ↦ ?_) b
    cases hq with
    | perform action ha =>
      cases action with
      | read _ _ _ | write _ _ _ => cases ha
      | _ => rfl
  exact ⟨hsegment ▸ hb, trivial⟩

theorem report (severity : Severity) (message : String) (fields : List (String × String)) :
    (Transceiver.report severity message fields).Keeps I fun _ ↦ True :=
  offBus (report_madeOf _ _ _)

end Program.Keeps

/-- A procedure keeps what is so of the segment, and returns something as `Q` says, if anything. -/
def Procedure.Keeps (I : Segment → Prop) (p : Procedure α) (Q : α → Prop) : Prop :=
  p.run.Keeps I fun r ↦ ∀ a, r = .ok a → Q a

namespace Procedure.Keeps

variable {I : Segment → Prop} {p q : Procedure α} {f : α → Procedure β} {Q : α → Prop}
  {R : β → Prop}

theorem pure {a : α} (h : Q a) : Keeps I (Pure.pure a) Q :=
  .done fun _ ha ↦ by cases ha; exact h

theorem throw (e : Error) : Keeps I (MonadExcept.throw e : Procedure α) Q := .done nofun

theorem bind (h : p.Keeps I Q) (hf : ∀ a, Q a → (f a).Keeps I R) : Keeps I (p >>= f) R := by
  unfold Keeps
  rw [run_bind]
  refine Program.Keeps.bind h fun r hr ↦ ?_
  cases r with
  | ok a => exact hf a (hr a rfl)
  | error e => exact .done nofun

theorem liftExcept (r : Except Error α) : Keeps I (liftM r : Procedure α) fun _ ↦ True :=
  .done fun _ _ ↦ trivial

theorem lift {p : Program α} (h : p.Keeps I Q) : Keeps I (liftM p : Procedure α) Q :=
  Program.Keeps.bind h fun _ hQ ↦ .done fun _ ha ↦ by cases ha; exact hQ

theorem imp {Q' : α → Prop} (h : p.Keeps I Q) (hQ : ∀ a, Q a → Q' a) : p.Keeps I Q' :=
  Program.Keeps.imp h fun _ hr a ha ↦ hQ a (hr a ha)

theorem ite {c : Prop} [Decidable c] (hp : c → p.Keeps I Q) (hq : ¬ c → q.Keeps I Q) :
    Keeps I (if c then p else q) Q := by
  split
  · exact hp ‹c›
  · exact hq ‹¬ c›

/-- A procedure that goes on only if a condition holds. -/
theorem require {c : Prop} [Decidable c] {e : Error} (h : c → p.Keeps I Q) :
    Keeps I (if c then p else (do MonadExcept.throw e; p)) Q :=
  .ite h fun _ ↦ .bind (Q := fun _ ↦ False) (.throw e) fun _ ↦ False.elim

theorem hold (g : PinGroup) (h : p.Keeps I Q) : (g.hold p).Keeps I Q := by
  refine Program.Keeps.bind (.offBus (Parts.single Action.IsOffBus rfl)) fun r _ ↦ ?_
  cases r with
  | error fault => exact .done nofun
  | ok _ =>
    exact Program.Keeps.bind h fun r hr ↦
      .bind (.offBus (Parts.single Action.IsOffBus rfl)) fun _ _ ↦ .done hr

theorem under (t? : Option SelectTarget) (h : p.Keeps I Q) :
    (Selector.under t? p).Keeps I Q := by
  cases t? with
  | none => exact h
  | some t =>
    refine hold t.group (.bind (Q := fun _ ↦ True) ?_ fun _ _ ↦ h)
    exact Program.Keeps.imp (.offBus (t.group.writeLevel_madeOf t.value)) fun _ _ _ _ ↦ trivial

/-- Selecting a module is off the bus. -/
theorem session {e : Eeprom} {body : Selected → Procedure α}
    (h : (body e.selected).Keeps I Q) : (e.session body).Keeps I Q := by
  have hvisit : (e.selector.during (do
      settle e.settleTime
      body ⟨e.address, e.scheme⟩)).Keeps I Q :=
    under _ (under _ (.bind (.lift (.offBus (settle_madeOf _))) fun _ _ ↦ h))
  unfold Eeprom.session
  split
  · refine .bind (Q := fun _ ↦ True)
      (Program.Keeps.imp (.offBus (Line.read_madeOf _)) fun _ _ _ _ ↦ trivial) fun _ _ ↦ ?_
    exact .require fun _ ↦ hvisit
  · exact hvisit

end Procedure.Keeps

/-! ## Transactions with the module -/

namespace Segment.Spares

variable {s₀ s : Segment} {address : UInt8} {m₀ : ModuleMemory} {P P' : UInt8 → Prop}

theorem imp (h : s₀.Spares address m₀ P s) (hP : ∀ page, P page → P' page) :
    s₀.Spares address m₀ P' s := by
  obtain ⟨m, hm, hmailbox, hpage, hbytes⟩ := h.module
  exact ⟨h.faults, h.others, m, hm, hmailbox, hP _ hpage, hbytes⟩

/-- The module may be replaced by another one that is as is wanted. -/
theorem setDevice (h : s₀.Spares address m₀ P s) {m : ModuleMemory}
    (hmailbox : m.mailbox = m₀.mailbox) (hpage : P' m.currentPage)
    (hbytes : ∀ page offset, ¬ m₀.Prepares page offset → m.get page offset = m₀.get page offset) :
    s₀.Spares address m₀ P' (s.setDevice address (some (.memory m))) :=
  ⟨h.faults, fun a ha ↦ (if_neg ha).trans (h.others a ha), m, if_pos rfl, hmailbox, hpage, hbytes⟩

end Segment.Spares

namespace Bus

variable {s₀ : Segment} {address offset : UInt8} {m₀ : ModuleMemory} {P : UInt8 → Prop}

/-- A byte that is read is one of a page that is shown, and as it was unless it may be changed. -/
theorem read_keeps (hpage : offset ≠ QsfpMap.pageSelect) (hmailbox : offset < packetOffset) :
    (read address offset 1).Keeps (s₀.Spares address m₀ P) fun b ↦
      ∃ page, P page ∧ (¬ m₀.Prepares page offset → byteIn b = m₀.get page offset) := by
  intro b hb
  obtain ⟨m, hm, -, hP, hbytes⟩ := hb.module
  rw [value_read, final_read]
  cases ht : touches b.segment.faults.reads address offset 1 with
  | true =>
    have hread : b.segment.read address offset 1 = (.error .notAcknowledged, b.segment) := if_pos ht
    rw [hread]
    exact ⟨hb, nofun⟩
  | false =>
    have hplain := m.plain_byte hpage hmailbox
    have hbyte : byteIn (m.read offset 1) = m.get m.currentPage offset := by
      rw [ModuleMemory.read_eq_get hplain offset.toNat_lt]
      simp [byteIn]
    rw [Segment.read_memory hm ht, ModuleMemory.afterRead_eq_self hplain,
      Segment.setDevice_self hm]
    refine ⟨hb, fun bytes hok ↦ ?_⟩
    cases hok
    exact ⟨m.currentPage, hP, fun hkept ↦ hbyte.trans (hbytes _ _ hkept)⟩

theorem readByte_keeps (hpage : offset ≠ QsfpMap.pageSelect) (hmailbox : offset < packetOffset) :
    (readByte address offset).Keeps (s₀.Spares address m₀ P) fun v ↦
      ∃ page, P page ∧ (¬ m₀.Prepares page offset → v = m₀.get page offset) :=
  .bind (read_keeps hpage hmailbox) fun _ hb ↦ .pure hb

/-- A byte that may be changed may be written. -/
theorem write_keeps (value : UInt8) (hpage : offset ≠ QsfpMap.pageSelect)
    (hP : ∀ page shown, P shown → ModuleMemory.home page offset = ModuleMemory.home shown offset →
      m₀.Prepares page offset) :
    (write address offset [value]).Keeps (s₀.Spares address m₀ P) fun _ ↦ True := by
  intro b hb
  refine ⟨?_, fun _ _ ↦ trivial⟩
  obtain ⟨m, hm, hmailbox, hshown, hbytes⟩ := hb.module
  rw [final_write]
  rcases b.segment.write_cases address offset [value] with
    ⟨-, hw⟩ | ⟨-, ⟨m', hm', hw⟩ | ⟨bank, hbank, hw⟩⟩
  · rw [hw]
    exact hb
  · cases Option.some.inj (hm.symm.trans hm')
    rw [hw, ModuleMemory.write_byte]
    split
    · exact hb.setDevice hmailbox hshown hbytes
    · refine hb.setDevice (m := m.set m.currentPage offset value) hmailbox ?_ fun page o ho ↦ ?_
      · rw [ModuleMemory.currentPage_set_of_ne m hpage]
        exact hshown
      · rw [ModuleMemory.get_set_of_ne m value fun h ↦ ?_]
        · exact hbytes page o ho
        · obtain ⟨hhome, rfl⟩ := h
          exact ho (hP page _ hshown hhome)
  · cases hm.symm.trans hbank

end Bus

namespace Selected

variable {s₀ : Segment} {address : UInt8} {m₀ : ModuleMemory} {P : UInt8 → Prop}

section Page

variable (hdiscards : s₀.faults.discards = [])
include hdiscards

/-- A page is shown once it is selected, unless that is refused, then and ever. -/
theorem turned_spares (page : UInt8) {b : Bench} (hb : s₀.Spares address m₀ P b.segment) :
    if touches s₀.faults.writes address QsfpMap.pageSelect 1 then
      b.segment.write address QsfpMap.pageSelect [page] = (.error .notAcknowledged, b.segment)
    else
      (b.segment.write address QsfpMap.pageSelect [page]).1 = .ok () ∧
        s₀.Spares address m₀ (· = page) (turned address page b).segment := by
  obtain ⟨m, hm, hmailbox, -, hbytes⟩ := hb.module
  rw [← hb.faults]
  split
  · rename_i ht
    exact if_pos ht
  · rename_i ht
    have hkept : b.segment.discards address QsfpMap.pageSelect = false := by
      unfold Segment.discards
      rw [hb.faults, hdiscards]
      rfl
    have htouches : touches b.segment.faults.writes address QsfpMap.pageSelect
        [page].length = false := Bool.eq_false_iff.mpr ht
    unfold turned
    rw [Segment.write_memory hm htouches, ModuleMemory.write_pageSelect, hkept]
    refine ⟨rfl, hb.setDevice hmailbox (m.get_set_self 0 _ page) fun p o ho ↦ ?_⟩
    refine (m.get_set_of_ne page fun h ↦ ho ?_).trans (hbytes p o ho)
    rw [h.2]
    exact .pageSelect p

/-- A page that is selected is left for page zero. -/
theorem onPage_keeps {page : UInt8} (hP : P 0) {body : Procedure α} {Q : α → Prop}
    (h : body.Keeps (s₀.Spares address m₀ (· = page)) Q) :
    (onPage address page body).Keeps (s₀.Spares address m₀ P) Q := by
  intro b hb
  have hselect := turned_spares hdiscards page hb
  split at hselect
  · have hrefused : (b.segment.write address QsfpMap.pageSelect [page]).1 =
        .error .notAcknowledged := congrArg Prod.fst hselect
    rw [final_onPage_of_error body hrefused, value_onPage_of_error body hrefused]
    unfold turned
    rw [hselect]
    exact ⟨hb, nofun⟩
  · rename_i htouches
    obtain ⟨hselected, hturned⟩ := hselect
    obtain ⟨hfinal, hvalue⟩ := h _ hturned
    have hleave := turned_spares hdiscards 0 hfinal
    rw [if_neg htouches] at hleave
    rw [final_onPage body hselected, value_onPage body hselected]
    refine ⟨hleave.2.imp fun page hpage ↦ ?_, hvalue⟩
    rw [hpage]
    exact hP

end Page

theorem lowerByte_eq (m : Selected) (offset : UInt8) :
    m.lowerByte offset = Bus.readByte m.address offset := readByte_eq rfl

theorem writeByte_eq (m : Selected) (offset value : UInt8) :
    m.writeByte (.unpaged offset) value = Bus.write m.address offset [value] := by
  have hrange : (Address.unpaged offset).offset.toNat + 1 ≤ addressSpace := offset.toNat_lt
  unfold writeByte write
  rw [List.length_singleton, checkRange_bind hrange, paged_unpaged rfl]
  rfl

/-- A byte of the lower half that is never changed is as it was. -/
theorem lowerByte_keeps {k : PagingScheme} {offset : UInt8} (hlower : offset < upperHalf)
    (hoffset : offset ∉ [QsfpMap.pageSelect, QsfpMap.powerControl, 92, 128]) :
    (lowerByte ⟨address, k⟩ offset).Keeps (s₀.Spares address m₀ P) (· = m₀.get 0 offset) := by
  have hpage : offset ≠ QsfpMap.pageSelect := fun h ↦ hoffset (h ▸ .head _)
  have hmailbox : offset < packetOffset := UInt8.lt_trans hlower (by decide)
  rw [lowerByte_eq]
  refine (Bus.readByte_keeps hpage hmailbox).imp ?_
  rintro v ⟨page, -, hv⟩
  exact (hv fun h ↦ hoffset h.offset).trans (m₀.get_of_lt hlower _ _)

/-- The module tells whether its memory is flat. -/
theorem pagingSupported_keeps :
    (pagingSupported ⟨address, .sff8636⟩).Keeps (s₀.Spares address m₀ P) fun supported ↦
      supported = true ↔ ¬ m₀.IsFlat := by
  have hstatus : (Bus.readByte address QsfpMap.status).Keeps (s₀.Spares address m₀ P)
      (· = m₀.get 0 QsfpMap.status) :=
    lowerByte_eq ⟨address, .sff8636⟩ _ ▸ lowerByte_keeps (by decide) (by decide)
  refine .bind hstatus fun status h ↦ .pure ?_
  rw [h]
  unfold ModuleMemory.IsFlat
  simp

section Page

variable (hdiscards : s₀.faults.discards = [])
include hdiscards

theorem selectPage_keeps {page : UInt8} (hP : P page) :
    (selectPage address page).Keeps (s₀.Spares address m₀ P) fun _ ↦ True := by
  intro b hb
  refine ⟨?_, fun _ _ ↦ trivial⟩
  have hselect := turned_spares hdiscards page hb
  rw [final_selectPage]
  split at hselect
  · unfold turned
    rw [hselect]
    exact hb
  · exact hselect.2.imp fun _ h ↦ h ▸ hP

/-- An access to a page goes there if the memory is paged, and else to the page that is shown. -/
theorem paged_keeps {a : Address} {page : UInt8} (ha : a.page = .select page)
    (hdevice : a.device = .auto) (hP : ¬ m₀.IsFlat → P 0) {body : UInt8 → Procedure α}
    {Q : α → Prop}
    (hpaged : ¬ m₀.IsFlat → (body address).Keeps (s₀.Spares address m₀ (· = page)) Q)
    (hflat : m₀.IsFlat → (body address).Keeps (s₀.Spares address m₀ P) Q) :
    (paged ⟨address, .sff8636⟩ a body).Keeps (s₀.Spares address m₀ P) Q := by
  unfold paged
  rw [ha, hdevice]
  refine .bind pagingSupported_keeps fun supported h ↦ .ite (fun hs ↦ ?_) fun hs ↦ ?_
  · exact onPage_keeps hdiscards (hP (h.mp hs)) (hpaged (h.mp hs))
  · refine .bind (.lift (.report _ _ _)) fun _ _ ↦ hflat ?_
    exact Classical.byContradiction fun hnot ↦ hs (h.mpr hnot)

end Page

end Selected

/-! ## Discovery -/

namespace Qsfp

variable {s₀ : Segment} {address : UInt8} {m₀ : ModuleMemory}

/-- The extended identifier is that of a page that is shown. -/
theorem extIdentifier_keeps :
    (Selected.lowerByte ⟨address, .sff8636⟩ QsfpMap.extIdentifier).Keeps
      (s₀.Spares address m₀ m₀.Shows) fun ext ↦
        ∃ shown, m₀.Shows shown ∧ m₀.get shown QsfpMap.extIdentifier = ext := by
  rw [Selected.lowerByte_eq]
  refine (Bus.readByte_keeps (by decide) (by decide)).imp ?_
  rintro ext ⟨shown, hshown, hext⟩
  exact ⟨shown, hshown, (hext fun h ↦ absurd h.offset (by decide)).symm⟩

/-- Only an identifier of its own makes a module a double density one. -/
theorem ofIdentifier_eq_qsfpDD {id : Identifier} :
    Category.ofIdentifier id = .qsfpDD ↔ id = .qsfpDD := by
  cases id <;> simp [Category.ofIdentifier]

section Power

variable (hdd : ¬ m₀.IsDoubleDensity)
include hdd

/-- Power is forced if the module leaves its class to software. -/
theorem forcePower_keeps (high : Bool) :
    (forcePower ⟨address, .sff8636⟩ high).Keeps (s₀.Spares address m₀ m₀.Shows) fun _ ↦ True := by
  refine .bind extIdentifier_keeps fun ext hext ↦ .require fun hsoftware ↦ ?_
  obtain ⟨shown, hshown, rfl⟩ := hext
  have hcontrol : (Selected.readByte ⟨address, .sff8636⟩ (.unpaged QsfpMap.powerControl)).Keeps
      (s₀.Spares address m₀ m₀.Shows) fun _ ↦ True := by
    refine (Selected.lowerByte_eq ⟨address, .sff8636⟩ QsfpMap.powerControl ▸
      Bus.readByte_keeps (by decide) (by decide)).imp fun _ _ ↦ trivial
  have hwrite (value : UInt8) :
      (Selected.writeByte ⟨address, .sff8636⟩ (.unpaged QsfpMap.powerControl) value).Keeps
        (s₀.Spares address m₀ m₀.Shows) fun _ ↦ True := by
    rw [Selected.writeByte_eq]
    exact Bus.write_keeps value (by decide) fun page _ _ _ ↦
      .powerControl page hdd hshown hsoftware
  refine .bind (Q := fun _ ↦ True) ?_ fun _ _ ↦ .pure trivial
  exact .bind hcontrol fun _ _ ↦ .bind (.liftExcept _) fun new _ ↦
    .ite (fun _ ↦ .bind (hwrite new) fun _ _ ↦ .pure trivial) fun _ ↦ .pure trivial

theorem readMaxPower_keeps :
    (readMaxPower ⟨address, .sff8636⟩).Keeps (s₀.Spares address m₀ m₀.Shows) fun _ ↦ True := by
  refine .bind extIdentifier_keeps fun r _ ↦ ?_
  cases r with
  | error e => exact .bind (.report _ _ _) fun _ _ ↦ .done trivial
  | ok extIdentifier =>
    dsimp only
    split
    · refine .bind (forcePower_keeps hdd false) fun r _ ↦ ?_
      cases r with
      | ok _ => exact .done trivial
      | error e => exact .bind (.report _ _ _) fun _ _ ↦ .done trivial
    · exact .done trivial

end Power

section Page

variable (hdiscards : s₀.faults.discards = [])
include hdiscards

/-- Page zero is shown only if there are pages. -/
theorem homePage_keeps :
    (homePage ⟨address, .sff8636⟩).Keeps (s₀.Spares address m₀ m₀.Shows) fun _ ↦ True := by
  refine .bind Selected.pagingSupported_keeps fun r h ↦ ?_
  cases r with
  | error e => exact .report _ _ _
  | ok supported =>
    cases supported with
    | false => exact .done trivial
    | true =>
      have hpaged : ¬ m₀.IsFlat := (h true rfl).mp rfl
      refine .bind (Selected.selectPage_keeps hdiscards (.inr ⟨rfl, hpaged⟩)) fun r _ ↦ ?_
      cases r with
      | ok _ => exact .done trivial
      | error e => exact .report _ _ _

/-- The datapath is controlled on a page, or on the one that is shown of a flat memory. -/
theorem powerUpDatapath_keeps {page offset : UInt8} (hselect : offset ≠ QsfpMap.pageSelect)
    (hmailbox : offset < packetOffset)
    (hpaged : ¬ m₀.IsFlat → ∀ p, ModuleMemory.home p offset = ModuleMemory.home page offset →
      m₀.Prepares p offset)
    (hflat : m₀.IsFlat → ∀ p,
      ModuleMemory.home p offset = ModuleMemory.home m₀.currentPage offset →
      m₀.Prepares p offset) :
    (powerUpDatapath ⟨address, .sff8636⟩ (.paged page offset)).Keeps
      (s₀.Spares address m₀ m₀.Shows) fun _ ↦ True := by
  have hrange : (Address.paged page offset).offset.toNat + 1 ≤ addressSpace := offset.toNat_lt
  have hwrite : (Selected.writeByte ⟨address, .sff8636⟩ (.paged page offset)
      DoubleDensity.allLanes).Keeps (s₀.Spares address m₀ m₀.Shows) fun _ ↦ True := by
    unfold Selected.writeByte Selected.write
    rw [List.length_singleton, Selected.checkRange_bind hrange]
    refine Selected.paged_keeps hdiscards rfl rfl (fun h ↦ .inr ⟨rfl, h⟩) (fun h ↦ ?_) fun h ↦ ?_
    · refine Bus.write_keeps _ hselect fun p shown hshown hhome ↦ hpaged h p ?_
      rw [← hshown]
      exact hhome
    · refine Bus.write_keeps _ hselect fun p shown hshown hhome ↦ hflat h p ?_
      rcases hshown with rfl | ⟨-, hnot⟩
      · exact hhome
      · exact absurd h hnot
  have hread : (Selected.readByte ⟨address, .sff8636⟩ (.paged page offset)).Keeps
      (s₀.Spares address m₀ m₀.Shows) fun _ ↦ True := by
    unfold Selected.readByte Selected.read
    rw [Selected.checkRange_bind hrange]
    refine .bind (Q := fun _ ↦ True) ?_ fun _ _ ↦ .pure trivial
    refine Selected.paged_keeps hdiscards rfl rfl (fun h ↦ .inr ⟨rfl, h⟩) (fun _ ↦ ?_) fun _ ↦ ?_
    · exact (Bus.read_keeps hselect hmailbox).imp fun _ _ ↦ trivial
    · exact (Bus.read_keeps hselect hmailbox).imp fun _ _ ↦ trivial
  refine Program.Keeps.bind (Procedure.Keeps.bind hwrite fun _ _ ↦ hread) fun r _ ↦ ?_
  cases r with
  | error e => exact .report _ _ _
  | ok value =>
    dsimp only
    split
    · exact .report _ _ _
    · exact .report _ _ _

/-- The control byte of a double density module is that of its revision. -/
theorem datapath_keeps (hdd : m₀.IsDoubleDensity) {a : Address}
    (ha : DoubleDensity.datapathControl? m₀.revision = some a) :
    (powerUpDatapath ⟨address, .sff8636⟩ a).Keeps (s₀.Spares address m₀ m₀.Shows)
      fun _ ↦ True := by
  unfold DoubleDensity.datapathControl? at ha
  split at ha
  · rename_i h3
    cases ha
    refine powerUpDatapath_keeps hdiscards (by decide) (by decide) (fun hpaged p hp ↦ ?_)
      fun hflat p hp ↦ ?_
    · obtain rfl : p = 16 := hp
      exact .datapath3 hdd h3 hpaged
    · obtain rfl : p = m₀.currentPage := hp
      exact .flat hdd h3 hflat
  · split at ha
    · rename_i h3 h2
      cases ha
      have h92 (p : UInt8) : m₀.Prepares p 92 := .datapath2 p hdd h2 (UInt8.not_le.mp h3)
      exact powerUpDatapath_keeps hdiscards (by decide) (by decide) (fun _ p _ ↦ h92 p)
        fun _ p _ ↦ h92 p
    · cases ha

theorem discover_keeps (q : Qsfp) :
    q.discover.Keeps (s₀.Spares q.cage.address m₀ m₀.Shows) fun _ ↦ True := by
  unfold discover session
  refine .session ?_
  refine .bind (Selected.lowerByte_keeps (by decide) (by decide)) fun id hid ↦
    .ite (fun _ ↦ .pure trivial) fun _ ↦ .bind (.lift (homePage_keeps hdiscards)) fun _ _ ↦
    .bind (Selected.lowerByte_keeps (by decide) (by decide)) fun revision hrevision ↦ ?_
  subst hid
  dsimp only
  rw [hrevision]
  refine .ite (fun h ↦ ?_) fun h ↦ ?_
  · split
    · rename_i a ha
      exact .bind (.lift (datapath_keeps hdiscards (ofIdentifier_eq_qsfpDD.mp h) ha)) fun _ _ ↦
        .pure trivial
    · exact .pure trivial
  · exact .bind (.lift (readMaxPower_keeps (mt ofIdentifier_eq_qsfpDD.mpr h))) fun _ _ ↦
      .pure trivial

theorem moduleInit_keeps (q : Qsfp) :
    (q.moduleInit true).Keeps (s₀.Spares q.cage.address m₀ m₀.Shows) fun _ ↦ True := by
  refine .bind (q.discover_keeps hdiscards) fun r _ ↦ ?_
  cases r with
  | error e => exact .done trivial
  | ok found => exact .bind (.report _ _ _) fun _ _ ↦ .done trivial

end Page

end Qsfp

namespace Driver

theorem moduleInit_keeps {s₀ : Segment} {m₀ : ModuleMemory} (hdiscards : s₀.faults.discards = [])
    (v : Driver) :
    (v.perform (.moduleInit true)).Keeps (s₀.Spares v.cage.address m₀ m₀.Shows) fun _ ↦ True := by
  cases v with
  | sfp d => exact .done trivial
  | qsfp d => exact .bind (d.moduleInit_keeps hdiscards) fun _ _ ↦ .done trivial
  | subPort d =>
    refine .bind (Q := fun _ ↦ True) (.bind (d.inner.moduleInit_keeps hdiscards) fun _ _ ↦ ?_)
      fun _ _ ↦ .done trivial
    exact .done trivial

/-- On a bench that loses no writes, initializing a module changes of all devices only the module,
and of that only what initialization may change.  Of the serial ID that is the first byte, and only
of a flat double density module that shows it. -/
theorem moduleInit_spares (v : Driver) {b : Bench} (hdiscards : b.segment.faults.discards = [])
    {m : ModuleMemory} (hm : b.segment.module? v.cage.address = some m) :
    let s := ((v.perform (.moduleInit true)).final Bench.answer b).segment
    (∀ a, a ≠ v.cage.address → s.device? a = b.segment.device? a) ∧
      ∃ m', s.module? v.cage.address = some m' ∧ m'.mailbox = m.mailbox ∧
        (∀ page offset, m'.get page offset ≠ m.get page offset → m.Prepares page offset) ∧
        ∀ offset, upperHalf ≤ offset → m'.get 0 offset ≠ m.get 0 offset →
          offset = upperHalf ∧ m.IsDoubleDensity ∧ DoubleDensity.revision3 ≤ m.revision ∧
            m.IsFlat ∧ m.currentPage = 0 := by
  have hstart : b.segment.Spares v.cage.address m m.Shows b.segment :=
    ⟨rfl, fun _ _ ↦ rfl, m, Segment.device?_of_module? hm, rfl, .inl rfl, fun _ _ _ ↦ rfl⟩
  obtain ⟨-, hothers, m', hm', hmailbox, -, hbytes⟩ := (v.moduleInit_keeps hdiscards b hstart).1
  have hprepares (page offset : UInt8) (h : m'.get page offset ≠ m.get page offset) :
      m.Prepares page offset := Classical.byContradiction fun hnot ↦ h (hbytes page offset hnot)
  refine ⟨hothers, m', ?_, hmailbox, hprepares, fun offset hoffset h ↦ ?_⟩
  · unfold Segment.module?
    rw [hm']
  · exact (hprepares 0 offset h).serial rfl hoffset

/-- A double density module with pages, none of which can be selected. -/
theorem moduleInit_spares_stuck_page :
    let c : Cage := {
      instanceId := 0, name := "port0", family := .qsfp, portType := .qsfp, address := 0x50
      selector := ⟨none, none⟩, selectDelay := .zero, presence := ⟨⟨"control", 0⟩, 0⟩
      reset := none, resetDelay := .zero, lowPower := none, txControl := none, rxLoss := none
      txFault := none, portLed := none, defaultSpeedMbps := none, channelOffset := 0
      maxPowerMw := 3500 }
    let m := ModuleMemory.blank.fill 0 0 [0x18, 0x30, 0]
    let s := (Segment.blank.setDevice 0x50 (some (.memory m))).failWrites ⟨0x50, 127⟩
    let b : Bench := ⟨s, fun _ ↦ .ofLevel 1⟩
    let v : Driver := .qsfp (.ofCage c)
    ∃ m', ((v.perform (.moduleInit true)).final Bench.answer b).segment.module? 0x50 = some m' ∧
      ∀ page offset, m'.get page offset ≠ m.get page offset → m.Prepares page offset := by
  intro c m s b v
  obtain ⟨m', hm', -, hprepares, -⟩ := (moduleInit_spares v (b := b) rfl (m := m) rfl).2
  exact ⟨m', hm', hprepares⟩

/-- A double density module that is flat loses the first byte of its serial ID. -/
theorem not_moduleInit_spares_serial :
    let d : Draft := { name := "port0", family := .qsfp, presence := some ⟨⟨"control", 0⟩, 0⟩ }
    let s := ((Segment.blank.addModule 0x50).poke 0x50 0 0 [0x18, 0x30, 0x04]).poke 0x50 0 128
      [0x18]
    ∃ c, d.build = .ok c ∧
      let b : Bench := ⟨s, fun _ ↦ .ofLevel 1⟩
      let init := (Driver.ofCage c).perform (.moduleInit true)
      s.faults.discards = [] ∧ (init.value Bench.answer b).1 = .ok () ∧
        s.peek 0x50 0 128 1 = [0x18] ∧
        (init.final Bench.answer b).segment.peek 0x50 0 128 1 = [0xff] :=
  ⟨_, rfl, rfl, rfl, rfl, rfl⟩

end Driver

end Transceiver
