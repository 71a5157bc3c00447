import Transceiver.Proofs.Session

/-!
# Paged memory

Behind a probe, a page change, an access and the change back lies a flat memory of bytes by page and
offset.  Main statement: unless a transaction goes wrong, an access reads or writes the bytes of the
page that it names, or of page zero where the module announces no pages, and no others.
-/

namespace Transceiver

/-! ## Plain transactions -/

namespace Bus

variable {b : Bench} {device offset : UInt8} {m : ModuleMemory}

/-- A read of plain bytes of a module, which changes nothing. -/
theorem read_runsTo {length : Nat} (hf : b.segment.Faultless)
    (hm : b.segment.device? device = some (.memory m)) (hp : m.Plain offset length)
    (hrange : offset.toNat + length ≤ 256) :
    (read device offset length).RunsTo Bench.answer b
      (.ok (.ofFn fun i ↦ m.get m.currentPage (.ofNat (offset.toNat + i)))) b := by
  have ht := hf.touches_reads device offset length
  constructor
  · rw [value_read, Segment.read_memory hm ht, m.read_eq_get hp hrange]
    rfl
  · rw [final_read, Segment.read_memory hm ht, ModuleMemory.afterRead_eq_self hp]
    exact Bench.withModule_self hm

/-- A write of plain bytes of a module. -/
theorem write_runsTo {data : List UInt8} (hf : b.segment.Faultless)
    (hm : b.segment.device? device = some (.memory m)) (hp : m.Plain offset data.length) :
    (write device offset data).RunsTo Bench.answer b (.ok ())
      (b.withModule device (m.put m.currentPage offset.toNat data)) := by
  have ht := hf.touches_writes device offset data.length
  constructor
  · rw [value_write, Segment.write_memory hm ht]
    rfl
  · rw [final_write, Segment.write_memory hm ht, hf.discards_eq, ModuleMemory.write_eq_put hp]
    rfl

end Bus

/-! ## Turning pages -/

namespace ModuleMemory

variable {m : ModuleMemory}

/-- A module that shows another page. -/
def showing (m : ModuleMemory) (page : UInt8) : ModuleMemory := m.set 0 QsfpMap.pageSelect page

@[simp] theorem currentPage_showing (page : UInt8) : (m.showing page).currentPage = page :=
  get_set_self _ _ _ _

theorem plain_showing {page offset : UInt8} {length : Nat} :
    (m.showing page).Plain offset length ↔ m.Plain offset length := Iff.rfl

theorem get_showing_of_ne {page page' offset : UInt8} (h : offset ≠ QsfpMap.pageSelect) :
    (m.showing page).get page' offset = m.get page' offset :=
  get_set_of_ne m page fun h' ↦ h h'.2

theorem showing_showing (page page' : UInt8) :
    (m.showing page).showing page' = m.showing page' := by
  refine congrArg (ModuleMemory.mk · m.mailbox) (funext fun p ↦ funext fun o ↦ ?_)
  by_cases h : p = home 0 QsfpMap.pageSelect ∧ o = QsfpMap.pageSelect <;> simp [showing, set, h]

theorem showing_currentPage : m.showing m.currentPage = m := by
  obtain ⟨cell, mailbox⟩ := m
  refine congrArg (ModuleMemory.mk · mailbox) (funext fun p ↦ funext fun o ↦ ?_)
  by_cases h : p = home 0 QsfpMap.pageSelect ∧ o = QsfpMap.pageSelect
  · rw [if_pos h, h.1, h.2]
    rfl
  · rw [if_neg h]

/-- Turning to a page and putting bytes do not disturb each other. -/
theorem showing_put (page page' : UInt8) {offset : UInt8} {data : List UInt8}
    (h : ¬ Covers offset data.length QsfpMap.pageSelect) :
    (m.showing page).put page' offset.toNat data =
      (m.put page' offset.toNat data).showing page := by
  refine congrArg (ModuleMemory.mk · m.mailbox) (funext fun p ↦ funext fun o ↦ ?_)
  by_cases ho : o = QsfpMap.pageSelect
  · have hcell (m : ModuleMemory) : (m.put page' offset.toNat data).cell p o = m.cell p o :=
      m.cell_put_of_not fun hc ↦ h (ho ▸ hc.2)
    refine (hcell (m.showing page)).trans ?_
    simp only [showing, set, hcell]
  · simp [showing, set, put, ho]

/-- Bytes put on another page stay there when the page is turned back. -/
theorem showing_put_back (page page' : UInt8) {offset : UInt8} {data : List UInt8}
    (h : ¬ Covers offset data.length QsfpMap.pageSelect) :
    ((m.showing page).put page' offset.toNat data).showing m.currentPage =
      m.put page' offset.toNat data := by
  rw [showing_put page page' h, showing_showing, ← m.currentPage_put page' h,
    showing_currentPage]

end ModuleMemory

namespace Selected

variable (m : Selected) (s : Segment)

/-- The module says that it has pages. -/
def announces : Bool :=
  match m.scheme with
  | .sff8636 =>
    (s.module? m.address).any fun mem ↦ !hasBit (mem.get 0 QsfpMap.status) QsfpMap.flatMemoryBit
  | .sff8472 =>
    (s.module? serialDevice).any fun mem ↦ hasBit (mem.get 0 SfpMap.options) SfpMap.pagingBit
  | .flat => false

/-- There is a module to ask for pages. -/
def ProbeAnswers : Prop :=
  match m.scheme with
  | .sff8636 => (s.module? m.address).isSome
  | .sff8472 => (s.module? serialDevice).isSome
  | .flat => True

/-- The page that an access reaches. -/
def pageOf (a : Address) : UInt8 :=
  match a.page with
  | .ignore => 0
  | .select page => if m.announces s then page else 0

variable {m} {b : Bench}

/-- A byte before the one that selects a page is the same on every page. -/
theorem readByte_runsTo {device offset : UInt8} {mem : ModuleMemory} (hf : b.segment.Faultless)
    (hmem : b.segment.module? device = some mem) (ho : offset < QsfpMap.pageSelect) :
    (Bus.readByte device offset).RunsTo Bench.answer b (.ok (mem.get 0 offset)) b := by
  have hlt : offset.toNat < 127 := UInt8.lt_iff_toNat_lt.mp ho
  have hplain : mem.Plain offset 1 := by
    refine ⟨fun hc ↦ ?_, fun _ o hle hc ↦ ?_⟩
    · rw [covers_one] at hc
      rw [hc] at hlt
      exact absurd hlt (by decide)
    · have hle : 250 ≤ o.toNat := UInt8.le_iff_toNat_le.mp hle
      rw [covers_one] at hc
      rw [hc] at hlt
      omega
  have hread := Bus.read_runsTo hf (Segment.device?_of_module? hmem) hplain (by omega)
  have hbyte : byteIn (.ofFn fun i : Fin 1 ↦ mem.get mem.currentPage
      (.ofNat (offset.toNat + i))) = mem.get 0 offset := by
    have hlow : offset < upperHalf := UInt8.lt_iff_toNat_lt.mpr (by change _ < 128; omega)
    simp [byteIn, ModuleMemory.get, ModuleMemory.home, hlow]
  rw [← hbyte]
  exact hread.bind (.pure _ _)

/-- Asking for pages tells whether the module announces them. -/
theorem pagingSupported_runsTo (hf : b.segment.Faultless) (hprobe : m.ProbeAnswers b.segment) :
    m.pagingSupported.RunsTo Bench.answer b (.ok (m.announces b.segment)) b := by
  unfold pagingSupported announces
  unfold ProbeAnswers at hprobe
  cases hscheme : m.scheme with
  | sff8636 =>
    rw [hscheme] at hprobe
    obtain ⟨mem, hmem⟩ := Option.isSome_iff_exists.mp hprobe
    refine (readByte_runsTo hf hmem (by decide)).bind ?_
    rw [hmem]
    exact .pure _ _
  | sff8472 =>
    rw [hscheme] at hprobe
    obtain ⟨mem, hmem⟩ := Option.isSome_iff_exists.mp hprobe
    refine (readByte_runsTo hf hmem (by decide)).bind ?_
    rw [hmem]
    exact .pure _ _
  | flat => exact .pure _ _

/-- To turn to a page of a module that answers. -/
theorem turned_eq (page : UInt8) {device : UInt8} {mem : ModuleMemory} (hf : b.segment.Faultless)
    (hm : b.segment.device? device = some (.memory mem)) :
    (b.segment.write device QsfpMap.pageSelect [page]).1 = .ok () ∧
      turned device page b = b.withModule device (mem.showing page) := by
  unfold turned
  rw [Segment.write_memory hm (hf.touches_writes device _ _), hf.discards_eq]
  exact ⟨rfl, rfl⟩

/-- Around an access on the page that is reached, the page is turned there and back. -/
theorem paged_runsTo {α : Type} {a : Address} {mem mem' : ModuleMemory} {r : Except Error α}
    (body : UInt8 → Procedure α) (hf : b.segment.Faultless)
    (hm : b.segment.device? (a.device.resolve m.address) = some (.memory mem))
    (hhome : mem.currentPage = 0) (hprobe : m.ProbeAnswers b.segment)
    (hpage : mem'.currentPage = m.pageOf b.segment a)
    (hbody : (body (a.device.resolve m.address)).RunsTo Bench.answer
      (b.withModule (a.device.resolve m.address) (mem.showing (m.pageOf b.segment a))) r
      (b.withModule (a.device.resolve m.address) mem')) :
    (m.paged a body).RunsTo Bench.answer b r
      (b.withModule (a.device.resolve m.address) (mem'.showing 0)) := by
  generalize hdevice : a.device.resolve m.address = device at hm hbody ⊢
  -- on page zero nothing is turned
  have hzero (h : m.pageOf b.segment a = 0) : (body device).RunsTo Bench.answer b r
      (b.withModule device (mem'.showing 0)) := by
    have hshow : mem.showing 0 = mem := by rw [← hhome, mem.showing_currentPage]
    have hshow' : mem'.showing 0 = mem' := by rw [← h, ← hpage, mem'.showing_currentPage]
    rw [h, hshow, Bench.withModule_self hm] at hbody
    rw [hshow']
    exact hbody
  unfold paged
  rw [hdevice]
  dsimp only
  cases hselect : a.page with
  | ignore =>
    refine hzero ?_
    unfold pageOf
    rw [hselect]
  | select page =>
    refine (pagingSupported_runsTo hf hprobe).bind ?_
    cases hannounces : m.announces b.segment with
    | false =>
      rw [if_neg Bool.false_ne_true]
      refine (Procedure.RunsTo.lift _ _).bind (hzero ?_)
      unfold pageOf
      rw [hselect, hannounces]
      rfl
    | true =>
      have hpageOf : m.pageOf b.segment a = page := by
        unfold pageOf
        rw [hselect, hannounces]
        rfl
      rw [hpageOf] at hbody
      obtain ⟨hok, hturn⟩ := turned_eq page hf hm
      rw [if_pos rfl]
      constructor
      · rw [value_onPage (body device) hok, hturn]
        exact hbody.value
      · rw [final_onPage (body device) hok, hturn, hbody.final]
        obtain ⟨-, hback⟩ :=
          turned_eq 0 (Bench.faultless_withModule hf) (b.device?_withModule device mem')
        rw [hback, Bench.withModule_withModule]

/-! ## Accesses -/

/-- No transaction goes wrong, and there are modules to access and to ask for pages. -/
structure Answers (m : Selected) (a : Address) (s : Segment) (mem : ModuleMemory) : Prop where
  faultless : s.Faultless
  device : s.device? (a.device.resolve m.address) = some (.memory mem)
  probe : m.ProbeAnswers s

theorem Answers.currentPage {a : Address} {s : Segment} {mem : ModuleMemory}
    (h : m.Answers a s mem) (hhome : s.AtHome) : mem.currentPage = 0 := by
  have := hhome (a.device.resolve m.address)
  unfold Segment.currentPage Segment.module? at this
  rw [h.device] at this
  exact this

theorem checkRange_of_lt {a : Address} {n : Nat} (h : 256 < a.offset.toNat + n) :
    ∃ text, checkRange a n = .error (.invalidArgument text) := ⟨_, if_pos h⟩

theorem checkRange_of_le {a : Address} {n : Nat} (h : a.offset.toNat + n ≤ 256) :
    checkRange a n = .ok () := if_neg (Nat.not_lt.mpr h)

/-- An access beyond the end of a device is refused before anything is done. -/
theorem run_read_outside (m : Selected) {a : Address} {n : Nat}
    (h : 256 < a.offset.toNat + n) :
    ∃ text, (m.read a n).run = .done (.error (.invalidArgument text)) := by
  obtain ⟨text, htext⟩ := checkRange_of_lt h
  refine ⟨text, ?_⟩
  unfold read
  rw [htext]
  rfl

theorem run_write_outside (m : Selected) {a : Address} {data : List UInt8}
    (h : 256 < a.offset.toNat + data.length) :
    ∃ text, (m.write a data).run = .done (.error (.invalidArgument text)) := by
  obtain ⟨text, htext⟩ := checkRange_of_lt h
  refine ⟨text, ?_⟩
  unfold write
  rw [htext]
  rfl

section Inside

variable {a : Address} {mem : ModuleMemory} (hhome : b.segment.AtHome)
  (h : m.Answers a b.segment mem)
include hhome h

/-- A read returns the bytes of the page that is reached, and changes nothing. -/
theorem read_runsTo {n : Nat} (hrange : a.offset.toNat + n ≤ 256) (hplain : mem.Plain a.offset n) :
    (m.read a n).RunsTo Bench.answer b
      (.ok (.ofFn fun i ↦ mem.get (m.pageOf b.segment a) (.ofNat (a.offset.toNat + i)))) b := by
  have hpage := h.currentPage hhome
  have hshown : (mem.showing (m.pageOf b.segment a)).showing 0 = mem := by
    rw [ModuleMemory.showing_showing, ← hpage, mem.showing_currentPage]
  have hbytes : (.ofFn fun i ↦ mem.get (m.pageOf b.segment a) (.ofNat (a.offset.toNat + i)) :
      Vector UInt8 n) = .ofFn fun i ↦ (mem.showing (m.pageOf b.segment a)).get
        (mem.showing (m.pageOf b.segment a)).currentPage (.ofNat (a.offset.toNat + i)) := by
    congr 1
    funext i
    have hlt : a.offset.toNat + i.val < 256 := by omega
    have hval := UInt8.toNat_ofNat_of_lt' hlt
    rw [ModuleMemory.currentPage_showing, ModuleMemory.get_showing_of_ne]
    intro ho
    refine hplain.1 ?_
    rw [← ho]
    unfold Covers
    omega
  have hbody := Bus.read_runsTo (Bench.faultless_withModule h.faultless)
    (b.device?_withModule (a.device.resolve m.address) (mem.showing (m.pageOf b.segment a)))
    (ModuleMemory.plain_showing.mpr hplain) hrange
  have hread := paged_runsTo (fun device ↦ Bus.read device a.offset n) h.faultless h.device hpage
    h.probe (ModuleMemory.currentPage_showing _) hbody
  rw [hshown, Bench.withModule_self h.device, ← hbytes] at hread
  unfold read
  rw [checkRange_of_le hrange]
  exact (Procedure.RunsTo.liftExcept _ _).bind hread

/-- A write puts its bytes on the page that is reached. -/
theorem write_runsTo {data : List UInt8} (hrange : a.offset.toNat + data.length ≤ 256)
    (hplain : mem.Plain a.offset data.length) :
    (m.write a data).RunsTo Bench.answer b (.ok ())
      (b.withModule (a.device.resolve m.address)
        (mem.put (m.pageOf b.segment a) a.offset.toNat data)) := by
  have hpage := h.currentPage hhome
  have hput := mem.showing_put_back (m.pageOf b.segment a) (m.pageOf b.segment a) hplain.1
  rw [hpage] at hput
  have hbody := Bus.write_runsTo (Bench.faultless_withModule h.faultless)
    (b.device?_withModule (a.device.resolve m.address) (mem.showing (m.pageOf b.segment a)))
    (ModuleMemory.plain_showing.mpr hplain)
  rw [Bench.withModule_withModule, ModuleMemory.currentPage_showing] at hbody
  have hkept : ((mem.showing (m.pageOf b.segment a)).put (m.pageOf b.segment a) a.offset.toNat
      data).currentPage = m.pageOf b.segment a := by
    rw [ModuleMemory.currentPage_put _ _ hplain.1, ModuleMemory.currentPage_showing]
  have hwrite := paged_runsTo (fun device ↦ Bus.write device a.offset data) h.faultless h.device
    hpage h.probe hkept hbody
  rw [hput] at hwrite
  unfold write
  rw [checkRange_of_le hrange]
  exact (Procedure.RunsTo.liftExcept _ _).bind hwrite

end Inside

end Selected

/-! ## Main statement -/

/-- Reads and writes at an address of a module are those of a flat memory of bytes by page and
offset, in which the address names a page. -/
structure FlatAccess (m : Selected) (a : Address) (b : Bench)
    (read : (n : Nat) → Procedure (Vector UInt8 n)) (write : List UInt8 → Procedure Unit) :
    Prop where
  /-- Beyond the end of a device there is nothing to read, and nothing is tried. -/
  read_outside : ∀ n, 256 < a.offset.toNat + n →
    (∃ text, (read n).run.value Bench.answer b = .error (.invalidArgument text)) ∧
      ((read n).run.trace Bench.answer b).transactions = []
  /-- Nor is there anything to write. -/
  write_outside : ∀ data, 256 < a.offset.toNat + data.length →
    (∃ text, (write data).run.value Bench.answer b = .error (.invalidArgument text)) ∧
      ((write data).run.trace Bench.answer b).transactions = []
  /-- A read returns the bytes from the offset on, and leaves the segment as it is. -/
  read_inside : ∀ n mem, a.offset.toNat + n ≤ 256 → m.Answers a b.segment mem →
    mem.Plain a.offset n →
    (read n).run.value Bench.answer b =
        .ok (.ofFn fun i ↦ mem.get (m.pageOf b.segment a) (.ofNat (a.offset.toNat + i))) ∧
      ((read n).run.final Bench.answer b).segment = b.segment
  /-- A write changes those bytes, and no other byte of any page of any device. -/
  write_inside : ∀ data mem, a.offset.toNat + data.length ≤ 256 → m.Answers a b.segment mem →
    mem.Plain a.offset data.length →
    (write data).run.value Bench.answer b = .ok () ∧
      ∃ mem', ((write data).run.final Bench.answer b).segment =
          b.segment.setDevice (a.device.resolve m.address) (some (.memory mem')) ∧
        mem'.mailbox = mem.mailbox ∧
        (∀ i (hi : i < data.length),
          mem'.get (m.pageOf b.segment a) (.ofNat (a.offset.toNat + i)) = data[i]) ∧
        ∀ page o, ¬(ModuleMemory.home page o = ModuleMemory.home (m.pageOf b.segment a) o ∧
            Covers a.offset data.length o) →
          mem'.get page o = mem.get page o

/-- Accesses of a selected module are those of a flat memory. -/
theorem Selected.flatAccess (m : Selected) (a : Address) {b : Bench}
    (hhome : b.segment.AtHome) : FlatAccess m a b (m.read a) (m.write a) where
  read_outside n hn := by
    obtain ⟨text, hrun⟩ := m.run_read_outside hn
    rw [hrun]
    exact ⟨⟨text, rfl⟩, rfl⟩
  write_outside data hdata := by
    obtain ⟨text, hrun⟩ := m.run_write_outside hdata
    rw [hrun]
    exact ⟨⟨text, rfl⟩, rfl⟩
  read_inside n mem hrange h hplain := by
    have hread := read_runsTo hhome h hrange hplain
    exact ⟨hread.value, congrArg Bench.segment hread.final⟩
  write_inside data mem hrange h hplain := by
    have hwrite := write_runsTo hhome h hrange hplain
    refine ⟨hwrite.value, _, congrArg Bench.segment hwrite.final, rfl, fun i hi ↦ ?_, ?_⟩
    · exact mem.get_put_self _ hi (by omega)
    · exact fun page o ho ↦ mem.get_put_of_not ho

/-- What holds of accesses of a selected module holds of those in a session of their own. -/
theorem FlatAccess.of_sameRun {m : Selected} {a : Address} {b b' : Bench}
    {read read' : (n : Nat) → Procedure (Vector UInt8 n)}
    {write write' : List UInt8 → Procedure Unit}
    (h : FlatAccess m a b' read' write') (hsegment : b'.segment = b.segment)
    (hread : ∀ n, SameRun (read n).run (read' n).run b b')
    (hwrite : ∀ data, SameRun (write data).run (write' data).run b b') :
    FlatAccess m a b read write where
  read_outside n hn := by
    rw [(hread n).value, (hread n).transactions]
    exact h.read_outside n hn
  write_outside data hdata := by
    rw [(hwrite data).value, (hwrite data).transactions]
    exact h.write_outside data hdata
  read_inside n mem := by
    rw [(hread n).value, (hread n).final, ← hsegment]
    exact h.read_inside n mem
  write_inside data mem := by
    rw [(hwrite data).value, (hwrite data).final, ← hsegment]
    exact h.write_inside data mem

/-- Behind every memory, with any way to announce pages, and at every address there is a flat
memory, provided that all modules show page zero.  It is there for whoever has selected the module,
and for accesses in sessions of their own. -/
theorem eeprom_flatAccess (e : Eeprom) (a : Address) {b : Bench} (hhome : b.segment.AtHome) :
    FlatAccess e.selected a b (e.selected.read a) (e.selected.write a) ∧
      (e.Opens b → FlatAccess e.selected a b (e.read a) (e.write a)) := by
  refine ⟨e.selected.flatAccess a hhome, fun hopens ↦ ?_⟩
  have happlied : (e.selector.applied b).segment.AtHome := by
    rw [Selector.segment_applied]
    exact hhome
  refine (e.selected.flatAccess a happlied).of_sameRun (e.selector.segment_applied b) ?_ ?_
  · exact fun n ↦ hopens.sameRun fun m ↦ m.read a n
  · exact fun data ↦ hopens.sameRun fun m ↦ m.write a data

/-- A page of the diagnostics of a module that has a mailbox in them. -/
theorem eeprom_flatAccess_diagnostics :
    let b : Bench := ⟨((((Segment.blank.addModule 0x50).addModule 0x51).attachMailbox 0x51).poke
      0x50 0 64 [0x10]), fun _ ↦ .ofLevel 1⟩
    let e : Eeprom := ⟨0x50, ⟨some ⟨⟨"mux", 1⟩, 4⟩, none⟩, .zero, .sff8472,
      some ⟨⟨"presence", 0⟩, 0⟩⟩
    let a : Address := (Address.paged 2 200).onDevice 0x51
    let mem : ModuleMemory := { ModuleMemory.blank with mailbox := some .blank }
    b.segment.AtHome ∧ e.Opens b ∧ e.selected.Answers a b.segment mem ∧ mem.Plain 200 2 ∧
      e.selected.pageOf b.segment a = 2 ∧
      (e.read a 2).run.value Bench.answer b = .ok #v[mem.get 2 200, mem.get 2 201] ∧
      (e.write a [7, 8]).run.value Bench.answer b = .ok () ∧
      (∃ text, (e.read a 57).run.value Bench.answer b = .error (.invalidArgument text)) := by
  intro b e a mem
  have hhome : b.segment.AtHome := by
    intro address
    by_cases h₀ : address = 0x50
    · subst h₀
      rfl
    · by_cases h₁ : address = 0x51
      · subst h₁
        rfl
      · simp [b, Segment.currentPage, Segment.module?, Segment.poke, Segment.mapModule,
          Segment.attachMailbox, Segment.addModule, Segment.setDevice, Segment.blank, h₀, h₁]
  have hopens : e.Opens b := by
    constructor
    · rintro l hl
      cases hl
      have hset : ((1 : UInt32) &&& 1 <<< (0 : UInt8).toUInt32 != 0) = true := by decide
      rw [Line.value_read ⟨rfl, rfl⟩ (by decide)]
      exact congrArg Except.ok hset
    · rintro t (_ | ⟨_, ⟨⟩⟩)
      exact ⟨rfl, rfl⟩
  have hanswers : e.selected.Answers a b.segment mem := ⟨rfl, rfl, rfl⟩
  have hplain : mem.Plain 200 2 := by
    refine ⟨by decide, fun _ o hle hc ↦ ?_⟩
    have hle : 250 ≤ o.toNat := UInt8.le_iff_toNat_le.mp hle
    have hlt : o.toNat < 202 := hc.2
    omega
  have hflat := (eeprom_flatAccess e a hhome).2 hopens
  refine ⟨hhome, hopens, hanswers, hplain, rfl, ?_, ?_, ?_⟩
  · exact (hflat.read_inside 2 mem (by decide) hanswers hplain).1
  · exact (hflat.write_inside [7, 8] mem (by decide) hanswers hplain).1
  · exact (hflat.read_outside 57 (by decide)).1

end Transceiver
