import Transceiver.Proofs.LaneControl
import Transceiver.Proofs.MailboxExchange

/-!
# Changes of bytes

A control of a module changes some of its bytes one after the other, each by what it was before.
Changes that can be made again, and of one byte in any order, settle: they leave a module that they
have changed as it is.  Only bytes that come out different are written, and none of them when the
changes are made again.
-/

namespace Transceiver

/-- A change of one byte. -/
structure ByteChange where
  offset : UInt8
  apply : UInt8 → UInt8

namespace ByteChange

/-- The byte is as the change would leave it. -/
def Fixes (c : ByteChange) (m : ModuleMemory) : Prop :=
  c.apply (m.get 0 c.offset) = m.get 0 c.offset

instance (c : ByteChange) (m : ModuleMemory) : Decidable (c.Fixes m) :=
  inferInstanceAs (Decidable (_ = _))

/-- The module with the byte changed. -/
def on (c : ByteChange) (m : ModuleMemory) : ModuleMemory :=
  m.set 0 c.offset (c.apply (m.get 0 c.offset))

/-- Two changes of the same byte may be made in either order. -/
def Commutes (c c' : ByteChange) : Prop :=
  c.offset = c'.offset → ∀ x, c.apply (c'.apply x) = c'.apply (c.apply x)

variable {c c' : ByteChange} {m : ModuleMemory} {o : UInt8}

@[simp] theorem get_on_self (c : ByteChange) (m : ModuleMemory) :
    (c.on m).get 0 c.offset = c.apply (m.get 0 c.offset) := m.get_set_self _ _ _

theorem get_on_of_ne (page : UInt8) (ho : o ≠ c.offset) : (c.on m).get page o = m.get page o :=
  m.get_set_of_ne _ fun h ↦ ho h.2

theorem on_eq_self (h : c.Fixes m) : c.on m = m := by
  unfold on
  rw [show c.apply (m.get 0 c.offset) = m.get 0 c.offset from h, m.set_get]

/-- What a change has nothing left to do for, it has not after another one either. -/
theorem Fixes.on (h : c.Fixes m) (hcomm : c.Commutes c') : c.Fixes (c'.on m) := by
  unfold Fixes at h ⊢
  by_cases ho : c.offset = c'.offset
  · rw [ho, get_on_self, hcomm ho, ← ho, h]
  · rw [get_on_of_ne 0 ho, h]

end ByteChange

/-- Changes of the lower half that can be made again, and of one byte in any order. -/
structure Settling (cs : List ByteChange) : Prop where
  lower : ∀ c ∈ cs, c.offset < upperHalf
  ne_pageSelect : ∀ c ∈ cs, c.offset ≠ QsfpMap.pageSelect
  idempotent : ∀ c ∈ cs, ∀ x, c.apply (c.apply x) = c.apply x
  comm : ∀ c ∈ cs, ∀ c' ∈ cs, c.Commutes c'

theorem Settling.tail {c : ByteChange} {cs : List ByteChange} (h : Settling (c :: cs)) :
    Settling cs :=
  ⟨fun c hc ↦ h.lower c (List.mem_cons_of_mem _ hc),
    fun c hc ↦ h.ne_pageSelect c (List.mem_cons_of_mem _ hc),
    fun c hc ↦ h.idempotent c (List.mem_cons_of_mem _ hc),
    fun c hc c' hc' ↦ h.comm c (List.mem_cons_of_mem _ hc) c' (List.mem_cons_of_mem _ hc')⟩

namespace ModuleMemory

variable {m : ModuleMemory} {cs : List ByteChange} {c : ByteChange} {o : UInt8}

/-- The module with some bytes changed, in order. -/
def revised (m : ModuleMemory) (cs : List ByteChange) : ModuleMemory :=
  cs.foldl (fun m c ↦ c.on m) m

theorem get_revised_of_ne (page : UInt8) (ho : ∀ c ∈ cs, o ≠ c.offset) :
    (m.revised cs).get page o = m.get page o := by
  induction cs generalizing m with
  | nil => rfl
  | cons c cs ih =>
    rw [List.forall_mem_cons] at ho
    exact (ih ho.2).trans (ByteChange.get_on_of_ne page ho.1)

theorem fixes_revised (h : c.Fixes m) (hcomm : ∀ c' ∈ cs, c.Commutes c') :
    c.Fixes (m.revised cs) := by
  induction cs generalizing m with
  | nil => exact h
  | cons c' cs ih =>
    rw [List.forall_mem_cons] at hcomm
    exact ih (h.on hcomm.1) hcomm.2

/-- Changes that settle are made once, by induction on those that are still to be made. -/
theorem fixes_of_settling (h : Settling cs) : ∀ c ∈ cs, c.Fixes (m.revised cs) := by
  induction cs generalizing m with
  | nil => nofun
  | cons c cs ih =>
    have hself : c.Fixes (c.on m) := by
      unfold ByteChange.Fixes
      rw [c.get_on_self, h.idempotent c List.mem_cons_self]
    have hfirst : c.Fixes ((c.on m).revised cs) := fixes_revised hself fun c' hc' ↦
      h.comm c List.mem_cons_self c' (List.mem_cons_of_mem _ hc')
    exact List.forall_mem_cons.mpr ⟨hfirst, ih h.tail⟩

/-! ## What is written -/

/-- The bytes that are written to change a module, in order. -/
def rewrites (address : UInt8) (m : ModuleMemory) : List ByteChange → List Transaction
  | [] => []
  | c :: cs =>
    (if c.Fixes m then [] else [.write address c.offset [c.apply (m.get 0 c.offset)]]) ++
      rewrites address (c.on m) cs

/-- A byte is written only if some change of it has something to do. -/
theorem mem_rewrites {address : UInt8} {w : Transaction} (hw : w ∈ m.rewrites address cs) :
    ∃ c ∈ cs, ∃ v, w = .write address c.offset [v] ∧
      ¬ ∀ c' ∈ cs, c'.offset = c.offset → c'.Fixes m := by
  induction cs generalizing m with
  | nil => nomatch hw
  | cons c cs ih =>
    rcases List.mem_append.mp hw with hw | hw
    · split at hw
      · nomatch hw
      · rename_i hc
        exact ⟨c, List.mem_cons_self, _, List.mem_singleton.mp hw,
          fun hall ↦ hc (hall c List.mem_cons_self rfl)⟩
    · obtain ⟨c', hc', v, hv, hne⟩ := ih hw
      refine ⟨c', List.mem_cons_of_mem _ hc', v, hv, fun hall ↦ hne fun c'' hc'' ho ↦ ?_⟩
      have hfixes := hall c'' (List.mem_cons_of_mem _ hc'') ho
      by_cases hoffset : c.offset = c'.offset
      · rw [ByteChange.on_eq_self (hall c List.mem_cons_self hoffset)]
        exact hfixes
      · unfold ByteChange.Fixes
        rw [ByteChange.get_on_of_ne 0 (fun h ↦ hoffset (h.symm.trans ho))]
        exact hfixes

/-- Changes that settle write only bytes that they change. -/
theorem changed_of_mem_rewrites (h : Settling cs) {address : UInt8} {w : Transaction}
    (hw : w ∈ m.rewrites address cs) : ∃ o v, w = .write address o [v] ∧ o < upperHalf ∧
      (m.revised cs).get 0 o ≠ m.get 0 o := by
  obtain ⟨c, hc, v, rfl, hne⟩ := mem_rewrites hw
  refine ⟨c.offset, v, rfl, h.lower c hc, fun hget ↦ hne fun c' hc' ho ↦ ?_⟩
  have hfixes := fixes_of_settling (m := m) h c' hc'
  unfold ByteChange.Fixes at hfixes ⊢
  rw [ho, hget] at hfixes
  rw [ho, hfixes]

end ModuleMemory

/-! ## Changing the bytes of a device -/

/-- Change some bytes of a device, in order. -/
def Selected.revise (m : Selected) (device : DeviceSelector) : List ByteChange → Procedure Unit
  | [] => return ()
  | c :: cs => do
    let _ ← m.modify ⟨device, .ignore, c.offset⟩ fun old ↦ .ok (c.apply old)
    m.revise device cs

namespace Selected

variable {m : Selected} {device : DeviceSelector} {b b' : Bench} {mem : ModuleMemory}
  {c : ByteChange} {cs : List ByteChange}

/-- The device is a module that takes what is written to some bytes of its lower half. -/
structure Takes (s : Segment) (address : UInt8) (mem : ModuleMemory) (cs : List ByteChange) :
    Prop where
  module : s.device? address = some (.memory mem)
  lower : ∀ c ∈ cs, c.offset < upperHalf
  ne_pageSelect : ∀ c ∈ cs, c.offset ≠ QsfpMap.pageSelect
  kept : ∀ c ∈ cs, s.discards address c.offset = false

theorem Takes.withModule {address : UInt8} (h : Takes b.segment address mem cs)
    (mem' : ModuleMemory) : Takes (b.withModule address mem').segment address mem' cs :=
  ⟨b.device?_withModule _ _, h.lower, h.ne_pageSelect, h.kept⟩

theorem Takes.tail {address : UInt8} (h : Takes b.segment address mem (c :: cs)) :
    Takes b.segment address mem cs :=
  ⟨h.module, fun c hc ↦ h.lower c (List.mem_cons_of_mem _ hc),
    fun c hc ↦ h.ne_pageSelect c (List.mem_cons_of_mem _ hc),
    fun c hc ↦ h.kept c (List.mem_cons_of_mem _ hc)⟩

/-- A byte is written in one transaction. -/
theorem writeByte_sends {a : Address} (ha : a.page = .ignore) {v : UInt8}
    (h : (m.writeByte a v).RunsTo Bench.answer b (.ok ()) b') :
    Sends (m.writeByte a v).run b (.ok ()) b'
      [.write (a.device.resolve m.address) a.offset [v]] := by
  have hrange : a.offset.toNat + [v].length ≤ addressSpace := a.offset.toNat_lt
  refine ⟨h.value, h.final, ?_⟩
  unfold writeByte write
  rw [checkRange_bind hrange, paged_unpaged ha, Bus.run_write]
  rfl

/-- A byte is changed with a write if it comes out different. -/
theorem modify_sends (h : Takes b.segment (device.resolve m.address) mem (c :: cs))
    (hread : b.segment.AllowsRead (device.resolve m.address) c.offset)
    (hwrite : c.Fixes mem ∨ b.segment.AllowsWrite (device.resolve m.address) c.offset) :
    Sends (m.modify ⟨device, .ignore, c.offset⟩ fun old ↦ .ok (c.apply old)).run b
      (.ok (c.apply (mem.get 0 c.offset))) (b.withModule (device.resolve m.address) (c.on mem))
      (if c.Fixes mem then []
        else [.write (device.resolve m.address) c.offset [c.apply (mem.get 0 c.offset)]]) := by
  have hlower := h.lower c List.mem_cons_self
  have hmail : c.offset < packetOffset := UInt8.lt_trans hlower (by decide)
  have hold : (m.readByte ⟨device, .ignore, c.offset⟩).RunsTo Bench.answer b
      (.ok (mem.get 0 c.offset)) b :=
    (readByte_runsTo_iff rfl h.module (h.ne_pageSelect c List.mem_cons_self) hmail).mpr
      ⟨hread, (mem.get_of_lt hlower _ _).symm, rfl⟩
  have hnew : Sends (liftM (Except.ok (c.apply (mem.get 0 c.offset))) : Procedure UInt8).run b
      (.ok (c.apply (mem.get 0 c.offset))) b [] :=
    (Procedure.RunsTo.liftExcept _ _).sends (.liftExcept _)
  have hold := hold.sends (readByte_unpaged_madeOf rfl)
  by_cases hfixes : c.Fixes mem
  · rw [if_pos hfixes, ByteChange.on_eq_self hfixes, Bench.withModule_self h.module]
    have hsame : ¬ c.apply (mem.get 0 c.offset) ≠ mem.get 0 c.offset := not_not_intro hfixes
    refine hold.andThen (hnew.andThen ?_)
    rw [if_neg hsame]
    exact .done _ _
  · have hwritten := (writeByte_runsTo_iff (m := m) (a := ⟨device, .ignore, c.offset⟩)
      (v := c.apply (mem.get 0 c.offset)) rfl h.module hlower (h.kept c List.mem_cons_self)).mpr
        ⟨hwrite.resolve_left hfixes, rfl⟩
    have hdiffers : c.apply (mem.get 0 c.offset) ≠ mem.get 0 c.offset := hfixes
    rw [if_neg hfixes]
    refine hold.andThen (hnew.andThen ?_)
    rw [if_pos hdiffers]
    exact (writeByte_sends rfl hwritten).andThen (.done _ _)

/-- If bytes are changed with success, they could be read, and those are written that come out
different. -/
theorem revise_sends (h : Takes b.segment (device.resolve m.address) mem cs)
    (hrun : (m.revise device cs).RunsTo Bench.answer b (.ok ()) b') :
    Sends (m.revise device cs).run b (.ok ())
        (b.withModule (device.resolve m.address) (mem.revised cs))
        (mem.rewrites (device.resolve m.address) cs) ∧
      ∀ c ∈ cs, b.segment.AllowsRead (device.resolve m.address) c.offset := by
  induction cs generalizing b mem with
  | nil =>
    have hself : b.withModule (device.resolve m.address) (mem.revised []) = b :=
      Bench.withModule_self h.module
    rw [hself]
    exact ⟨.done _ _, nofun⟩
  | cons c cs ih =>
    obtain ⟨v, b₁, hmodify, hrest⟩ := Procedure.runsTo_bind_iff.mp hrun
    obtain ⟨hread, hwrite, -, rfl⟩ := (modify_runsTo_iff rfl h.module
      (h.lower c List.mem_cons_self) (h.ne_pageSelect c List.mem_cons_self)
      (h.kept c List.mem_cons_self) c.apply).mp hmodify
    obtain ⟨hsends, hreads⟩ := ih (h.tail.withModule (c.on mem)) hrest
    refine ⟨?_, List.forall_mem_cons.mpr ⟨hread, hreads⟩⟩
    rw [Bench.withModule_withModule] at hsends
    exact (modify_sends h hread hwrite).andThen hsends

/-- Bytes that the changes have nothing left to do for are read and left alone. -/
theorem revise_sends_of_fixes (h : Takes b.segment (device.resolve m.address) mem cs)
    (hread : ∀ c ∈ cs, b.segment.AllowsRead (device.resolve m.address) c.offset)
    (hfixes : ∀ c ∈ cs, c.Fixes mem) : Sends (m.revise device cs).run b (.ok ()) b [] := by
  induction cs with
  | nil => exact .done _ _
  | cons c cs ih =>
    rw [List.forall_mem_cons] at hread hfixes
    have hfirst := modify_sends h hread.1 (.inl hfixes.1)
    rw [if_pos hfixes.1, ByteChange.on_eq_self hfixes.1, Bench.withModule_self h.module] at hfirst
    exact hfirst.andThen (ih h.tail hread.2 hfixes.2)

end Selected

end Transceiver
