import Transceiver.Proofs.Absence
import Transceiver.Proofs.Discovery
import Transceiver.Proofs.PagedMemory

/-!
# Accesses of single bytes

When a byte of a module is read, written or changed with success, and what that makes of the module.
The conditions name the faults that stand in the way, so they can be carried from one access to
another of the same byte.  A session succeeds if it opens and what is done in it does, and a line
that was written with success reads as it was written.
-/

namespace Transceiver

variable {α β : Type}

/-! ## Runs that return -/

namespace Procedure

section

variable {σ : Type} {env : Environment σ} {s s' : σ}

/-- A sequence returns if both of its parts do. -/
theorem runsTo_bind_iff {p : Procedure α} {f : α → Procedure β} {c : β} :
    (p >>= f).RunsTo env s (.ok c) s' ↔
      ∃ a s₁, p.RunsTo env s (.ok a) s₁ ∧ (f a).RunsTo env s₁ (.ok c) s' := by
  constructor
  · rintro ⟨hvalue, hfinal⟩
    rw [run_bind, Program.value_bind] at hvalue
    rw [run_bind, Program.final_bind] at hfinal
    cases hp : p.run.value env s with
    | error e =>
      rw [hp] at hvalue
      cases hvalue
    | ok a =>
      rw [hp] at hvalue hfinal
      exact ⟨a, _, ⟨hp, rfl⟩, hvalue, hfinal⟩
  · rintro ⟨a, s₁, hp, hf⟩
    exact hp.bind hf

theorem runsTo_pure_iff {a c : α} :
    (pure a : Procedure α).RunsTo env s (.ok c) s' ↔ c = a ∧ s' = s :=
  ⟨fun h ↦ ⟨(Except.ok.inj h.value).symm, h.final.symm⟩, by rintro ⟨rfl, rfl⟩; exact .pure _ _⟩

theorem runsTo_liftExcept_iff {r : Except Error α} {c : α} :
    (liftM r : Procedure α).RunsTo env s (.ok c) s' ↔ r = .ok c ∧ s' = s :=
  ⟨fun h ↦ ⟨h.value, h.final.symm⟩, by rintro ⟨rfl, rfl⟩; exact .liftExcept _ _⟩

/-- A procedure that goes on only if a condition holds. -/
theorem runsTo_require_iff {c : Prop} [Decidable c] {e : Error} {p : Procedure α} {a : α} :
    (if c then p else (do throw e; p)).RunsTo env s (.ok a) s' ↔
      c ∧ p.RunsTo env s (.ok a) s' := by
  by_cases hc : c
  · simp [hc]
  · rw [if_neg hc]
    exact ⟨fun h ↦ (nomatch h.value), fun h ↦ absurd h.1 hc⟩

end

end Procedure

/-! ## Accesses that succeed -/

namespace Segment

/-- No fault keeps a byte of a device from being read. -/
def AllowsRead (s : Segment) (address offset : UInt8) : Prop :=
  touches s.faults.reads address offset 1 = false

/-- No fault keeps a byte of a device from being written. -/
def AllowsWrite (s : Segment) (address offset : UInt8) : Prop :=
  touches s.faults.writes address offset 1 = false

end Segment

theorem ModuleMemory.set_get (m : ModuleMemory) (page offset : UInt8) :
    m.set page offset (m.get page offset) = m := by
  refine congrArg (ModuleMemory.mk · m.mailbox) (funext fun p ↦ funext fun o ↦ ?_)
  by_cases h : p = home page offset ∧ o = offset
  · obtain ⟨rfl, rfl⟩ := h
    exact if_pos ⟨rfl, rfl⟩
  · exact if_neg h

/-- What a device answers to a read of one byte. -/
def Device.byte (d : Device) (offset : UInt8) : UInt8 :=
  match d with
  | .memory m => m.get m.currentPage offset
  | .registers bank => lowByte ((bank offset).getD 0)

/-- A module in place of one that shows the same page reads the same where that has the same. -/
theorem Segment.byte_setModule {s : Segment} {address address' offset : UInt8}
    {mem mem' : ModuleMemory} {d : Device} (hm : s.device? address = some (.memory mem))
    (hcurrent : mem'.currentPage = mem.currentPage)
    (hget : ∀ page, mem'.get page offset = mem.get page offset)
    (hd : s.device? address' = some d) :
    ∃ d', (s.setDevice address (some (.memory mem'))).device? address' = some d' ∧
      d'.byte offset = d.byte offset := by
  by_cases haddress : address' = address
  · obtain rfl := haddress
    obtain rfl : Device.memory mem = d := Option.some.inj (hm.symm.trans hd)
    refine ⟨_, if_pos rfl, ?_⟩
    change mem'.get mem'.currentPage offset = mem.get mem.currentPage offset
    rw [hcurrent, hget]
  · exact ⟨d, (if_neg haddress).trans hd, rfl⟩

/-- Changing a byte of a module leaves what is read of other bytes, of any device. -/
theorem Segment.byte_setDevice {s : Segment} {address address' page offset offset' v : UInt8}
    {mem : ModuleMemory} {d : Device} (hm : s.device? address = some (.memory mem))
    (hpage : offset ≠ QsfpMap.pageSelect) (hne : offset' ≠ offset)
    (hd : s.device? address' = some d) :
    ∃ d', (s.setDevice address (some (.memory (mem.set page offset v)))).device? address' =
      some d' ∧ d'.byte offset' = d.byte offset' := by
  have hget (p : UInt8) {o : UInt8} (ho : o ≠ offset) :
      (mem.set page offset v).get p o = mem.get p o :=
    mem.get_set_of_ne v fun h ↦ ho h.2
  exact byte_setModule hm (hget 0 hpage.symm) (fun p ↦ hget p hne) hd

/-- A byte is read if a device is there, and reading it changes nothing. -/
theorem Bus.readByte_runsTo_iff {b b' : Bench} {address offset v : UInt8}
    (hpage : offset ≠ QsfpMap.pageSelect) (hmail : offset < packetOffset) :
    (Bus.readByte address offset).RunsTo Bench.answer b (.ok v) b' ↔
      b.segment.AllowsRead address offset ∧
        (∃ d, b.segment.device? address = some d ∧ v = d.byte offset) ∧ b' = b := by
  -- what the segment does for the read
  have hread {d : Device} (hd : b.segment.device? address = some d)
      (ht : b.segment.AllowsRead address offset) :
      ∃ bytes : Vector UInt8 1, byteIn bytes = d.byte offset ∧
        b.segment.read address offset 1 = (.ok bytes, b.segment) := by
    cases d with
    | memory mem =>
      have hplain := mem.plain_byte hpage hmail
      have hbyte : byteIn (mem.read offset 1) = mem.get mem.currentPage offset := by
        rw [mem.read_eq_get hplain offset.toNat_lt]
        simp [byteIn]
      refine ⟨_, hbyte, ?_⟩
      rw [Segment.read_memory hd ht, ModuleMemory.afterRead_eq_self hplain,
        Segment.setDevice_self hd]
    | registers bank =>
      refine ⟨bank.read offset 1, ?_, ?_⟩
      · simp [byteIn, RegisterBank.read, Device.byte]
      · have ht : touches b.segment.faults.reads address offset 1 = false := ht
        simp [Segment.read, ht, hd]
  have hrefused (h : ¬ (b.segment.AllowsRead address offset ∧
      ∃ d, b.segment.device? address = some d)) :
      (b.segment.read address offset 1).1 = .error .notAcknowledged := by
    unfold Segment.read
    split
    · rfl
    · rename_i ht
      have ht : b.segment.AllowsRead address offset := Bool.eq_false_iff.mpr ht
      cases hd : b.segment.device? address with
      | none => rfl
      | some d => exact absurd ⟨ht, d, hd⟩ h
  unfold readByte
  rw [Procedure.runsTo_bind_iff]
  constructor
  · rintro ⟨bytes, b₁, ⟨hvalue, hfinal⟩, hpure⟩
    obtain ⟨rfl, rfl⟩ := Procedure.runsTo_pure_iff.mp hpure
    rw [value_read] at hvalue
    rw [final_read] at hfinal
    by_cases h : b.segment.AllowsRead address offset ∧ ∃ d, b.segment.device? address = some d
    · obtain ⟨ht, d, hd⟩ := h
      obtain ⟨bytes', hbytes, hsegment⟩ := hread hd ht
      rw [hsegment] at hvalue hfinal
      cases hvalue
      exact ⟨ht, ⟨d, hd, hbytes⟩, hfinal.symm⟩
    · rw [hrefused h] at hvalue
      cases hvalue
  · rintro ⟨ht, ⟨d, hd, rfl⟩, rfl⟩
    obtain ⟨bytes, hbytes, hsegment⟩ := hread hd ht
    refine ⟨bytes, b', ⟨?_, ?_⟩, hbytes ▸ .pure _ _⟩
    · rw [value_read, hsegment]
      rfl
    · rw [final_read, hsegment]

namespace Selected

variable {m : Selected} {b b' : Bench} {mem : ModuleMemory} {v : UInt8}

section

variable {a : Address} (ha : a.page = .ignore)
  (hm : b.segment.device? (a.device.resolve m.address) = some (.memory mem))
include ha hm

/-- A byte is read from the page that is shown. -/
theorem readByte_runsTo_iff (hpage : a.offset ≠ QsfpMap.pageSelect)
    (hmail : a.offset < packetOffset) :
    (m.readByte a).RunsTo Bench.answer b (.ok v) b' ↔
      b.segment.AllowsRead (a.device.resolve m.address) a.offset ∧
        v = mem.get mem.currentPage a.offset ∧ b' = b := by
  rw [readByte_eq ha, Bus.readByte_runsTo_iff hpage hmail, hm]
  simp [Device.byte]

/-- A byte of the lower half is written. -/
theorem writeByte_runsTo_iff (hlower : a.offset < upperHalf)
    (hkept : b.segment.discards (a.device.resolve m.address) a.offset = false) :
    (m.writeByte a v).RunsTo Bench.answer b (.ok ()) b' ↔
      b.segment.AllowsWrite (a.device.resolve m.address) a.offset ∧
        b' = b.withModule (a.device.resolve m.address) (mem.set 0 a.offset v) := by
  have hrange : a.offset.toNat + [v].length ≤ addressSpace := a.offset.toNat_lt
  have hset : mem.write (b.segment.discards (a.device.resolve m.address)) a.offset [v] =
      mem.set 0 a.offset v := by
    have hhome : ModuleMemory.home mem.currentPage a.offset = ModuleMemory.home 0 a.offset := by
      simp [ModuleMemory.home, hlower]
    rw [mem.write_byte, if_neg (hkept ▸ Bool.false_ne_true)]
    unfold ModuleMemory.set
    rw [hhome]
  unfold writeByte write
  rw [checkRange_bind hrange, paged_unpaged ha]
  constructor
  · rintro ⟨hvalue, hfinal⟩
    rw [Bus.value_write] at hvalue
    rw [Bus.final_write] at hfinal
    cases ht : touches b.segment.faults.writes (a.device.resolve m.address) a.offset 1 with
    | true =>
      have hrefused : (b.segment.write (a.device.resolve m.address) a.offset [v]).1 =
          .error .notAcknowledged := by
        simp [Segment.write, ht]
      rw [hrefused] at hvalue
      cases hvalue
    | false =>
      rw [Segment.write_memory hm ht, hset] at hfinal
      exact ⟨ht, hfinal.symm⟩
  · rintro ⟨ht, rfl⟩
    have hwrite : b.segment.write (a.device.resolve m.address) a.offset [v] = (.ok (), _) :=
      Segment.write_memory hm ht
    constructor
    · rw [Bus.value_write, hwrite]
      rfl
    · rw [Bus.final_write, hwrite, hset]
      rfl

/-- A byte of the lower half is changed. -/
theorem modify_runsTo_iff (hlower : a.offset < upperHalf)
    (hpage : a.offset ≠ QsfpMap.pageSelect)
    (hkept : b.segment.discards (a.device.resolve m.address) a.offset = false)
    (f : UInt8 → UInt8) :
    (m.modify a fun old ↦ .ok (f old)).RunsTo Bench.answer b (.ok v) b' ↔
      b.segment.AllowsRead (a.device.resolve m.address) a.offset ∧
        (f (mem.get 0 a.offset) = mem.get 0 a.offset ∨
          b.segment.AllowsWrite (a.device.resolve m.address) a.offset) ∧
        v = f (mem.get 0 a.offset) ∧
        b' = b.withModule (a.device.resolve m.address)
          (mem.set 0 a.offset (f (mem.get 0 a.offset))) := by
  have hmail : a.offset < packetOffset := UInt8.lt_trans hlower (by decide)
  have hbyte : mem.get mem.currentPage a.offset = mem.get 0 a.offset := mem.get_of_lt hlower _ _
  constructor
  · intro h
    obtain ⟨old, b₁, hread, hrest⟩ := Procedure.runsTo_bind_iff.mp h
    obtain ⟨ht, rfl, rfl⟩ := (readByte_runsTo_iff ha hm hpage hmail).mp hread
    obtain ⟨new, b₂, hnew, hchange⟩ := Procedure.runsTo_bind_iff.mp hrest
    obtain ⟨⟨⟩, rfl⟩ := Procedure.runsTo_liftExcept_iff.mp hnew
    rw [hbyte] at hchange
    split at hchange
    · obtain ⟨_, _, hwrite, hpure⟩ := Procedure.runsTo_bind_iff.mp hchange
      obtain ⟨rfl, rfl⟩ := Procedure.runsTo_pure_iff.mp hpure
      obtain ⟨hw, rfl⟩ := (writeByte_runsTo_iff ha hm hlower hkept).mp hwrite
      exact ⟨ht, .inr hw, rfl, rfl⟩
    · rename_i hsame
      obtain ⟨rfl, rfl⟩ := Procedure.runsTo_pure_iff.mp hchange
      have hsame := Decidable.not_not.mp hsame
      refine ⟨ht, .inl hsame, rfl, ?_⟩
      rw [hsame, mem.set_get, Bench.withModule_self hm]
  · rintro ⟨ht, hw, rfl, rfl⟩
    refine ((readByte_runsTo_iff ha hm hpage hmail).mpr ⟨ht, hbyte.symm, rfl⟩).bind
      ((Procedure.RunsTo.liftExcept _ _).bind ?_)
    split
    · rename_i hchange
      exact ((writeByte_runsTo_iff ha hm hlower hkept).mpr ⟨hw.resolve_left hchange, rfl⟩).bind
        (.pure _ _)
    · rename_i hsame
      rw [Decidable.not_not.mp hsame, mem.set_get, Bench.withModule_self hm]
      exact .pure _ _

end

/-- A byte of the configured device is read from the page that is shown. -/
theorem lowerByte_runsTo_iff {offset : UInt8}
    (hm : b.segment.device? m.address = some (.memory mem))
    (hpage : offset ≠ QsfpMap.pageSelect) (hmail : offset < packetOffset) :
    (m.lowerByte offset).RunsTo Bench.answer b (.ok v) b' ↔
      b.segment.AllowsRead m.address offset ∧ v = mem.get mem.currentPage offset ∧ b' = b :=
  readByte_runsTo_iff (a := .unpaged offset) rfl hm hpage hmail

end Selected

/-! ## Sessions that succeed -/

section Sessions

variable {b b' : Bench} {a : α}

/-- A procedure returns while a group is held if the group can be acquired. -/
theorem PinGroup.hold_runsTo_ok_iff {g : PinGroup} {body : Procedure α} :
    (g.hold body).RunsTo Bench.answer b (.ok a) b' ↔
      (b.pin g.id).failAcquire = false ∧ body.RunsTo Bench.answer b (.ok a) b' := by
  cases h : (b.pin g.id).failAcquire with
  | true =>
    have hrefused := hold_runsTo_of_failAcquire h body
    exact ⟨fun hrun ↦ (nomatch hrefused.value.symm.trans hrun.value), fun hrun ↦ nomatch hrun.1⟩
  | false =>
    have hsame := sameRun_hold body h
    exact ⟨fun hrun ↦ ⟨rfl, hsame.value.symm.trans hrun.value, hsame.final.symm.trans hrun.final⟩,
      fun hrun ↦ hold_runsTo h hrun.2⟩

/-- A procedure returns while a group is held at a value if the group works. -/
theorem SelectTarget.during_runsTo_iff {t : SelectTarget} {body : Procedure α} :
    (t.during body).RunsTo Bench.answer b (.ok a) b' ↔
      (b.pin t.group.id).Works ∧
        body.RunsTo Bench.answer (b.withLevel t.group.id t.value) (.ok a) b' := by
  unfold during
  rw [PinGroup.hold_runsTo_ok_iff, Procedure.runsTo_bind_iff]
  constructor
  · rintro ⟨hacquire, _, b₁, hwrite, hbody⟩
    cases haccess : (b.pin t.group.id).failAccess with
    | true =>
      have hrefused : (Bench.answer (.writeLevel t.group t.value) b).1 = .error Pin.refusal := by
        simp [Bench.answer, Pin.write, haccess]
      have hvalue := hwrite.value
      rw [PinGroup.run_writeLevel, Program.value_ask, hrefused] at hvalue
      cases hvalue
    | false =>
      have hworks : (b.pin t.group.id).Works := ⟨hacquire, haccess⟩
      have hlevel := (PinGroup.writeLevel_runsTo t.value hworks).final.symm.trans hwrite.final
      rw [hlevel]
      exact ⟨hworks, hbody⟩
  · rintro ⟨hworks, hbody⟩
    exact ⟨hworks.1, (), _, PinGroup.writeLevel_runsTo t.value hworks, hbody⟩

theorem Selector.under_runsTo_iff {t? : Option SelectTarget} {body : Procedure α} :
    (under t? body).RunsTo Bench.answer b (.ok a) b' ↔
      (∀ t ∈ t?, (b.pin t.group.id).Works) ∧
        body.RunsTo Bench.answer (b.withTarget t?) (.ok a) b' := by
  cases t? with
  | none => exact ⟨fun h ↦ ⟨nofun, h⟩, fun h ↦ h.2⟩
  | some t =>
    refine SelectTarget.during_runsTo_iff.trans (and_congr_left fun _ ↦ ?_)
    simp

/-- A procedure returns while a module is selected if the groups of that work. -/
theorem Selector.during_runsTo_iff {s : Selector} {body : Procedure α} :
    (s.during body).RunsTo Bench.answer b (.ok a) b' ↔
      (∀ t ∈ s.targets, (b.pin t.group.id).Works) ∧
        body.RunsTo Bench.answer (s.applied b) (.ok a) b' := by
  unfold during
  rw [under_runsTo_iff, under_runsTo_iff]
  unfold targets applied
  simp only [Bench.works_withTarget, List.mem_append, Option.mem_toList, Option.mem_def, or_imp,
    forall_and, and_assoc]

/-- A procedure returns in a session if that opens. -/
theorem Eeprom.session_runsTo_iff {e : Eeprom} {body : Selected → Procedure α} :
    (e.session body).RunsTo Bench.answer b (.ok a) b' ↔
      e.Opens b ∧ (body e.selected).RunsTo Bench.answer (e.selector.applied b) (.ok a) b' := by
  constructor
  · intro h
    have hvisit : (∀ l ∈ e.presence, l.read.run.value Bench.answer b = .ok true) ∧
        (e.selector.during (do settle e.settleTime; body e.selected)).RunsTo Bench.answer b
          (.ok a) b' := by
      unfold session at h
      split at h
      · rename_i l hl
        obtain ⟨on, b₁, hread, hrest⟩ := Procedure.runsTo_bind_iff.mp h
        obtain ⟨rfl, hrest⟩ := Procedure.runsTo_require_iff.mp hrest
        obtain rfl : b = b₁ := (l.final_read b).symm.trans hread.final
        refine ⟨fun l' hl' ↦ ?_, hrest⟩
        obtain rfl : l = l' := Option.some.inj (hl.symm.trans hl')
        exact hread.value
      · rename_i hnone
        exact ⟨fun l hl ↦ (hnone l hl).elim, h⟩
    obtain ⟨hpresent, hvisit⟩ := hvisit
    obtain ⟨hgroups, hbody⟩ := Selector.during_runsTo_iff.mp hvisit
    obtain ⟨_, b₁, hsettle, hbody⟩ := Procedure.runsTo_bind_iff.mp hbody
    have hsettled := (settle_runsTo e.settleTime _).final.symm.trans hsettle.final
    rw [← hsettled] at hbody
    exact ⟨⟨hpresent, hgroups⟩, hbody⟩
  · rintro ⟨hopens, hbody⟩
    have hsame := hopens.sameRun body
    exact ⟨hsame.value.trans hbody.value, hsame.final.trans hbody.final⟩

end Sessions

/-! ## Lines that were written -/

namespace Line

variable {l : Line} {b b' : Bench} {on : Bool}

theorem word_ne_zero (h : l.bit < 32) : l.word ≠ 0 := by
  intro h0
  have hnat := toNat_word h
  rw [h0, Nat.one_shiftLeft] at hnat
  exact absurd hnat.symm (Nat.ne_of_gt (Nat.two_pow_pos _))

/-- The bit of a line that was set or cleared. -/
theorem assigned_and_word (on : Bool) (level : UInt32) :
    l.assigned on level &&& l.word = if on then l.word else 0 := by
  rw [← UInt32.toBitVec_inj]
  ext i hi
  cases on with
  | false => simp [assigned]
  | true =>
    simp [assigned]
    grind

/-- A line is written if it works. -/
theorem write_runsTo_iff : (l.write on).RunsTo Bench.answer b (.ok ()) b' ↔
    l.Works b ∧ b' = b.withLevel l.group.id (l.assigned on (b.pin l.group.id).level) := by
  by_cases hl : l.Works b
  · have hwrite : (l.write on).RunsTo Bench.answer b (.ok ()) _ :=
      access_runsTo hl (PinGroup.writeLevel_runsTo _ hl.1)
    exact ⟨fun h ↦ ⟨hl, h.final.symm.trans hwrite.final⟩, by rintro ⟨-, rfl⟩; exact hwrite⟩
  · obtain ⟨e, -, he⟩ := access_fails hl fun m level ↦
      l.group.writeLevel (if on then level ||| m else level &&& ~~~ m)
    exact ⟨fun h ↦ (nomatch he.value.symm.trans h.value), fun h ↦ absurd h.1 hl⟩

/-- A line reads as it was written. -/
theorem value_read_of_written (h : (l.write on).RunsTo Bench.answer b (.ok ()) b') :
    l.read.run.value Bench.answer b' = .ok on := by
  obtain ⟨hl, rfl⟩ := write_runsTo_iff.mp h
  have hpin : ((b.withLevel l.group.id (l.assigned on (b.pin l.group.id).level)).pin
      l.group.id).level = l.assigned on (b.pin l.group.id).level := by
    simp [Bench.withLevel, Bench.setPin]
  refine value_read_eq_ok.mpr ⟨⟨(b.works_withLevel _ _ _).mpr hl.1, hl.2⟩, ?_⟩
  rw [hpin, assigned_and_word]
  cases on <;> simp [word_ne_zero hl.2]

end Line

end Transceiver
