import Transceiver.Proofs.ByteChanges
import Transceiver.Proofs.LaneLocality

/-!
# Controls used again

A control looks whether a module has it and then changes bytes of the module.  The transmitters and
clock recoveries of lanes, the rate and the power mode are all set in that way, but for a
transmitter that has a line.  Main statement: a setting that a driver made with success wrote only
bytes that came out different; made again it succeeds, writes nothing on the bus and changes nothing
at all.

To be found again the module has to stay present while it is selected.
-/

namespace Transceiver

variable {α : Type}

/-! ## Procedures that repeat -/

/-- A transaction writes a byte of the lower half of a module that is another one afterwards. -/
def Segment.Alters (s s' : Segment) (w : Transaction) : Prop :=
  ∃ address mem mem' offset v, s.device? address = some (.memory mem) ∧
    s'.device? address = some (.memory mem') ∧ offset < upperHalf ∧
    mem'.get 0 offset ≠ mem.get 0 offset ∧ w = .write address offset [v]

/-- A procedure that leads from one bench to another with success writes only bytes that it changes.
Run again it succeeds, writes nothing and changes nothing. -/
structure Procedure.Repeats (p : Procedure Unit) (b b' : Bench) : Prop where
  first : ∃ ws, Sends p.run b (.ok ()) b' ws ∧ ∀ w ∈ ws, b.segment.Alters b'.segment w
  again : Sends p.run b' (.ok ()) b' []

theorem SameRun.sends {p q : Program α} {b b' b'' : Bench} {a : α} {ws : List Transaction}
    (h : SameRun p q b b') (hq : Sends q b' a b'' ws) : Sends p b a b'' ws :=
  ⟨h.value.trans hq.value, h.final.trans hq.final,
    (congrArg (List.filter _) h.transactions).trans hq.writes⟩

namespace Procedure.Repeats

variable {p q : Procedure Unit} {f : α → Procedure Unit} {b b' : Bench}

/-- A check in front changes nothing. -/
theorem check {r : Except Error α} (h : (liftM r >>= f).RunsTo Bench.answer b (.ok ()) b')
    (hf : ∀ a, (f a).RunsTo Bench.answer b (.ok ()) b' → (f a).Repeats b b') :
    (liftM r >>= f).Repeats b b' := by
  obtain ⟨a, b₁, hcheck, hrest⟩ := runsTo_bind_iff.mp h
  obtain ⟨rfl, rfl⟩ := runsTo_liftExcept_iff.mp hcheck
  have hchecked (b : Bench) : Sends (liftM (Except.ok a : Except Error α) : Procedure α).run b
      (.ok a) b [] := (RunsTo.liftExcept _ b).sends (.liftExcept _)
  obtain ⟨⟨ws, hfirst, halters⟩, hagain⟩ := hf a hrest
  exact ⟨⟨ws, (hchecked b₁).andThen hfirst, halters⟩, (hchecked b').andThen hagain⟩

/-- Neither does what follows, if it only waits and reports. -/
theorem follow (h : p.Repeats b b') (hq : ∀ b, Sends q.run b (.ok ()) b []) :
    (p >>= fun _ ↦ q).Repeats b b' := by
  obtain ⟨⟨ws, hfirst, halters⟩, hagain⟩ := h
  have hboth := hfirst.andThen (f := fun _ ↦ q) (hq b')
  rw [List.append_nil] at hboth
  exact ⟨⟨ws, hboth, halters⟩, hagain.andThen (hq b')⟩

/-- A session that opens again and has nothing left to select. -/
theorem session {e : Eeprom} {body : Selected → Procedure Unit} (hopens : e.Opens b)
    (hagain : e.Opens b') (hselected : e.selector.applied b' = b')
    (h : (body e.selected).Repeats (e.selector.applied b) b') : (e.session body).Repeats b b' := by
  obtain ⟨⟨ws, hfirst, halters⟩, hrest⟩ := h
  refine ⟨⟨ws, (hopens.sameRun body).sends hfirst, ?_⟩, (hagain.sameRun body).sends ?_⟩
  · rwa [Selector.segment_applied] at halters
  · rwa [hselected]

end Procedure.Repeats

/-! ## Procedures on a module -/

/-- A device is a module that takes whatever is written to it. -/
structure Segment.Writable (s : Segment) (address : UInt8) : Prop where
  module : ∃ mem, s.device? address = some (.memory mem)
  kept : ∀ offset, s.discards address offset = false

/-- On a module that takes what is written to it a procedure repeats whenever it succeeds, and it
changes nothing else. -/
def Procedure.Steady (p : Procedure Unit) (address : UInt8) : Prop :=
  ∀ b b', b.segment.Writable address → p.RunsTo Bench.answer b (.ok ()) b' →
    p.Repeats b b' ∧ ∃ mem, b' = b.withModule address mem

namespace Procedure.Steady

variable {p q : Procedure Unit} {address : UInt8}

theorem follow (h : p.Steady address) (hq : ∀ b, Sends q.run b (.ok ()) b []) :
    (p >>= fun _ ↦ q).Steady address := by
  intro b b' hb hrun
  obtain ⟨_, b₁, hp, hrest⟩ := runsTo_bind_iff.mp hrun
  obtain rfl : b₁ = b' := (hq b₁).final.symm.trans hrest.final
  obtain ⟨hrepeats, hmodule⟩ := h b b₁ hb hp
  exact ⟨hrepeats.follow hq, hmodule⟩

/-- In a session on a module that stays present while it is selected, it still repeats. -/
theorem session {e : Eeprom} {c : Cage} {body : Selected → Procedure Unit} {b b' : Bench}
    (h : (body e.selected).Steady address) (hselector : e.selector = c.selector)
    (hpresence : e.presence = some c.presence) (hc : c.SelectsPresent)
    (hb : b.segment.Writable address) (hrun : (e.session body).RunsTo Bench.answer b (.ok ()) b') :
    (e.session body).Repeats b b' := by
  obtain ⟨hopens, hbody⟩ := Eeprom.session_runsTo_iff.mp hrun
  rw [← Selector.segment_applied e.selector b] at hb
  obtain ⟨hrepeats, mem, rfl⟩ := h _ _ hb hbody
  have hagain := (hopens.applied hc hselector hpresence).withModule address mem
  refine .session hopens hagain ?_ hrepeats
  rw [Selector.applied_withModule, Selector.applied_applied]

end Procedure.Steady

/-! ## Controls -/

/-- A control of a module: the byte that tells what the module has of it, if there is one, and the
changes that it makes, by that byte; none if the module does not have the control. -/
structure ByteControl where
  option? : Option UInt8
  device : DeviceSelector
  changes : UInt8 → List ByteChange

namespace ByteControl

/-- Look what the module has of a control. -/
def look (k : ByteControl) (m : Selected) : Procedure UInt8 :=
  match k.option? with
  | some offset => m.lowerByte offset
  | none => return 0

/-- Use a control that the module has. -/
def apply (k : ByteControl) (m : Selected) : Procedure Unit := do
  let options ← k.look m
  unless k.changes options ≠ [] do throw .notSupported
  m.revise k.device (k.changes options)

/-- The changes settle, and none is to the byte that tells of the control. -/
structure Settles (k : ByteControl) : Prop where
  changes : ∀ options, Settling (k.changes options)
  ne_pageSelect : ∀ offset ∈ k.option?, offset ≠ QsfpMap.pageSelect
  lt_packetOffset : ∀ offset ∈ k.option?, offset < packetOffset
  apart : ∀ offset ∈ k.option?, ∀ options, ∀ c ∈ k.changes options, offset ≠ c.offset

variable {k : ByteControl} {m : Selected} {b b' : Bench} {mem : ModuleMemory} {v : UInt8}

/-- To look for a control writes nothing, and shows the same after it is used. -/
theorem look_sends (hk : k.Settles)
    (hm : b.segment.device? (k.device.resolve m.address) = some (.memory mem))
    (h : (k.look m).RunsTo Bench.answer b (.ok v) b') :
    b' = b ∧ Sends (k.look m).run b (.ok v) b [] ∧
      ∀ options, Sends (k.look m).run
        (b.withModule (k.device.resolve m.address) (mem.revised (k.changes options))) (.ok v)
        (b.withModule (k.device.resolve m.address) (mem.revised (k.changes options))) [] := by
  obtain ⟨option?, device, changes⟩ := k
  cases option? with
  | none =>
    obtain ⟨rfl, rfl⟩ := Procedure.runsTo_pure_iff.mp h
    exact ⟨rfl, .done _ _, fun _ ↦ .done _ _⟩
  | some offset =>
    have hpage := hk.ne_pageSelect offset rfl
    have hmail := hk.lt_packetOffset offset rfl
    have hlook : look ⟨some offset, device, changes⟩ m = Bus.readByte m.address offset :=
      Selected.lowerByte_eq m offset
    have hquery : (look ⟨some offset, device, changes⟩ m).MadeOf (Single Action.IsQuery) :=
      Selected.readByte_unpaged_madeOf rfl
    have hrun := h
    rw [hlook] at hrun
    obtain ⟨hread, ⟨d, hd, rfl⟩, rfl⟩ := (Bus.readByte_runsTo_iff hpage hmail).mp hrun
    refine ⟨rfl, h.sends hquery, fun options ↦ ?_⟩
    have hcs := hk.changes options
    have hcurrent : (mem.revised (changes options)).currentPage = mem.currentPage :=
      ModuleMemory.get_revised_of_ne 0 fun c hc ↦ (hcs.ne_pageSelect c hc).symm
    obtain ⟨d', hd', hbyte⟩ := Segment.byte_setModule hm hcurrent
      (fun page ↦ ModuleMemory.get_revised_of_ne page (hk.apart offset rfl options)) hd
    have hagain := (Bus.readByte_runsTo_iff
      (b := b'.withModule (device.resolve m.address) (mem.revised (changes options))) hpage
      hmail).mpr ⟨hread, ⟨d', hd', hbyte.symm⟩, rfl⟩
    rw [← hlook] at hagain
    exact hagain.sends hquery

/-- A control whose changes settle is steady. -/
theorem apply_steady (hk : k.Settles) (m : Selected) :
    (k.apply m).Steady (k.device.resolve m.address) := by
  rintro b b' ⟨⟨mem, hm⟩, hkept⟩ hrun
  obtain ⟨options, b₁, hlook, hrest⟩ := Procedure.runsTo_bind_iff.mp hrun
  obtain ⟨rfl, hlooked, hshown⟩ := look_sends hk hm hlook
  obtain ⟨hne, hrevise⟩ := Procedure.runsTo_require_iff.mp hrest
  have hcs := hk.changes options
  have htakes : Selected.Takes b₁.segment (k.device.resolve m.address) mem (k.changes options) :=
    ⟨hm, hcs.lower, hcs.ne_pageSelect, fun c _ ↦ hkept c.offset⟩
  obtain ⟨hsends, hreads⟩ := Selected.revise_sends htakes hrevise
  obtain rfl := hsends.final.symm.trans hrevise.final
  have hagain := Selected.revise_sends_of_fixes
    (htakes.withModule (mem.revised (k.changes options))) hreads
    (ModuleMemory.fixes_of_settling hcs)
  refine ⟨⟨⟨mem.rewrites (k.device.resolve m.address) (k.changes options), ?_, ?_⟩, ?_⟩, _, rfl⟩
  · refine hlooked.andThen ?_
    rw [if_pos hne]
    exact hsends
  · intro w hw
    obtain ⟨offset, v, hwrite, hlower, hdiffers⟩ := ModuleMemory.changed_of_mem_rewrites hcs hw
    exact ⟨_, mem, _, offset, v, hm, b₁.device?_withModule _ _, hlower, hdiffers, hwrite⟩
  · refine (hshown options).andThen ?_
    rw [if_pos hne]
    exact hagain

/-- A control that makes one change if a byte tells that the module has it. -/
def ofOption (option : UInt8) (has : UInt8 → Bool) (device : DeviceSelector) (c : ByteChange) :
    ByteControl where
  option? := some option
  device := device
  changes options := if has options then [c] else []

theorem apply_ofOption (option : UInt8) (has : UInt8 → Bool) (device : DeviceSelector)
    (c : ByteChange) (m : Selected) : (ofOption option has device c).apply m = (do
      let options ← m.lowerByte option
      unless has options do throw .notSupported
      let _ ← m.modify ⟨device, .ignore, c.offset⟩ fun old ↦ .ok (c.apply old)) := by
  refine congrArg (m.lowerByte option >>= ·) (funext fun options ↦ ?_)
  dsimp only [ofOption]
  by_cases h : has options = true
  · simp only [if_pos h, ne_eq, List.cons_ne_nil, not_false_eq_true]
    rfl
  · simp only [if_neg h, ne_eq, not_true_eq_false]
    rfl

end ByteControl

/-! ## Changes that settle -/

/-- A single change that can be made again. -/
theorem Settling.singleton {c : ByteChange} (hlower : c.offset < upperHalf)
    (hpage : c.offset ≠ QsfpMap.pageSelect) (h : ∀ x, c.apply (c.apply x) = c.apply x) :
    Settling [c] := by
  refine ⟨?_, ?_, ?_, ?_⟩ <;> simp only [List.mem_singleton, forall_eq]
  · exact hlower
  · exact hpage
  · exact h
  · exact fun _ _ ↦ rfl

theorem Settling.nil : Settling [] := ⟨nofun, nofun, nofun, nofun⟩

theorem ByteControl.Settles.ofOption {option : UInt8} {has : UInt8 → Bool}
    {device : DeviceSelector} {c : ByteChange} (h : Settling [c])
    (hpage : option ≠ QsfpMap.pageSelect) (hmail : option < packetOffset)
    (hne : option ≠ c.offset) : (ByteControl.ofOption option has device c).Settles := by
  constructor
  · intro options
    dsimp only [ByteControl.ofOption]
    split
    · exact h
    · exact .nil
  · rintro _ ⟨⟩
    exact hpage
  · rintro _ ⟨⟩
    exact hmail
  · rintro _ ⟨⟩ options c' hc'
    dsimp only [ByteControl.ofOption] at hc'
    split at hc'
    · obtain rfl := List.mem_singleton.mp hc'
      exact hne
    · nomatch hc'

/-- A bit of a byte set or cleared. -/
def ByteChange.ofBit (offset : UInt8) (i : Bit) (on : Bool) : ByteChange :=
  ⟨offset, fun old ↦ withBit old i on⟩

theorem withBit_withBit (b : UInt8) (i : Bit) (on : Bool) :
    withBit (withBit b i on) i on = withBit b i on :=
  withBit_eq_self.mpr (by rw [hasBit_withBit, if_pos rfl])

/-- Bits may be set, or cleared, in any order. -/
theorem withBit_comm (b : UInt8) (i j : Bit) (on : Bool) :
    withBit (withBit b i on) j on = withBit (withBit b j on) i on := by
  refine eq_of_hasBit fun n ↦ ?_
  simp only [hasBit_withBit]
  grind

/-- Bits of lanes that are all set, or all cleared, settle. -/
theorem Settling.ofBits {bits : List ChannelBit} (hlower : ∀ b ∈ bits, b.offset < upperHalf)
    (hpage : ∀ b ∈ bits, b.offset ≠ QsfpMap.pageSelect) (channel : UInt8) (on : Bool) :
    Settling (bits.map fun b ↦ .ofBit b.offset (b.position channel) on) := by
  constructor <;> simp only [List.forall_mem_map]
  · exact hlower
  · exact hpage
  · exact fun b _ x ↦ withBit_withBit x _ on
  · exact fun b _ b' _ _ x ↦ withBit_comm x _ _ on

/-- The power control byte that has been overridden stays as it is. -/
theorem PowerControl.force_force (control : UInt8) (high : Bool) :
    force (force control high) high = force control high := by
  refine eq_of_hasBit fun n ↦ ?_
  simp only [force, hasBit_withBit]
  grind

/-! ## The controls of a module -/

namespace LaneControl

variable (k : LaneControl) (q : Qsfp) (channel : UInt8) (enable : Bool)

/-- The control of a lane. -/
def byteControl : ByteControl where
  option? := some k.options
  device := .auto
  changes options :=
    (k.bits q options).map fun b ↦ .ofBit b.offset (b.position channel) (k.level enable)

theorem byteControl_settles : (k.byteControl q channel enable).Settles := by
  constructor
  · exact fun options ↦ .ofBits (lower_of_mem_bits q) (ne_pageSelect_of_mem_bits q) channel _
  · rintro _ ⟨⟩
    exact k.options_ne_pageSelect
  · rintro _ ⟨⟩
    exact k.options_lt
  · rintro _ ⟨⟩ options c hc
    obtain ⟨b, hb, rfl⟩ := List.mem_map.mp hc
    have hlower : b.offset < upperHalf := lower_of_mem_bits q b hb
    rintro (ho : k.options = b.offset)
    rw [← ho] at hlower
    cases k <;> exact absurd hlower (by decide)

end LaneControl

/-- Switching bits of a lane is changing their bytes. -/
theorem Qsfp.setLaneBits_eq_revise (m : Selected) {n : UInt8} (lane : Lane n) (on : Bool)
    (bits : List ChannelBit) : setLaneBits m lane on bits =
      m.revise .auto (bits.map fun b ↦ .ofBit b.offset (b.position lane.channel) on) := by
  induction bits with
  | nil => rfl
  | cons b bits ih =>
    unfold setLaneBits
    dsimp only
    rw [b.change_eq_withBit, ih]
    rfl

theorem LaneControl.body_eq_apply (k : LaneControl) (q : Qsfp) (m : Selected) {n : UInt8}
    (lane : Lane n) (enable : Bool) :
    k.body q m lane enable = (k.byteControl q lane.channel enable).apply m := by
  refine congrArg (m.lowerByte k.options >>= ·) (funext fun options ↦ ?_)
  rw [Qsfp.setLaneBits_eq_revise]
  dsimp only [byteControl]
  simp only [ne_eq, List.map_eq_nil_iff]

namespace Qsfp

/-- The rate, which a module is not asked whether it has. -/
def rateControl (code : UInt8) : ByteControl where
  option? := none
  device := .auto
  changes _ := [⟨QsfpMap.rxRateSelect, fun _ ↦ code⟩, ⟨QsfpMap.txRateSelect, fun _ ↦ code⟩]

theorem rateControl_settles (code : UInt8) : (rateControl code).Settles := by
  have hcode (options : UInt8) :
      ∀ c ∈ (rateControl code).changes options, ∀ x, c.apply x = code := by
    simp [rateControl]
  refine ⟨fun options ↦ ⟨?_, ?_, fun c hc x ↦ ?_, fun c hc c' hc' _ x ↦ ?_⟩, nofun, nofun, nofun⟩
  · simp only [rateControl, List.forall_mem_cons]
    decide
  · simp only [rateControl, List.forall_mem_cons]
    decide
  · rw [hcode options c hc, hcode options c hc]
  · rw [hcode options c hc, hcode options c' hc']

/-- The power mode, of a module that leaves it to software. -/
def powerControl (high : Bool) : ByteControl :=
  .ofOption QsfpMap.extIdentifier softwarePowerSupported .auto
    ⟨QsfpMap.powerControl, fun old ↦ PowerControl.force old high⟩

theorem powerControl_settles (high : Bool) : (powerControl high).Settles :=
  .ofOption (.singleton (by decide : QsfpMap.powerControl < upperHalf)
      (by decide : QsfpMap.powerControl ≠ QsfpMap.pageSelect)
      fun x ↦ PowerControl.force_force x high)
    (by decide) (by decide) (by decide : QsfpMap.extIdentifier ≠ QsfpMap.powerControl)

theorem forcePower_eq_apply (m : Selected) (high : Bool) :
    forcePower m high = (powerControl high).apply m := by
  unfold powerControl
  rw [ByteControl.apply_ofOption]
  rfl

end Qsfp

namespace Sfp

/-- The soft control of the transmitter. -/
def softControl (enable : Bool) : ByteControl :=
  .ofOption SfpMap.enhancedOptions (hasBit · SfpMap.softTxDisableBit) (.explicit diagnosticDevice)
    (.ofBit SfpMap.statusControl SfpMap.txDisableControlBit !enable)

/-- What is done in a session to switch the transmitter. -/
theorem softControl_then (m : Selected) (enable : Bool) (p : Procedure Unit) : (do
    requireSoftTxDisable m
    let _ ← m.modify (.diagnostic SfpMap.statusControl) fun status ↦
      .ok (withBit status SfpMap.txDisableControlBit !enable)
    p) = (do
    (softControl enable).apply m
    p) := by
  unfold softControl
  rw [ByteControl.apply_ofOption, bind_assoc]
  refine (bind_assoc _ _ _).trans ?_
  refine congrArg (m.lowerByte SfpMap.enhancedOptions >>= ·) (funext fun options ↦ ?_)
  cases hasBit options SfpMap.softTxDisableBit with
  | false => rfl
  | true =>
    simp only [if_true, pure_bind, bind_assoc]
    rfl

theorem softControl_settles (enable : Bool) : (softControl enable).Settles :=
  .ofOption (.singleton (by decide : SfpMap.statusControl < upperHalf)
      (by decide : SfpMap.statusControl ≠ QsfpMap.pageSelect) fun x ↦ withBit_withBit x _ _)
    (by decide) (by decide) (by decide : SfpMap.enhancedOptions ≠ SfpMap.statusControl)

end Sfp

/-! ## Lines -/

namespace Line

variable {l : Line} {on : Bool} {b b' : Bench}

theorem assigned_assigned (l : Line) (on : Bool) (level : UInt32) :
    l.assigned on (l.assigned on level) = l.assigned on level := by
  cases on with
  | false => exact (UInt32.and_assoc ..).trans (congrArg (level &&& ·) UInt32.and_self)
  | true => exact (UInt32.or_assoc ..).trans (congrArg (level ||| ·) UInt32.or_self)

/-- Nothing is written on the bus for a line, and one that was written stays as it is. -/
theorem write_repeats (h : (l.write on).RunsTo Bench.answer b (.ok ()) b') :
    (l.write on).Repeats b b' := by
  have hquiet {b b' : Bench} (h : (l.write on).RunsTo Bench.answer b (.ok ()) b') :
      Sends (l.write on).run b (.ok ()) b' [] := by
    have hmade : (l.write on).MadeOf (Single Action.IsOffBus) := l.write_madeOf on
    exact ⟨h.value, h.final, congrArg (List.filter _) (hmade.transactions_eq_nil _ _)⟩
  obtain ⟨hl, rfl⟩ := write_runsTo_iff.mp h
  refine ⟨⟨[], hquiet h, nofun⟩, hquiet (write_runsTo_iff.mpr ⟨?_, ?_⟩)⟩
  · exact ⟨(b.works_withLevel _ _ _).mpr hl.1, hl.2⟩
  · refine congrArg (Bench.mk b.segment) (funext fun id ↦ ?_)
    by_cases hid : id = l.group.id
    · subst hid
      simp [Bench.withLevel, Bench.setPin, assigned_assigned]
    · simp [Bench.withLevel, Bench.setPin, hid]

end Line

/-! ## What a cage does -/

namespace Qsfp

variable {q : Qsfp} {b b' : Bench} {channel : UInt8} (hq : q.cage.SelectsPresent)
  (hb : b.segment.Writable q.cage.address)
include hq hb

/-- The controls of lanes repeat. -/
theorem switch_repeats {k : LaneControl} {enable : Bool}
    (h : (k.switch q channel enable).RunsTo Bench.answer b (.ok ()) b') :
    (k.switch q channel enable).Repeats b b' := by
  have hrest (b : Bench) : Sends (k.rest q channel enable).run b (.ok ()) b [] := by
    refine (LaneControl.rest_runsTo b).sends ?_
    cases k with
    | transmitter => exact .bind (.lift (settle_madeOf _)) fun _ ↦ .lift (report_madeOf _ _ _)
    | clockRecovery => exact .pure _
  rw [LaneControl.switch_eq] at h ⊢
  refine .check h fun lane hvisit ↦ ?_
  obtain ⟨_, b₂, hsession, hdone⟩ := Procedure.runsTo_bind_iff.mp hvisit
  obtain rfl : b₂ = b' := (hrest b₂).final.symm.trans hdone.final
  have hsteady : (k.body q q.eeprom.selected lane enable).Steady q.cage.address := by
    rw [LaneControl.body_eq_apply]
    exact ByteControl.apply_steady (k.byteControl_settles q lane.channel enable) _
  exact (hsteady.session rfl rfl hq hb hsession).follow hrest

/-- So does the rate. -/
theorem extRateSelect_repeats {revision : FirmwareRevision} {cdrEnable : Bool}
    (h : (q.extRateSelect channel revision cdrEnable).RunsTo Bench.answer b (.ok ()) b') :
    (q.extRateSelect channel revision cdrEnable).Repeats b b' := by
  have hrate : q.extRateSelect channel revision cdrEnable = (do
      let _ ← q.lane channel
      q.session fun m ↦ (rateControl (rateCode revision cdrEnable)).apply m) := rfl
  have hsteady := ByteControl.apply_steady (rateControl_settles (rateCode revision cdrEnable))
    q.eeprom.selected
  rw [hrate] at h ⊢
  exact .check h fun _ hsession ↦ Procedure.Steady.session hsteady rfl rfl hq hb hsession

/-- And the power mode. -/
theorem forcePowerMode_repeats {high : Bool}
    (h : (q.forcePowerMode high).RunsTo Bench.answer b (.ok ()) b') :
    (q.forcePowerMode high).Repeats b b' := by
  have hpower : q.forcePowerMode high = q.session fun m ↦ (powerControl high).apply m :=
    congrArg q.session (funext fun m ↦ forcePower_eq_apply m high)
  rw [hpower] at h ⊢
  have hsteady := ByteControl.apply_steady (powerControl_settles high) q.eeprom.selected
  exact Procedure.Steady.session hsteady rfl rfl hq hb h

end Qsfp

/-- The transmitter of an SFP module repeats, with a line or without. -/
theorem Sfp.txControl_repeats {s : Sfp} {b b' : Bench} {channel : UInt8} {enable : Bool}
    (hs : s.cage.txControl = none →
      s.cage.SelectsPresent ∧ b.segment.Writable diagnosticDevice)
    (h : (s.txControl channel enable).RunsTo Bench.answer b (.ok ()) b') :
    (s.txControl channel enable).Repeats b b' := by
  unfold txControl at h ⊢
  refine .check h fun _ hrest ↦ ?_
  cases hline : s.cage.txControl with
  | some line =>
    rw [hline] at hrest
    exact line.write_repeats hrest
  | none =>
    rw [hline] at hrest
    obtain ⟨hpresent, hb⟩ := hs hline
    have hsteady := (ByteControl.apply_steady (softControl_settles enable)
      s.eeprom.selected).follow (q := report .debug "soft tx control" [("enable", toString enable)])
        fun b ↦ (report_sends ..).lift
    rw [← softControl_then] at hsteady
    exact hsteady.session rfl rfl hpresent hb hrest

/-! ## Settings -/

/-- What a driver can be asked to set. -/
inductive Setting where
  | lane (k : LaneControl) (channel : UInt8) (enable : Bool)
  | rate (channel : UInt8) (revision : FirmwareRevision) (cdrEnable : Bool)
  | power (high : Bool)
deriving DecidableEq, Repr

/-- The driver of an SFP module, also of one in an adapter. -/
def Driver.sfp? : Driver → Option Sfp
  | .sfp s => some s
  | .qsfp q => q.adapter?
  | .subPort p => p.inner.adapter?

namespace Setting

/-- Ask a driver for a setting.  The power mode is one of QSFP cages. -/
def request (r : Setting) (v : Driver) : Program (Except Error Unit × Driver) :=
  match r with
  | .lane k channel enable => k.set channel v enable
  | .rate channel revision cdrEnable =>
    MediaControl.perform v (.extRateSelect channel revision cdrEnable)
  | .power high => keeping v (match v.qsfp? with
    | some q => q.forcePowerMode high
    | none => throw .notSupported)

/-- The line that is driven for a setting, in place of any change to the module. -/
def line? (r : Setting) (v : Driver) : Option Line :=
  match r with
  | .lane .transmitter _ _ => v.sfp?.bind fun s ↦ s.cage.txControl
  | _ => none

/-- The device whose bytes a setting changes. -/
def device (r : Setting) (v : Driver) : UInt8 :=
  match r with
  | .lane .transmitter _ _ => if v.sfp?.isSome then diagnosticDevice else v.cage.address
  | _ => v.cage.address

/-- The module takes what is written to it, and it stays present while it is selected. -/
structure Reaches (r : Setting) (v : Driver) (s : Segment) : Prop where
  present : v.cage.SelectsPresent
  writable : s.Writable (r.device v)

/-- A driver on a bench makes a setting with success; what that leads to. -/
structure Makes (r : Setting) (x x' : Driver × Bench) : Prop where
  value : (r.request x.1).value Bench.answer x.2 = (.ok (), x'.1)
  final : (r.request x.1).final Bench.answer x.2 = x'.2

/-- A setting that leads from one driver and bench to another leaves the driver as it is, and writes
only bytes that come out different.  Made again it succeeds, writes nothing on the bus and leaves
everything as it is. -/
structure Repeats (r : Setting) (x x' : Driver × Bench) : Prop where
  driver : x'.1 = x.1
  first : ∃ ws, Sends (r.request x.1) x.2 (.ok (), x'.1) x'.2 ws ∧
    ∀ w ∈ ws, x.2.segment.Alters x'.2.segment w
  again : Sends (r.request x'.1) x'.2 (.ok (), x'.1) x'.2 []

/-- What making a setting leads to, with success or without. -/
def next (r : Setting) (x : Driver × Bench) : Driver × Bench :=
  (((r.request x.1).value Bench.answer x.2).2, (r.request x.1).final Bench.answer x.2)

theorem makes_next {r : Setting} {x : Driver × Bench}
    (hok : ((r.request x.1).value Bench.answer x.2).1.isOk = true) : r.Makes x (r.next x) :=
  ⟨Prod.ext (ok_of_isOk hok) rfl, rfl⟩

variable {r : Setting} {v : Driver} {b : Bench} {x : Driver × Bench}

theorem repeats_of_keeping {p : Procedure Unit} (hr : r.request v = keeping v p)
    (hp : ∀ b', p.RunsTo Bench.answer b (.ok ()) b' → p.Repeats b b')
    (hx : r.Makes (v, b) x) : r.Repeats (v, b) x := by
  have hkeeping {b b' : Bench} {ws : List Transaction} (h : Sends p.run b (.ok ()) b' ws) :
      Sends (r.request v) b (.ok (), v) b' ws := by
    rw [hr]
    exact ⟨Prod.ext ((value_keeping ..).trans h.value) (keeping_value ..),
      (final_keeping ..).trans h.final, (congrArg Trace.writes (trace_keeping ..)).trans h.writes⟩
  obtain ⟨v', b'⟩ := x
  obtain ⟨hvalue, hfinal⟩ := hx
  dsimp only at hvalue hfinal
  rw [hr] at hvalue hfinal
  obtain rfl : v = v' := (keeping_value ..).symm.trans (congrArg Prod.snd hvalue)
  obtain ⟨⟨ws, hfirst, halters⟩, hagain⟩ := hp b'
    ⟨(value_keeping ..).symm.trans (congrArg Prod.fst hvalue), (final_keeping ..).symm.trans hfinal⟩
  exact ⟨rfl, ⟨ws, hkeeping hfirst, halters⟩, hkeeping hagain⟩

section Cages

variable {q : Qsfp} (hv : v.qsfp? = some q)
include hv

theorem cage_of_qsfp : v.cage = q.cage := by
  cases v <;> cases hv <;> rfl

theorem sfp_of_qsfp : v.sfp? = q.adapter? := by
  cases v <;> cases hv <;> rfl

theorem request_power (high : Bool) :
    (power high).request v = keeping v (q.forcePowerMode high) := by
  unfold request
  rw [hv]

/-- Settings of a module in the cage itself repeat. -/
theorem repeats_of_cage (hq : q.adapter? = none) (hr : r.Reaches v b.segment)
    (hx : r.Makes (v, b) x) : r.Repeats (v, b) x := by
  have hadapted : q.found.adapted = false := Qsfp.not_adapted_of_adapter? hq
  have hdevice : r.device v = q.cage.address := by
    unfold device
    rw [sfp_of_qsfp hv, hq, cage_of_qsfp hv]
    split <;> rfl
  obtain ⟨hpresent, hwritable⟩ := hr
  rw [cage_of_qsfp hv] at hpresent
  rw [hdevice] at hwritable
  cases r with
  | lane k channel enable =>
    exact repeats_of_keeping (LaneControl.set_eq hv hadapted)
      (fun b' h ↦ .check h fun _ hs ↦ Qsfp.switch_repeats hpresent hwritable hs) hx
  | rate channel revision cdrEnable =>
    exact repeats_of_keeping
      (ChannelRequest.perform_cage hv hadapted (.extRateSelect revision cdrEnable) channel)
      (fun b' h ↦ .check h fun _ hs ↦ Qsfp.extRateSelect_repeats hpresent hwritable hs) hx
  | power high =>
    exact repeats_of_keeping (request_power hv high)
      (fun b' h ↦ Qsfp.forcePowerMode_repeats hpresent hwritable h) hx

/-- So do those of an adapter and of the module in it. -/
theorem repeats_of_adapter {s : Sfp} (hs : q.adapter? = some s) (hr : r.Reaches v b.segment)
    (hx : r.Makes (v, b) x) : r.Repeats (v, b) x := by
  have hserved {op : Operation} (hop : op.route = .adapted) : q.serve op = s.serve op := by
    unfold Qsfp.serve
    rw [hs, hop]
  have hrefused {op : Operation} (hop : op.route = .refused) :
      q.serve op = throw .notSupported := by
    unfold Qsfp.serve
    rw [hs, hop]
  obtain ⟨hpresent, hwritable⟩ := hr
  rw [cage_of_qsfp hv] at hpresent
  cases r with
  | lane k channel enable =>
    cases k with
    | transmitter =>
      dsimp only [device] at hwritable
      rw [sfp_of_qsfp hv, hs] at hwritable
      refine repeats_of_keeping (ChannelRequest.perform_driver hv (.txControl enable) channel)
        (fun b' h ↦ .check h fun lane ht ↦ ?_) hx
      dsimp only [ChannelRequest.ask] at ht ⊢
      rw [hserved rfl] at ht ⊢
      refine Sfp.txControl_repeats (fun _ ↦ ⟨?_, hwritable⟩) ht
      rw [Qsfp.adapter?_eq_some hs]
      exact hpresent
    | clockRecovery =>
      refine repeats_of_keeping (ChannelRequest.perform_driver hv (.cdrSet enable) channel)
        (fun b' h ↦ .check h fun lane ht ↦ ?_) hx
      dsimp only [ChannelRequest.ask] at ht
      rw [hrefused rfl] at ht
      nomatch ht.value
  | rate channel revision cdrEnable =>
    refine repeats_of_keeping (ChannelRequest.perform_driver hv
      (.extRateSelect revision cdrEnable) channel) (fun b' h ↦ .check h fun lane ht ↦ ?_) hx
    dsimp only [ChannelRequest.ask] at ht
    rw [hrefused rfl] at ht
    nomatch ht.value
  | power high =>
    dsimp only [device] at hwritable
    rw [cage_of_qsfp hv] at hwritable
    exact repeats_of_keeping (request_power hv high)
      (fun b' h ↦ Qsfp.forcePowerMode_repeats hpresent hwritable h) hx

end Cages

/-- Of an SFP cage only the transmitter can be set, and that repeats, with a line or without. -/
theorem repeats_of_sfp {s : Sfp} (hr : r.line? (.sfp s) = none → r.Reaches (.sfp s) b.segment)
    (hx : r.Makes (.sfp s, b) x) : r.Repeats (.sfp s, b) x := by
  have hrefused (hrequest : r.request (.sfp s) = keeping (.sfp s) (throw .notSupported)) :
      r.Repeats (.sfp s, b) x := repeats_of_keeping hrequest (fun _ h ↦ nomatch h.value) hx
  cases r with
  | lane k channel enable =>
    cases k with
    | transmitter =>
      have hrequest : (lane .transmitter channel enable).request (.sfp s) =
          keeping (.sfp s) (s.txControl channel enable) := keeping_bind s Driver.sfp _
      refine repeats_of_keeping hrequest (fun b' h ↦ Sfp.txControl_repeats (fun hline ↦ ?_) h) hx
      obtain ⟨hpresent, hwritable⟩ := hr hline
      exact ⟨hpresent, hwritable⟩
    | clockRecovery => exact hrefused (keeping_bind s Driver.sfp (throw Error.notSupported))
  | rate channel revision cdrEnable =>
    exact hrefused (keeping_bind s Driver.sfp (throw Error.notSupported))
  | power high => exact hrefused rfl

/-- An adapter wires no line of the module in it. -/
theorem line_of_qsfp (r : Setting) {q : Qsfp} (hv : v.qsfp? = some q) : r.line? v = none := by
  have hnone : (q.adapter?.bind fun s ↦ s.cage.txControl) = none := by
    unfold Qsfp.adapter?
    split <;> rfl
  unfold line?
  rw [sfp_of_qsfp hv, hnone]
  split <;> rfl

end Setting

/-- Settings repeat.  The transmitter, the clock recovery, the rate or the power mode that a driver
sets with success is set with writes of bytes that come out different, and of no others.  Set again
in the same way, it is set with success, no write on the bus and no change of the module or of a pin
group.

Unless a line is driven, the module has to take what is written to it and to be found again. -/
theorem Driver.setting_repeats (r : Setting) (v : Driver) (b : Bench) (x : Driver × Bench)
    (hr : r.line? v = none → r.Reaches v b.segment) (hx : r.Makes (v, b) x) :
    r.Repeats (v, b) x := by
  cases hv : v.qsfp? with
  | some q =>
    have hr := hr (r.line_of_qsfp hv)
    cases hs : q.adapter? with
    | some s => exact Setting.repeats_of_adapter hv hs hr hx
    | none => exact Setting.repeats_of_cage hv hs hr hx
  | none =>
    cases v with
    | sfp s => exact Setting.repeats_of_sfp hr hx
    | qsfp _ | subPort _ => nomatch hv

/-- The rate of a QSFP module, of which the receiver has it already, the transmitter of an SFP
module with a soft control, and that of one with a line, where nothing is on the bus. -/
theorem Driver.setting_repeats_three_modules :
    let c : Cage := {
      instanceId := 1, name := "port0", family := .qsfp, portType := .qsfp28, address := 0x50
      selector := ⟨none, some ⟨⟨"select", 1⟩, 2⟩⟩, selectDelay := .zero
      presence := ⟨⟨"control", 0⟩, 0⟩, reset := none, resetDelay := .zero, lowPower := none
      txControl := none, rxLoss := none, txFault := none, portLed := none
      defaultSpeedMbps := none, channelOffset := 0, maxPowerMw := 5000 }
    let c' : Cage := { c with family := .sfp, portType := .sfpPlus }
    let line : Line := ⟨⟨"control", 0⟩, 3⟩
    let v : Driver := .ofCage c
    let soft : Driver := .ofCage c'
    let wired : Driver := .ofCage { c' with txControl := some line }
    let pins : Nat → Pin := fun _ ↦ .ofLevel 1
    let rated : Segment := Segment.blank.setDevice 0x50
      (some (.memory (ModuleMemory.blank.set 0 QsfpMap.rxRateSelect 0xff)))
    let steered : Segment := (Segment.blank.setDevice 0x50
      (some (.memory (ModuleMemory.blank.set 0 SfpMap.enhancedOptions 0x40)))).setDevice
        diagnosticDevice (some (.memory .blank))
    let r : Setting := .rate 0 .rev1 true
    let off : Setting := .lane .transmitter 0 false
    let x := r.next (v, ⟨rated, pins⟩)
    let y := off.next (soft, ⟨steered, pins⟩)
    let z := off.next (wired, ⟨.blank, pins⟩)
    (r.line? v = none → r.Reaches v rated) ∧ r.Makes (v, ⟨rated, pins⟩) x ∧
      r.Repeats (v, ⟨rated, pins⟩) x ∧
      (off.line? soft = none → off.Reaches soft steered) ∧ off.Makes (soft, ⟨steered, pins⟩) y ∧
      off.Repeats (soft, ⟨steered, pins⟩) y ∧
      off.line? wired = some line ∧ off.Makes (wired, ⟨.blank, pins⟩) z ∧
      off.Repeats (wired, ⟨.blank, pins⟩) z := by
  intro c c' line v soft wired pins rated steered r off x y z
  have hpresent : c.SelectsPresent := by
    rintro t ht hid
    obtain rfl := List.mem_singleton.mp ht
    exact absurd hid (by decide)
  have hr : r.line? v = none → r.Reaches v rated :=
    fun _ ↦ ⟨hpresent, ⟨⟨_, rfl⟩, fun _ ↦ rfl⟩⟩
  have hsoft : off.line? soft = none → off.Reaches soft steered :=
    fun _ ↦ ⟨hpresent, ⟨⟨_, rfl⟩, fun _ ↦ rfl⟩⟩
  have hwired : off.line? wired = none → off.Reaches wired .blank := nofun
  have hx : r.Makes (v, ⟨rated, pins⟩) x := Setting.makes_next (by decide +kernel)
  have hy : off.Makes (soft, ⟨steered, pins⟩) y := Setting.makes_next (by decide +kernel)
  have hz : off.Makes (wired, ⟨.blank, pins⟩) z := Setting.makes_next (by decide +kernel)
  exact ⟨hr, hx, setting_repeats r v _ x hr hx, hsoft, hy, setting_repeats off soft _ y hsoft hy,
    rfl, hz, setting_repeats off wired _ z hwired hz⟩

/-- A draft may name one group for the presence and to select the module.  Where the level that
selects the module clears the presence line, a transmitter is enabled with success, and after that
there is no module to enable it on again. -/
theorem Driver.not_setting_repeats_of_shared_group :
    let group : PinGroup := ⟨"control", 0⟩
    let d : Draft := {
      name := "port0", family := .qsfp, presence := some ⟨group, 0⟩, module := some ⟨group, 2⟩ }
    let mem := ModuleMemory.blank.set 0 QsfpMap.controlOptions (bitMask QsfpMap.txDisableBit)
    let b : Bench := ⟨Segment.blank.setDevice 0x50 (some (.memory mem)), fun _ ↦ .ofLevel 1⟩
    let r : Setting := .lane .transmitter 0 true
    ∃ c, d.build = .ok c ∧
      let v : Driver := .ofCage c
      let x := r.next (v, b)
      r.line? v = none ∧ b.segment.Writable (r.device v) ∧ r.Makes (v, b) x ∧
        (r.request x.1).value Bench.answer x.2 = (.error .notPresent, x.1) := by
  intro group d mem b r
  refine ⟨_, rfl, ?_⟩
  intro v x
  refine ⟨rfl, ⟨⟨mem, rfl⟩, fun _ ↦ rfl⟩, ?_, ?_⟩
  · exact Setting.makes_next (by decide +kernel)
  · dsimp only [x, v, b, mem, r, d, group]
    rfl

end Transceiver
