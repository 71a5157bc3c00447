import Transceiver.Driver.SubPort
import Transceiver.Proofs.ByteAccess

/-!
# Lane controls

The transmitters and the clock recoveries of a module are switched by bits of its lower half, of
which a layout places one for each lane.  Both are switched alike: the module is asked whether it
has the control, and the bits that it has are set or cleared one after the other.  Here is when a
cage switches the control of a lane with success, and what it makes of the module.

Bits of different lanes are different bits.  So what is done for one lane is neither seen nor undone
by what is done for another.
-/

namespace Transceiver

variable {α β : Type}

/-! ## Bits of channels -/

/-- Setting a bit to what it is changes nothing. -/
theorem withBit_eq_self {b : UInt8} {i : Bit} {on : Bool} :
    withBit b i on = b ↔ hasBit b i = on := by
  constructor
  · intro h
    rw [← h, hasBit_withBit, if_pos rfl]
  · rintro rfl
    refine eq_of_hasBit fun j ↦ ?_
    rw [hasBit_withBit]
    split
    · rename_i h
      rw [h]
    · rfl

namespace ChannelBit

/-- The position of the bit of a channel. -/
def position (b : ChannelBit) (channel : UInt8) : Bit :=
  (Bit.ofIndex? ((b.shift + channel) &&& 7)).getD .b0

theorem mask_eq_bitMask (b : ChannelBit) (channel : UInt8) :
    b.mask channel = bitMask (b.position channel) := by
  unfold mask position
  obtain ⟨v⟩ := b.shift + channel
  revert v
  decide +kernel

/-- To change a byte by the mask of a channel is to set or clear the bit of that. -/
theorem change_eq_withBit (b : ChannelBit) (channel : UInt8) (on : Bool) :
    (fun byte ↦ Except.ok (if on then byte ||| b.mask channel else byte &&& ~~~ b.mask channel) :
      UInt8 → Except Error UInt8) = fun byte ↦ .ok (withBit byte (b.position channel) on) := by
  rw [mask_eq_bitMask]
  rfl

end ChannelBit

namespace ModuleMemory

variable (m : ModuleMemory) (channel : UInt8) (on : Bool)

/-- The module with some bits of a channel set or cleared, in order. -/
def switched (bits : List ChannelBit) : ModuleMemory :=
  bits.foldl (fun m b ↦ m.set 0 b.offset (withBit (m.get 0 b.offset) (b.position channel) on)) m

theorem mailbox_switched (bits : List ChannelBit) :
    (m.switched channel on bits).mailbox = m.mailbox := by
  induction bits generalizing m with
  | nil => rfl
  | cons b bits ih => exact ih _

/-- The bits are switched, and no others. -/
theorem hasBit_switched (bits : List ChannelBit) (hlower : ∀ b ∈ bits, b.offset < upperHalf)
    (p o : UInt8) (i : Bit) :
    hasBit ((m.switched channel on bits).cell p o) i =
      if p = 0 ∧ ∃ b ∈ bits, b.offset = o ∧ b.position channel = i then on
      else hasBit (m.cell p o) i := by
  induction bits generalizing m with
  | nil => simp [switched]
  | cons b bits ih =>
    have hb : b.offset < upperHalf := hlower b List.mem_cons_self
    have hcell : hasBit ((m.set 0 b.offset
        (withBit (m.get 0 b.offset) (b.position channel) on)).cell p o) i =
        if p = 0 ∧ b.offset = o ∧ b.position channel = i then on else hasBit (m.cell p o) i := by
      have hhome : home 0 b.offset = 0 := by simp [home]
      unfold set get
      rw [hhome]
      dsimp only
      by_cases h : p = 0 ∧ o = b.offset
      · obtain ⟨rfl, rfl⟩ := h
        simp
      · rw [if_neg h, if_neg fun h' ↦ h ⟨h'.1, h'.2.1.symm⟩]
    refine (ih _ fun b' hb' ↦ hlower b' (List.mem_cons_of_mem _ hb')).trans ?_
    rw [hcell]
    simp only [List.mem_cons, exists_eq_or_imp]
    by_cases hp : p = 0 <;>
      by_cases htail : ∃ b ∈ bits, b.offset = o ∧ b.position channel = i <;>
      simp [hp, htail]

variable {m channel on}

/-- Bytes that hold none of the bits stay as they are. -/
theorem get_switched_of_ne {bits : List ChannelBit} (hlower : ∀ b ∈ bits, b.offset < upperHalf)
    {o : UInt8} (ho : ∀ b ∈ bits, b.offset ≠ o) (page : UInt8) :
    (m.switched channel on bits).get page o = m.get page o := by
  refine eq_of_hasBit fun i ↦ (m.hasBit_switched channel on bits hlower _ o i).trans (if_neg ?_)
  rintro ⟨-, b, hb, hbo, -⟩
  exact ho b hb hbo

theorem eq_of_cells {m m' : ModuleMemory} (hmailbox : m.mailbox = m'.mailbox)
    (h : ∀ p o i, hasBit (m.cell p o) i = hasBit (m'.cell p o) i) : m = m' := by
  obtain ⟨cell, mailbox⟩ := m
  obtain ⟨cell', mailbox'⟩ := m'
  obtain rfl : mailbox = mailbox' := hmailbox
  exact congrArg (ModuleMemory.mk · mailbox) <|
    funext fun p ↦ funext fun o ↦ eq_of_hasBit fun i ↦ h p o i

/-- Bits at different places may be switched in any order. -/
theorem switched_comm {channel' : UInt8} {on' : Bool} {bits bits' : List ChannelBit}
    (hlower : ∀ b ∈ bits, b.offset < upperHalf) (hlower' : ∀ b ∈ bits', b.offset < upperHalf)
    (h : ∀ b ∈ bits, ∀ b' ∈ bits', b.offset = b'.offset →
      b.position channel ≠ b'.position channel') :
    (m.switched channel on bits).switched channel' on' bits' =
      (m.switched channel' on' bits').switched channel on bits := by
  refine eq_of_cells (by simp only [mailbox_switched]) fun p o i ↦ ?_
  rw [hasBit_switched _ _ _ _ hlower', hasBit_switched _ _ _ _ hlower,
    hasBit_switched _ _ _ _ hlower, hasBit_switched _ _ _ _ hlower']
  by_cases hb : p = 0 ∧ ∃ b ∈ bits, b.offset = o ∧ b.position channel = i
  · have hb' : ¬ (p = 0 ∧ ∃ b ∈ bits', b.offset = o ∧ b.position channel' = i) := by
      rintro ⟨-, b', hb', rfl, rfl⟩
      obtain ⟨-, b, hb, hoffset, hposition⟩ := hb
      exact h b hb b' hb' hoffset hposition
    rw [if_neg hb', if_pos hb, if_pos hb]
  · rw [if_neg hb, if_neg hb]

end ModuleMemory

namespace Layout

variable (category : Category) (revision : UInt8)

/-- Lanes are controlled in the lower half. -/
theorem controls_of_lower :
    ∀ b ∈ (Layout.of category revision).controls, b.offset < upperHalf := by
  rcases of_cases category revision with h | h | h | h <;> rw [h] <;> decide

/-- No bit controls two lanes. -/
theorem position_ne_position {b b' : ChannelBit} (hb : b ∈ (Layout.of category revision).controls)
    (hb' : b' ∈ (Layout.of category revision).controls) (hoffset : b.offset = b'.offset)
    {c d : UInt8} (hc : c < (Layout.of category revision).channels)
    (hd : d < (Layout.of category revision).channels) (hne : c ≠ d) :
    b.position c ≠ b'.position d := by
  have hnat : ∀ b ∈ (Layout.of category revision).controls,
      ∀ b' ∈ (Layout.of category revision).controls, b.offset = b'.offset →
        ∀ n < (Layout.of category revision).channels.toNat,
        ∀ n' < (Layout.of category revision).channels.toNat, n ≠ n' →
          b.position (.ofNat n) ≠ b'.position (.ofNat n') := by
    rcases of_cases category revision with h | h | h | h <;> rw [h] <;> decide
  have h := hnat b hb b' hb' hoffset c.toNat hc d.toNat hd (mt UInt8.toNat_inj.mp hne)
  rwa [UInt8.ofNat_toNat, UInt8.ofNat_toNat] at h

end Layout

/-! ## Switching the bits of a lane -/

namespace Segment

/-- A bit lies in the lower half, and what is written there is not lost. -/
structure Obeys (s : Segment) (address : UInt8) (b : ChannelBit) : Prop where
  lower : b.offset < upperHalf
  ne_pageSelect : b.offset ≠ QsfpMap.pageSelect
  kept : s.discards address b.offset = false

theorem Obeys.setDevice {s : Segment} {address address' : UInt8} {b : ChannelBit}
    (h : s.Obeys address b) (d : Option Device) : (s.setDevice address' d).Obeys address b :=
  ⟨h.lower, h.ne_pageSelect, h.kept⟩

/-- No fault keeps some bits of a channel from being switched. -/
def LetsSwitch (s : Segment) (address : UInt8) (mem : ModuleMemory) (channel : UInt8) (on : Bool)
    (bits : List ChannelBit) : Prop :=
  ∀ b ∈ bits, s.AllowsRead address b.offset ∧
    (hasBit (mem.get 0 b.offset) (b.position channel) = on ∨ s.AllowsWrite address b.offset)

variable {s : Segment} {address channel : UInt8} {on : Bool} {mem : ModuleMemory}

/-- A fault that lets one bit be switched lets it be so after others. -/
theorem letsSwitch_cons_iff {b : ChannelBit} (hb : b.offset < upperHalf) {bits : List ChannelBit} :
    s.LetsSwitch address mem channel on (b :: bits) ↔
      (s.AllowsRead address b.offset ∧
        (hasBit (mem.get 0 b.offset) (b.position channel) = on ∨ s.AllowsWrite address b.offset)) ∧
      s.LetsSwitch address (mem.switched channel on [b]) channel on bits := by
  have hsingle : ∀ c ∈ [b], c.offset < upperHalf := by simpa using hb
  have hget (c : ChannelBit) :
      hasBit ((mem.switched channel on [b]).get 0 c.offset) (c.position channel) =
        if b.offset = c.offset ∧ b.position channel = c.position channel then on
        else hasBit (mem.get 0 c.offset) (c.position channel) := by
    refine (mem.hasBit_switched channel on [b] hsingle _ _ _).trans ?_
    have hhome : ModuleMemory.home 0 c.offset = 0 := by simp [ModuleMemory.home]
    simp [hhome, ModuleMemory.get]
  unfold LetsSwitch
  rw [List.forall_mem_cons]
  refine and_congr_right fun hb ↦ forall₂_congr fun c _ ↦ and_congr_right fun _ ↦ ?_
  rw [hget]
  split
  · rename_i h
    rw [← h.1, ← h.2]
    simp [hb.2]
  · rfl

end Segment

namespace Qsfp

section Switching

variable {m : Selected} {n : UInt8} (lane : Lane n) {b b' : Bench} {mem : ModuleMemory}
  (hm : b.segment.device? m.address = some (.memory mem))
include hm

/-- The bits of a lane are switched unless a fault prevents it. -/
theorem setLaneBits_runsTo_iff (on : Bool) {bits : List ChannelBit}
    (hbits : ∀ c ∈ bits, b.segment.Obeys m.address c) :
    (setLaneBits m lane on bits).RunsTo Bench.answer b (.ok ()) b' ↔
      b.segment.LetsSwitch m.address mem lane.channel on bits ∧
        b' = b.withModule m.address (mem.switched lane.channel on bits) := by
  induction bits generalizing b mem with
  | nil =>
    have hself : b.withModule m.address (mem.switched lane.channel on []) = b :=
      Bench.withModule_self hm
    rw [hself]
    refine Procedure.runsTo_pure_iff.trans (and_congr_left fun _ ↦ ?_)
    exact ⟨fun _ ↦ nofun, fun _ ↦ rfl⟩
  | cons c bits ih =>
    obtain ⟨hc, hrest⟩ := List.forall_mem_cons.mp hbits
    have hrest (mem : ModuleMemory) :
        ∀ c ∈ bits, (b.withModule m.address mem).segment.Obeys m.address c :=
      fun c hc ↦ (hrest c hc).setDevice _
    unfold setLaneBits
    dsimp only
    rw [c.change_eq_withBit, Procedure.runsTo_bind_iff, Segment.letsSwitch_cons_iff hc.lower]
    constructor
    · rintro ⟨v, b₁, hmodify, hbits⟩
      obtain ⟨hread, hwrite, rfl, rfl⟩ :=
        (Selected.modify_runsTo_iff rfl hm hc.lower hc.ne_pageSelect hc.kept _).mp hmodify
      obtain ⟨hlets, rfl⟩ := (ih (Bench.device?_withModule _ _ _) (hrest _)).mp hbits
      refine ⟨⟨⟨hread, hwrite.imp_left withBit_eq_self.mp⟩, hlets⟩, ?_⟩
      rw [Bench.withModule_withModule]
      rfl
    · rintro ⟨⟨⟨hread, hwrite⟩, hlets⟩, rfl⟩
      refine ⟨_, _, (Selected.modify_runsTo_iff rfl hm hc.lower hc.ne_pageSelect hc.kept _).mpr
        ⟨hread, hwrite.imp_left withBit_eq_self.mpr, rfl, rfl⟩, ?_⟩
      refine (ih (Bench.device?_withModule _ _ _) (hrest _)).mpr ⟨hlets, ?_⟩
      rw [Bench.withModule_withModule]
      rfl

/-- The bit of a lane is looked at. -/
theorem laneBit_runsTo_iff {bit : ChannelBit} (hlower : bit.offset < upperHalf)
    (hpage : bit.offset ≠ QsfpMap.pageSelect) {v : Bool} :
    (laneBit m bit lane).RunsTo Bench.answer b (.ok v) b' ↔
      b.segment.AllowsRead m.address bit.offset ∧
        v = hasBit (mem.get 0 bit.offset) (bit.position lane.channel) ∧ b' = b := by
  have hmail : bit.offset < packetOffset := UInt8.lt_trans hlower (by decide)
  have hbyte : mem.get mem.currentPage bit.offset = mem.get 0 bit.offset :=
    mem.get_of_lt hlower _ _
  have hbit (byte : UInt8) :
      (byte &&& bit.mask lane.channel != 0) = hasBit byte (bit.position lane.channel) := by
    rw [bit.mask_eq_bitMask]
    rfl
  unfold laneBit
  rw [Procedure.runsTo_bind_iff]
  constructor
  · rintro ⟨byte, b₁, hread, hpure⟩
    obtain ⟨ht, rfl, rfl⟩ := (Selected.lowerByte_runsTo_iff hm hpage hmail).mp hread
    obtain ⟨rfl, rfl⟩ := Procedure.runsTo_pure_iff.mp hpure
    rw [hbit, hbyte]
    exact ⟨ht, rfl, rfl⟩
  · rintro ⟨ht, rfl, rfl⟩
    refine ⟨_, _, (Selected.lowerByte_runsTo_iff hm hpage hmail).mpr ⟨ht, rfl, rfl⟩, ?_⟩
    rw [hbit, hbyte]
    exact .pure _ _

/-- All bits of a lane are looked at. -/
theorem anyLaneBit_runsTo {bits : List ChannelBit} (hlower : ∀ c ∈ bits, c.offset < upperHalf)
    (hpage : ∀ c ∈ bits, c.offset ≠ QsfpMap.pageSelect)
    (hread : ∀ c ∈ bits, b.segment.AllowsRead m.address c.offset) :
    (anyLaneBit m lane bits).RunsTo Bench.answer b
      (.ok (bits.any fun c ↦ hasBit (mem.get 0 c.offset) (c.position lane.channel))) b := by
  induction bits with
  | nil => exact .pure _ _
  | cons c bits ih =>
    rw [List.forall_mem_cons] at hlower hpage hread
    have hfirst := (laneBit_runsTo_iff lane hm hlower.1 hpage.1).mpr ⟨hread.1, rfl, rfl⟩
    exact hfirst.bind ((ih hlower.2 hpage.2 hread.2).bind (.pure _ _))

end Switching

end Qsfp

/-- The lane of a channel is that of the module. -/
theorem Qsfp.eq_of_lane (q : Qsfp) {channel : UInt8} {lane : Lane q.layout.channels}
    (h : q.lane channel = .ok lane) : ∃ hc, lane = ⟨channel, hc⟩ := by
  unfold Qsfp.lane Lane.check at h
  split at h
  · rename_i hc
    exact ⟨hc, (Except.ok.inj h).symm⟩
  · cases h

/-- The cage holds a module that takes what is written to its lane controls. -/
structure Qsfp.Holds (q : Qsfp) (s : Segment) (mem : ModuleMemory) : Prop where
  module : s.device? q.cage.address = some (.memory mem)
  kept : ∀ bit ∈ q.layout.controls, s.discards q.cage.address bit.offset = false

theorem Qsfp.Holds.obeys {q : Qsfp} {s : Segment} {mem : ModuleMemory} (h : q.Holds s mem) :
    ∀ bit ∈ q.layout.controls, s.Obeys q.cage.address bit :=
  fun bit hbit ↦ ⟨Layout.controls_of_lower _ _ bit hbit,
    Layout.controls_of_ne_pageSelect _ _ bit hbit, h.kept bit hbit⟩

/-! ## The controls of a lane -/

/-- What is switched for a lane. -/
inductive LaneControl where
  | transmitter
  | clockRecovery
deriving DecidableEq, Repr

namespace LaneControl

variable (k : LaneControl) (q : Qsfp)

/-- The byte that tells whether the module has the control. -/
def options : LaneControl → UInt8
  | .transmitter => QsfpMap.controlOptions
  | .clockRecovery => QsfpMap.cdrOptions

/-- The bits of the control that a module has, by that byte. -/
def bits (options : UInt8) : List ChannelBit :=
  match k with
  | .transmitter => if hasBit options QsfpMap.txDisableBit then [q.layout.txDisable] else []
  | .clockRecovery =>
    (if hasBit options QsfpMap.txCdrBit then [q.layout.cdrTx] else []) ++
      if hasBit options QsfpMap.rxCdrBit then [q.layout.cdrRx] else []

/-- The bits of a control that is enabled; those of a transmitter disable it. -/
def level (enable : Bool) : Bool :=
  match k with
  | .transmitter => !enable
  | .clockRecovery => enable

/-- Switch the control of a channel. -/
def switch (channel : UInt8) (enable : Bool) : Procedure Unit :=
  match k with
  | .transmitter => q.txControl channel enable
  | .clockRecovery => q.cdrSet channel enable

/-- Look whether the control of a channel is enabled. -/
def look (channel : UInt8) : Procedure Bool :=
  match k with
  | .transmitter => q.txControlStatus channel
  | .clockRecovery => q.cdrStatus channel

theorem mem_controls_of_mem_bits {options : UInt8} {b : ChannelBit} (hb : b ∈ k.bits q options) :
    b ∈ q.layout.controls := by
  unfold Layout.controls
  cases k with
  | transmitter =>
    unfold bits at hb
    grind
  | clockRecovery =>
    unfold bits at hb
    grind

@[simp] theorem level_level (enable : Bool) : k.level (k.level enable) = enable := by
  cases k <;> simp [level]

variable {k q} {b b' : Bench} {mem : ModuleMemory} {channel : UInt8} {enable : Bool}

/-- The module has the control and lets the lane of a channel be switched. -/
structure Lets (k : LaneControl) (q : Qsfp) (s : Segment) (mem : ModuleMemory) (channel : UInt8)
    (enable : Bool) : Prop where
  lane : channel < q.layout.channels
  options : s.AllowsRead q.cage.address k.options
  bits_ne_nil : k.bits q (mem.get mem.currentPage k.options) ≠ []
  letsSwitch : s.LetsSwitch q.cage.address mem channel (k.level enable)
    (k.bits q (mem.get mem.currentPage k.options))

/-- The module after the control of a channel is switched. -/
def after (k : LaneControl) (q : Qsfp) (mem : ModuleMemory) (channel : UInt8) (enable : Bool) :
    ModuleMemory :=
  mem.switched channel (k.level enable) (k.bits q (mem.get mem.currentPage k.options))

/-- What is done in a session to switch the control of a lane. -/
def body (k : LaneControl) (q : Qsfp) (m : Selected) {n : UInt8} (lane : Lane n) (enable : Bool) :
    Procedure Unit := do
  let options ← m.lowerByte k.options
  unless k.bits q options ≠ [] do throw .notSupported
  Qsfp.setLaneBits m lane (k.level enable) (k.bits q options)

/-- What is done after the session. -/
def rest (k : LaneControl) (q : Qsfp) (channel : UInt8) (enable : Bool) : Procedure Unit :=
  match k with
  | .transmitter => do
    settle (if enable then q.txSettle.enable else q.txSettle.disable)
    report .debug "tx control" [("channel", toString channel), ("enable", toString enable)]
  | .clockRecovery => pure ()

theorem switch_eq : k.switch q channel enable = (do
    let lane ← q.lane channel
    q.session fun m ↦ k.body q m lane enable
    k.rest q channel enable) := by
  cases k with
  | transmitter =>
    refine congrArg (liftM (q.lane channel) >>= ·) (funext fun lane ↦ ?_)
    refine congrArg (q.session · >>= _) (funext fun m ↦ ?_)
    refine congrArg (m.lowerByte QsfpMap.controlOptions >>= ·) (funext fun options ↦ ?_)
    unfold bits
    cases hasBit options QsfpMap.txDisableBit with
    | false => rfl
    | true =>
      cases enable
      · rfl
      · rfl
  | clockRecovery =>
    refine congrArg (liftM (q.lane channel) >>= ·) (funext fun lane ↦ ?_)
    refine (congrArg q.session (funext fun m ↦ ?_)).trans bind_pure_unit.symm
    refine Eq.trans (bind_assoc _ _ _) ?_
    refine congrArg (m.lowerByte QsfpMap.cdrOptions >>= ·) (funext fun options ↦ ?_)
    unfold bits
    cases hasBit options QsfpMap.txCdrBit <;> cases hasBit options QsfpMap.rxCdrBit <;> rfl

theorem rest_runsTo (b : Bench) :
    (k.rest q channel enable).RunsTo Bench.answer b (.ok ()) b := by
  cases k with
  | transmitter => exact (settle_runsTo _ b).bind (.lift _ _)
  | clockRecovery => exact .pure _ _

theorem options_ne_pageSelect (k : LaneControl) : k.options ≠ QsfpMap.pageSelect := by
  cases k <;> decide

theorem options_lt (k : LaneControl) : k.options < packetOffset := by
  cases k <;> decide

theorem body_runsTo_iff {m : Selected} (haddress : m.address = q.cage.address)
    (hm : b.segment.device? m.address = some (.memory mem)) (hc : channel < q.layout.channels)
    (hobeys : ∀ c ∈ q.layout.controls, b.segment.Obeys m.address c) :
    (k.body q m ⟨channel, hc⟩ enable).RunsTo Bench.answer b (.ok ()) b' ↔
      k.Lets q b.segment mem channel enable ∧
        b' = b.withModule m.address (k.after q mem channel enable) := by
  have hbits {options : UInt8} : ∀ c ∈ k.bits q options, b.segment.Obeys m.address c :=
    fun c hc ↦ hobeys c (k.mem_controls_of_mem_bits q hc)
  unfold body
  rw [Procedure.runsTo_bind_iff]
  constructor
  · rintro ⟨options, b₁, hoptions, hrest⟩
    obtain ⟨hread, rfl, rfl⟩ :=
      (Selected.lowerByte_runsTo_iff hm k.options_ne_pageSelect k.options_lt).mp hoptions
    obtain ⟨hne, hset⟩ := Procedure.runsTo_require_iff.mp hrest
    obtain ⟨hlets, rfl⟩ := (Qsfp.setLaneBits_runsTo_iff _ hm _ hbits).mp hset
    rw [haddress] at hread hlets
    exact ⟨⟨hc, hread, hne, hlets⟩, rfl⟩
  · rintro ⟨⟨-, hread, hne, hlets⟩, rfl⟩
    rw [← haddress] at hread hlets
    refine ⟨_, b, (Selected.lowerByte_runsTo_iff hm k.options_ne_pageSelect k.options_lt).mpr
      ⟨hread, rfl, rfl⟩, Procedure.runsTo_require_iff.mpr ⟨hne, ?_⟩⟩
    exact (Qsfp.setLaneBits_runsTo_iff _ hm _ hbits).mpr ⟨hlets, rfl⟩

/-- The control of a channel is switched if the module is there, has it and lets it be. -/
theorem switch_runsTo_iff (h : q.Holds b.segment mem) :
    (k.switch q channel enable).RunsTo Bench.answer b (.ok ()) b' ↔
      q.eeprom.Opens b ∧ k.Lets q b.segment mem channel enable ∧
        b' = (q.cage.selector.applied b).withModule q.cage.address
          (k.after q mem channel enable) := by
  have hm := h.module
  have hobeys := h.obeys
  have happlied : (q.cage.selector.applied b).segment = b.segment := Selector.segment_applied _ b
  have hbody (hc : channel < q.layout.channels) (b' : Bench) :
      (k.body q q.eeprom.selected ⟨channel, hc⟩ enable).RunsTo Bench.answer
          (q.cage.selector.applied b) (.ok ()) b' ↔
        k.Lets q b.segment mem channel enable ∧
          b' = (q.cage.selector.applied b).withModule q.cage.address
            (k.after q mem channel enable) := by
    rw [← happlied] at hm hobeys ⊢
    exact body_runsTo_iff rfl hm hc hobeys
  rw [switch_eq, Procedure.runsTo_bind_iff]
  constructor
  · rintro ⟨lane, b₁, hcheck, hvisit⟩
    obtain ⟨hlane, rfl⟩ := Procedure.runsTo_liftExcept_iff.mp hcheck
    obtain ⟨hc, rfl⟩ := q.eq_of_lane hlane
    obtain ⟨_, b₂, hsession, hrest⟩ := Procedure.runsTo_bind_iff.mp hvisit
    obtain ⟨hopens, hswitch⟩ := Eeprom.session_runsTo_iff.mp hsession
    obtain ⟨hlets, rfl⟩ := (hbody hc b₂).mp hswitch
    exact ⟨hopens, hlets, hrest.final.symm.trans (rest_runsTo _).final⟩
  · rintro ⟨hopens, hlets, rfl⟩
    have hlane : q.lane channel = .ok ⟨channel, hlets.lane⟩ := dif_pos hlets.lane
    refine ⟨_, _, Procedure.runsTo_liftExcept_iff.mpr ⟨hlane, rfl⟩, ?_⟩
    exact (Eeprom.session_runsTo_iff.mpr ⟨hopens, (hbody hlets.lane _).mpr ⟨hlets, rfl⟩⟩).bind
      (rest_runsTo _)

/-! ### After a switch -/

section After

variable (q) (mem) (channel) (enable)

theorem lower_of_mem_bits {options : UInt8} : ∀ b ∈ k.bits q options, b.offset < upperHalf :=
  fun b hb ↦ Layout.controls_of_lower _ _ b (k.mem_controls_of_mem_bits q hb)

theorem ne_pageSelect_of_mem_bits {options : UInt8} :
    ∀ b ∈ k.bits q options, b.offset ≠ QsfpMap.pageSelect :=
  fun b hb ↦ Layout.controls_of_ne_pageSelect _ _ b (k.mem_controls_of_mem_bits q hb)

/-- Switching a control leaves the page as it is. -/
theorem currentPage_after : (k.after q mem channel enable).currentPage = mem.currentPage :=
  ModuleMemory.get_switched_of_ne (lower_of_mem_bits q) (ne_pageSelect_of_mem_bits q) 0

/-- Switching a control leaves what tells of the controls as it is. -/
theorem options_after (k' : LaneControl) :
    (k.after q mem channel enable).get (k.after q mem channel enable).currentPage k'.options =
      mem.get mem.currentPage k'.options := by
  rw [currentPage_after]
  refine ModuleMemory.get_switched_of_ne (lower_of_mem_bits q) (fun b hb ho ↦ ?_) _
  have hlower : b.offset < upperHalf := lower_of_mem_bits q b hb
  rw [ho] at hlower
  cases k' <;> exact absurd hlower (by decide)

variable {q}

/-- The bits of the control are at its level. -/
theorem hasBit_after_self {b : ChannelBit}
    (hb : b ∈ k.bits q (mem.get mem.currentPage k.options)) :
    hasBit ((k.after q mem channel enable).get 0 b.offset) (b.position channel) =
      k.level enable := by
  refine (mem.hasBit_switched channel (k.level enable) _ (lower_of_mem_bits q) _ _ _).trans
    (if_pos ⟨by simp [ModuleMemory.home], b, hb, rfl, rfl⟩)

variable {channel}

/-- Other lanes stay as they are. -/
theorem hasBit_after_of_ne {d : UInt8} (hc : channel < q.layout.channels)
    (hd : d < q.layout.channels) (hne : channel ≠ d) {b : ChannelBit}
    (hb : b ∈ q.layout.controls) :
    hasBit ((k.after q mem channel enable).get 0 b.offset) (b.position d) =
      hasBit (mem.get 0 b.offset) (b.position d) := by
  refine (mem.hasBit_switched channel (k.level enable) _ (lower_of_mem_bits q) _ _ _).trans
    (if_neg ?_)
  rintro ⟨-, b', hb', hoffset, hposition⟩
  exact Layout.position_ne_position _ _ (k.mem_controls_of_mem_bits q hb') hb hoffset hc hd hne
    hposition

end After

/-! ### Looking at a control -/

/-- No fault keeps the control from being looked at, and the module has it. -/
structure Shows (k : LaneControl) (q : Qsfp) (s : Segment) (mem : ModuleMemory) : Prop where
  options : s.AllowsRead q.cage.address k.options
  bits_ne_nil : k.bits q (mem.get mem.currentPage k.options) ≠ []
  bits : ∀ b ∈ k.bits q (mem.get mem.currentPage k.options), s.AllowsRead q.cage.address b.offset

theorem Lets.shows {s : Segment} (h : k.Lets q s mem channel enable) : k.Shows q s mem :=
  ⟨h.options, h.bits_ne_nil, fun b hb ↦ (h.letsSwitch b hb).1⟩

/-- Whether the control of a channel is enabled, by its bits. -/
def enabled (k : LaneControl) (q : Qsfp) (mem : ModuleMemory) (channel : UInt8) : Bool :=
  k.level ((k.bits q (mem.get mem.currentPage k.options)).any fun b ↦
    hasBit (mem.get 0 b.offset) (b.position channel))

theorem bits_transmitter {options : UInt8} (h : transmitter.bits q options ≠ []) :
    transmitter.bits q options = [q.layout.txDisable] := by
  dsimp only [bits] at h ⊢
  split
  · rfl
  · rename_i hoption
    exact absurd (if_neg hoption) h

/-- The clock recovery that a module has is found by its options. -/
theorem cdrBits_runsTo {m : Selected} {options : UInt8}
    (h : (m.lowerByte QsfpMap.cdrOptions).RunsTo Bench.answer b (.ok options) b)
    (hne : clockRecovery.bits q options ≠ []) :
    (q.cdrBits m).RunsTo Bench.answer b (.ok (clockRecovery.bits q options)) b := by
  refine h.bind ?_
  dsimp only [bits] at hne ⊢
  cases htx : hasBit options QsfpMap.txCdrBit <;> cases hrx : hasBit options QsfpMap.rxCdrBit
  · rw [htx, hrx] at hne
    exact absurd rfl hne
  · exact .pure _ _
  · exact .pure _ _
  · exact .pure _ _

theorem look_runsTo (hm : b.segment.device? q.cage.address = some (.memory mem))
    (hopens : q.eeprom.Opens b) (hshows : k.Shows q b.segment mem)
    (hc : channel < q.layout.channels) :
    (k.look q channel).RunsTo Bench.answer b (.ok (k.enabled q mem channel))
      (q.cage.selector.applied b) := by
  have hlane : q.lane channel = .ok ⟨channel, hc⟩ := dif_pos hc
  have happlied : (q.cage.selector.applied b).segment = b.segment := Selector.segment_applied _ b
  obtain ⟨hoptions, hne, hbits⟩ := hshows
  rw [← happlied] at hm hoptions hbits
  cases k with
  | transmitter =>
    have hbit := bits_transmitter hne
    have hread := hbits q.layout.txDisable (hbit ▸ List.mem_singleton_self _)
    have hlook := (Qsfp.laneBit_runsTo_iff (m := q.eeprom.selected) ⟨channel, hc⟩ hm
      (Layout.controls_of_lower _ _ _ (.head _))
      (Layout.controls_of_ne_pageSelect _ _ _ (.head _))).mpr ⟨hread, rfl, rfl⟩
    have henabled : transmitter.enabled q mem channel =
        !hasBit (mem.get 0 q.layout.txDisable.offset) (q.layout.txDisable.position channel) := by
      unfold enabled
      rw [hbit]
      simp [level]
    rw [henabled]
    refine Procedure.RunsTo.bind (Procedure.runsTo_liftExcept_iff.mpr ⟨hlane, rfl⟩) ?_
    exact (Eeprom.session_runsTo_iff.mpr ⟨hopens, hlook⟩).bind (.pure _ _)
  | clockRecovery =>
    have hcontrols := (Selected.lowerByte_runsTo_iff (m := q.eeprom.selected) hm
      clockRecovery.options_ne_pageSelect clockRecovery.options_lt).mpr ⟨hoptions, rfl, rfl⟩
    have hlook := Qsfp.anyLaneBit_runsTo (m := q.eeprom.selected) ⟨channel, hc⟩ hm
      (lower_of_mem_bits q) (ne_pageSelect_of_mem_bits q) hbits
    refine Procedure.RunsTo.bind (Procedure.runsTo_liftExcept_iff.mpr ⟨hlane, rfl⟩) ?_
    exact Eeprom.session_runsTo_iff.mpr ⟨hopens, (cdrBits_runsTo hcontrols hne).bind hlook⟩

end LaneControl

/-! ## Conditions of a channel -/

/-- A flag is looked for if it is wanted. -/
theorem Sfp.flagIf_runsTo_iff {flags flag r : ChannelStatus} {p : Procedure Bool} {b b' : Bench} :
    (flagIf flags flag p).RunsTo Bench.answer b (.ok r) b' ↔
      if flags.contains flag then
        ∃ v, p.RunsTo Bench.answer b (.ok v) b' ∧ r = if v then flag else .empty
      else r = .empty ∧ b' = b := by
  unfold flagIf
  dsimp only
  split
  · rw [Procedure.runsTo_bind_iff]
    constructor
    · rintro ⟨v, b₁, hp, hrest⟩
      cases v <;> obtain ⟨rfl, rfl⟩ := Procedure.runsTo_pure_iff.mp hrest <;> exact ⟨_, hp, rfl⟩
    · rintro ⟨v, hp, rfl⟩
      cases v <;> exact ⟨_, b', hp, .pure _ _⟩
  · exact Procedure.runsTo_pure_iff

theorem Sfp.flagIf_cases {flags flag r : ChannelStatus} {p : Procedure Bool} {b b' : Bench}
    (h : (flagIf flags flag p).RunsTo Bench.answer b (.ok r) b') : r = flag ∨ r = .empty := by
  rw [flagIf_runsTo_iff] at h
  split at h
  · obtain ⟨v, -, rfl⟩ := h
    cases v
    · exact .inr rfl
    · exact .inl rfl
  · exact .inr h.1

/-- The other conditions of a channel do not tell whether it is disabled. -/
theorem ChannelStatus.contains_txDisable (disabled : Bool) {fault tx rx : ChannelStatus}
    (hfault : fault = txFault ∨ fault = .empty) (htx : tx = txLoss ∨ tx = .empty)
    (hrx : rx = rxLoss ∨ rx = .empty) :
    ((if disabled then txDisable else .empty) ||| fault ||| tx ||| rx).contains txDisable =
      disabled := by
  rcases hfault with rfl | rfl <;> rcases htx with rfl | rfl <;> rcases hrx with rfl | rfl <;>
    cases disabled <;> rfl

namespace Qsfp

variable {q : Qsfp} {b b' : Bench} {mem : ModuleMemory} {channel : UInt8}

/-- A channel is reported as disabled if the bit of its transmitter is set. -/
theorem contains_channelStatus (hm : b.segment.device? q.cage.address = some (.memory mem))
    {flags r : ChannelStatus} (hflags : flags.contains ChannelStatus.txDisable = true)
    (h : (q.channelStatus channel flags).RunsTo Bench.answer b (.ok r) b') :
    r.contains ChannelStatus.txDisable =
      hasBit (mem.get 0 q.layout.txDisable.offset) (q.layout.txDisable.position channel) := by
  obtain ⟨lane, b₁, hcheck, hvisit⟩ := Procedure.runsTo_bind_iff.mp h
  obtain ⟨hlane, rfl⟩ := Procedure.runsTo_liftExcept_iff.mp hcheck
  obtain ⟨hc, rfl⟩ := q.eq_of_lane hlane
  obtain ⟨-, hbody⟩ := Eeprom.session_runsTo_iff.mp hvisit
  obtain ⟨disabled, b₂, hdisabled, hbody⟩ := Procedure.runsTo_bind_iff.mp hbody
  obtain ⟨fault, b₃, hfault, hbody⟩ := Procedure.runsTo_bind_iff.mp hbody
  obtain ⟨txLoss, b₄, htxLoss, hbody⟩ := Procedure.runsTo_bind_iff.mp hbody
  obtain ⟨rxLoss, b₅, hrxLoss, hbody⟩ := Procedure.runsTo_bind_iff.mp hbody
  obtain ⟨rfl, -⟩ := Procedure.runsTo_pure_iff.mp hbody
  rw [Sfp.flagIf_runsTo_iff, if_pos hflags] at hdisabled
  obtain ⟨v, hbit, rfl⟩ := hdisabled
  have happlied : (q.cage.selector.applied b₁).segment = b₁.segment := Selector.segment_applied _ _
  rw [← happlied] at hm
  obtain ⟨-, hv, -⟩ := (laneBit_runsTo_iff (m := q.eeprom.selected) ⟨channel, hc⟩ hm
    (Layout.controls_of_lower _ _ _ (.head _))
    (Layout.controls_of_ne_pageSelect _ _ _ (.head _))).mp hbit
  exact (ChannelStatus.contains_txDisable v (Sfp.flagIf_cases hfault) (Sfp.flagIf_cases htxLoss)
    (Sfp.flagIf_cases hrxLoss)).trans hv

/-- To look for that alone takes a look at the bit. -/
theorem channelStatus_runsTo (hm : b.segment.device? q.cage.address = some (.memory mem))
    (hopens : q.eeprom.Opens b) (hc : channel < q.layout.channels)
    (hread : b.segment.AllowsRead q.cage.address q.layout.txDisable.offset) {disabled : Bool}
    (hdisabled : disabled =
      hasBit (mem.get 0 q.layout.txDisable.offset) (q.layout.txDisable.position channel)) :
    (q.channelStatus channel ChannelStatus.txDisable).RunsTo Bench.answer b
      (.ok (if disabled then ChannelStatus.txDisable else .empty))
      (q.cage.selector.applied b) := by
  have hlane : q.lane channel = .ok ⟨channel, hc⟩ := dif_pos hc
  have happlied : (q.cage.selector.applied b).segment = b.segment := Selector.segment_applied _ b
  rw [← happlied] at hm hread
  have hlook := (laneBit_runsTo_iff (m := q.eeprom.selected) ⟨channel, hc⟩ hm
    (Layout.controls_of_lower _ _ _ (.head _))
    (Layout.controls_of_ne_pageSelect _ _ _ (.head _))).mpr ⟨hread, hdisabled, rfl⟩
  have hfirst : (Sfp.flagIf ChannelStatus.txDisable ChannelStatus.txDisable
      (laneBit q.eeprom.selected q.layout.txDisable ⟨channel, hc⟩)).RunsTo Bench.answer
        (q.cage.selector.applied b) (.ok (if disabled then ChannelStatus.txDisable else .empty))
        (q.cage.selector.applied b) :=
    Sfp.flagIf_runsTo_iff.mpr ⟨disabled, hlook, rfl⟩
  have hother {flag : ChannelStatus} {p : Procedure Bool}
      (hflag : ChannelStatus.txDisable.contains flag = false) :
      (Sfp.flagIf ChannelStatus.txDisable flag p).RunsTo Bench.answer (q.cage.selector.applied b)
        (.ok .empty) (q.cage.selector.applied b) := by
    rw [Sfp.flagIf_runsTo_iff, hflag]
    exact ⟨rfl, rfl⟩
  have hresult : (if disabled then ChannelStatus.txDisable else .empty) =
      (if disabled then ChannelStatus.txDisable else .empty) ||| .empty ||| .empty ||| .empty := by
    cases disabled <;> rfl
  rw [hresult]
  refine Procedure.RunsTo.bind (Procedure.runsTo_liftExcept_iff.mpr ⟨hlane, rfl⟩) <|
    Eeprom.session_runsTo_iff.mpr ⟨hopens, ?_⟩
  exact hfirst.bind <| (hother rfl).bind <| (hother rfl).bind <| (hother rfl).bind (.pure _ _)

end Qsfp

/-! ## Presence -/

/-- Where the module is selected through the group of its presence line, that line is set in the
level that selects it. -/
def Cage.SelectsPresent (c : Cage) : Prop :=
  ∀ t ∈ c.selector.targets, t.group.id = c.presence.group.id → t.value &&& c.presence.word ≠ 0

/-- A line that is set stays so if it is set in the level that is written to its group. -/
theorem Line.value_read_withTarget {l : Line} {t? : Option SelectTarget}
    (ht : ∀ t ∈ t?, t.group.id = l.group.id → t.value &&& l.word ≠ 0) {b : Bench}
    (h : l.read.run.value Bench.answer b = .ok true) :
    l.read.run.value Bench.answer (b.withTarget t?) = .ok true := by
  cases t? with
  | none => exact h
  | some t =>
    rw [value_read_eq_ok] at h ⊢
    obtain ⟨⟨hgroup, hbit⟩, hlevel⟩ := h
    refine ⟨⟨(b.works_withTarget _ _).mpr hgroup, hbit⟩, ?_⟩
    by_cases hid : l.group.id = t.group.id
    · have hpin : ((b.withTarget (some t)).pin l.group.id).level = t.value := by
        simp [Bench.withTarget, Bench.withLevel, Bench.setPin, hid]
      rw [hpin]
      exact bne_iff_ne.mpr (ht t rfl hid.symm)
    · have hpin : (b.withTarget (some t)).pin l.group.id = b.pin l.group.id := if_neg hid
      rw [hpin]
      exact hlevel

/-- A session opens again after one. -/
theorem Eeprom.Opens.applied {e : Eeprom} {c : Cage} {b : Bench} (h : e.Opens b)
    (hc : c.SelectsPresent) (hselector : e.selector = c.selector)
    (hpresence : e.presence = some c.presence) : e.Opens (e.selector.applied b) := by
  constructor
  · intro l hl
    obtain rfl : c.presence = l := Option.some.inj (hpresence.symm.trans hl)
    rw [hselector]
    refine Line.value_read_withTarget (fun t ht ↦ ?_) (Line.value_read_withTarget (fun t ht ↦ ?_)
      (h.present _ hpresence))
    · exact hc t (List.mem_append_right _ (Option.mem_toList.mpr ht))
    · exact hc t (List.mem_append_left _ (Option.mem_toList.mpr ht))
  · intro t ht
    rw [Selector.applied, Bench.works_withTarget, Bench.works_withTarget]
    exact h.groups t ht

/-- Whether a session opens does not depend on the module. -/
theorem Eeprom.Opens.withModule {e : Eeprom} {b : Bench} (h : e.Opens b) (address : UInt8)
    (mem : ModuleMemory) : e.Opens (b.withModule address mem) := by
  refine ⟨fun l hl ↦ ?_, h.groups⟩
  have hread := h.present l hl
  rw [Line.value_read_eq_ok] at hread ⊢
  exact hread

theorem Selector.applied_withModule (s : Selector) (b : Bench) (address : UInt8)
    (mem : ModuleMemory) :
    s.applied (b.withModule address mem) = (s.applied b).withModule address mem := by
  obtain ⟨mux, module⟩ := s
  cases mux <;> cases module <;> rfl

/-- Selecting a module twice is selecting it. -/
theorem Selector.applied_applied (s : Selector) (b : Bench) :
    s.applied (s.applied b) = s.applied b := by
  obtain ⟨mux, module⟩ := s
  cases mux <;> cases module <;> refine congrArg (Bench.mk b.segment) (funext fun id ↦ ?_) <;>
    simp only [applied, Bench.withTarget, Bench.withLevel, Bench.setPin] <;> grind

/-! ## What comes of a switch -/

namespace LaneControl

variable {k k' : LaneControl} {q : Qsfp} {mem : ModuleMemory} {c d : UInt8} {enable enable' : Bool}

theorem enabled_after_self (hne : k.bits q (mem.get mem.currentPage k.options) ≠ []) :
    k.enabled q (k.after q mem c enable) c = enable := by
  have hany : (k.bits q (mem.get mem.currentPage k.options)).any (fun bit ↦
      hasBit ((k.after q mem c enable).get 0 bit.offset) (bit.position c)) = k.level enable := by
    obtain ⟨bit, hbit⟩ := List.exists_mem_of_ne_nil _ hne
    cases hlevel : k.level enable with
    | true =>
      exact List.any_eq_true.mpr ⟨bit, hbit, (hasBit_after_self mem c enable hbit).trans hlevel⟩
    | false =>
      refine List.any_eq_false.mpr fun bit hbit ↦ ?_
      rw [hasBit_after_self mem c enable hbit, hlevel]
      exact Bool.false_ne_true
  unfold enabled
  rw [options_after, hany, level_level]

theorem enabled_after_of_ne (hc : c < q.layout.channels) (hd : d < q.layout.channels)
    (hne : c ≠ d) : k.enabled q (k.after q mem c enable) d = k.enabled q mem d := by
  unfold enabled
  rw [options_after]
  refine congrArg k.level (Bool.eq_iff_iff.mpr ?_)
  rw [List.any_eq_true, List.any_eq_true]
  refine exists_congr fun bit ↦ and_congr_right fun hbit ↦ ?_
  rw [hasBit_after_of_ne mem enable hc hd hne (k.mem_controls_of_mem_bits q hbit)]

/-- Switching another lane takes nothing from a control. -/
theorem Shows.after {s : Segment} (h : k.Shows q s mem) :
    k.Shows q s (k'.after q mem c enable) := by
  obtain ⟨hoptions, hne, hbits⟩ := h
  rw [← options_after q mem c enable (k := k')] at hne hbits
  exact ⟨hoptions, hne, hbits⟩

/-- Switching another lane neither keeps a control from being switched nor lets it be. -/
theorem lets_after_iff {s : Segment} (hc : c < q.layout.channels) (hne : c ≠ d) :
    k'.Lets q s (k.after q mem c enable) d enable' ↔ k'.Lets q s mem d enable' := by
  have hbit (hd : d < q.layout.channels) {bit : ChannelBit}
      (hbit : bit ∈ k'.bits q (mem.get mem.currentPage k'.options)) :=
    hasBit_after_of_ne mem enable (k := k) hc hd hne (k'.mem_controls_of_mem_bits q hbit)
  constructor
  · rintro ⟨hlane, hoptions, hbits, hlets⟩
    rw [options_after] at hbits hlets
    refine ⟨hlane, hoptions, hbits, fun bit hmem ↦ ?_⟩
    rw [← hbit hlane hmem]
    exact hlets bit hmem
  · rintro ⟨hlane, hoptions, hbits, hlets⟩
    refine ⟨hlane, hoptions, ?_, ?_⟩
    · rw [options_after]
      exact hbits
    · rw [options_after]
      intro bit hmem
      rw [hbit hlane hmem]
      exact hlets bit hmem

/-- What a module has is found the same after a switch. -/
theorem after_after (k k' : LaneControl) (q : Qsfp) (mem : ModuleMemory) (c d : UInt8)
    (enable enable' : Bool) :
    k'.after q (k.after q mem c enable) d enable' =
      (k.after q mem c enable).switched d (k'.level enable')
        (k'.bits q (mem.get mem.currentPage k'.options)) := by
  rw [← options_after q mem c enable (k := k)]
  rfl

/-- Controls of different lanes may be switched in any order. -/
theorem after_comm (hc : c < q.layout.channels) (hd : d < q.layout.channels) (hne : c ≠ d) :
    k'.after q (k.after q mem c enable) d enable' =
      k.after q (k'.after q mem d enable') c enable := by
  rw [after_after, after_after]
  refine ModuleMemory.switched_comm (lower_of_mem_bits q) (lower_of_mem_bits q)
    fun bit hbit bit' hbit' hoffset ↦ ?_
  exact Layout.position_ne_position _ _ (k.mem_controls_of_mem_bits q hbit)
    (k'.mem_controls_of_mem_bits q hbit') hoffset hc hd hne

/-! ### On a bench -/

section Switched

variable {b b₁ b₂ : Bench}

/-- The bench after the control of a channel is switched. -/
def bench (k : LaneControl) (q : Qsfp) (b : Bench) (mem : ModuleMemory) (c : UInt8)
    (enable : Bool) : Bench :=
  (q.cage.selector.applied b).withModule q.cage.address (k.after q mem c enable)

theorem segment_bench : (k.bench q b mem c enable).segment =
    b.segment.setDevice q.cage.address (some (.memory (k.after q mem c enable))) := by
  unfold bench
  rw [← Selector.segment_applied q.cage.selector b]
  rfl

theorem holds_bench (h : q.Holds b.segment mem) :
    q.Holds (k.bench q b mem c enable).segment (k.after q mem c enable) := by
  rw [segment_bench]
  exact ⟨if_pos rfl, h.kept⟩

theorem opens_bench (hq : q.cage.SelectsPresent) (h : q.eeprom.Opens b) :
    q.eeprom.Opens (k.bench q b mem c enable) :=
  (h.applied hq rfl rfl).withModule _ _

/-- The same bench comes of two switches in either order. -/
theorem bench_bench : k'.bench q (k.bench q b mem c enable) (k.after q mem c enable) d enable' =
    (q.cage.selector.applied b).withModule q.cage.address
      (k'.after q (k.after q mem c enable) d enable') := by
  unfold bench
  rw [Selector.applied_withModule, Selector.applied_applied, Bench.withModule_withModule]

theorem shows_bench (h : k.Shows q b.segment mem) :
    k.Shows q (k'.bench q b mem c enable).segment (k'.after q mem c enable) := by
  rw [segment_bench]
  exact ⟨h.options, h.after.bits_ne_nil, h.after.bits⟩

theorem lets_bench_iff (hc : c < q.layout.channels) (hne : c ≠ d) :
    k'.Lets q (k.bench q b mem c enable).segment (k.after q mem c enable) d enable' ↔
      k'.Lets q b.segment mem d enable' := by
  rw [← lets_after_iff (s := b.segment) hc hne, segment_bench]
  exact ⟨fun h ↦ ⟨h.lane, h.options, h.bits_ne_nil, h.letsSwitch⟩,
    fun h ↦ ⟨h.lane, h.options, h.bits_ne_nil, h.letsSwitch⟩⟩

/-- A channel past the lanes is refused. -/
theorem look_eq_throw (hd : ¬ d < q.layout.channels) : ∃ e, k.look q d = throw e := by
  have hlane : ∃ e, q.lane d = .error e := ⟨_, dif_neg hd⟩
  obtain ⟨e, hlane⟩ := hlane
  refine ⟨e, ?_⟩
  cases k <;>
  · unfold look Qsfp.txControlStatus Qsfp.cdrStatus
    rw [hlane]
    rfl

section Effects

variable (hq : q.cage.SelectsPresent) (h : q.Holds b.segment mem)
  (hs : (k.switch q c enable).RunsTo Bench.answer b (.ok ()) b₁)
include hq h hs

/-- A control that is switched is found so. -/
theorem value_look_self : (k.look q c).run.value Bench.answer b₁ = .ok enable := by
  obtain ⟨hopens, hlets, rfl⟩ := (switch_runsTo_iff h).mp hs
  have hshows : k.Shows q (k.bench q b mem c enable).segment (k.after q mem c enable) :=
    shows_bench hlets.shows
  have hlook := look_runsTo (holds_bench h).module (opens_bench hq hopens) hshows hlets.lane
  rw [enabled_after_self hlets.bits_ne_nil] at hlook
  exact hlook.value

/-- A control that is switched is found as before for other channels. -/
theorem value_look_of_ne (hne : c ≠ d) :
    (k.look q d).run.value Bench.answer b₁ = (k.look q d).run.value Bench.answer b := by
  by_cases hd : d < q.layout.channels
  · obtain ⟨hopens, hlets, rfl⟩ := (switch_runsTo_iff h).mp hs
    have hshows : k.Shows q (k.bench q b mem c enable).segment (k.after q mem c enable) :=
      shows_bench hlets.shows
    have hlook := look_runsTo (holds_bench h).module (opens_bench hq hopens) hshows hd
    rw [enabled_after_of_ne hlets.lane hd hne] at hlook
    exact hlook.value.trans (look_runsTo h.module hopens hlets.shows hd).value.symm
  · obtain ⟨e, he⟩ := look_eq_throw (k := k) hd
    rw [he]
    rfl

/-- Controls of two channels may be switched in either order. -/
theorem switch_comm (hs' : (k'.switch q d enable').RunsTo Bench.answer b₁ (.ok ()) b₂)
    (hne : c ≠ d) :
    ∃ b₁', (k'.switch q d enable').RunsTo Bench.answer b (.ok ()) b₁' ∧
      (k.switch q c enable).RunsTo Bench.answer b₁' (.ok ()) b₂ := by
  obtain ⟨hopens, hlets, rfl⟩ := (switch_runsTo_iff h).mp hs
  obtain ⟨-, hlets', rfl⟩ := (switch_runsTo_iff (holds_bench h)).mp hs'
  have hlets' : k'.Lets q b.segment mem d enable' := (lets_bench_iff hlets.lane hne).mp hlets'
  refine ⟨k'.bench q b mem d enable', (switch_runsTo_iff h).mpr ⟨hopens, hlets', rfl⟩, ?_⟩
  refine (switch_runsTo_iff (holds_bench h)).mpr ⟨opens_bench hq hopens, ?_, ?_⟩
  · exact (lets_bench_iff hlets'.lane hne.symm).mpr hlets
  · change k'.bench q (k.bench q b mem c enable) (k.after q mem c enable) d enable' =
      k.bench q (k'.bench q b mem d enable') (k'.after q mem d enable') c enable
    rw [bench_bench, bench_bench, after_comm hlets.lane hlets'.lane hne]

end Effects

end Switched

end LaneControl

end Transceiver
