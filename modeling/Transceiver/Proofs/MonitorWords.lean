import Transceiver.Proofs.StatusFlags

/-!
# Flags and the words of monitors

Of the flags of a module a QSFP cage reads other bytes than those of the words that its temperature
and its supply voltage are read from, whatever the layout, but for one: from revision `0x30` the
temperature lies where the high alarms of the bias are read as well.  Main statement: modules that
differ in these words alone are reported alike, up to the alarms of the bias on such a module.
-/

namespace Transceiver

/-! ## Benches that differ in some bytes -/

/-- Two memories are the same but for bytes of page zero. -/
structure ModuleMemory.AlikeBut (W : UInt8 → Prop) (m m' : ModuleMemory) : Prop where
  mailbox : m'.mailbox = m.mailbox
  cell : ∀ page offset, (page = 0 → ¬ W offset) → m'.cell page offset = m.cell page offset

namespace ModuleMemory.AlikeBut

variable {W : UInt8 → Prop} {m m' : ModuleMemory} (h : m.AlikeBut W m') {offset : UInt8}
include h

theorem get (ho : ¬ W offset) (page : UInt8) : m'.get page offset = m.get page offset :=
  h.cell _ _ fun _ ↦ ho

theorem currentPage (hpage : ¬ W QsfpMap.pageSelect) : m'.currentPage = m.currentPage :=
  h.get hpage 0

theorem fetch (ho : ¬ W offset) (page : UInt8) : m'.fetch page offset = m.fetch page offset := by
  unfold ModuleMemory.fetch
  rw [h.mailbox, h.get ho]

theorem read_one (hpage : ¬ W QsfpMap.pageSelect) (ho : ¬ W offset) :
    m'.read offset 1 = m.read offset 1 := by
  unfold ModuleMemory.read
  refine congrArg Vector.ofFn (funext fun i ↦ ?_)
  have hi : offset.toNat + i = offset.toNat := by omega
  rw [hi, UInt8.ofNat_toNat, h.currentPage hpage, h.fetch ho]

theorem afterRead (length : Nat) :
    (m.afterRead offset length).AlikeBut W (m'.afterRead offset length) := by
  unfold ModuleMemory.afterRead
  split
  · exact ⟨congrArg (Option.map _) h.mailbox, h.cell⟩
  · exact h

omit h in
theorem refl (m : ModuleMemory) : m.AlikeBut W m := ⟨rfl, fun _ _ _ ↦ rfl⟩

theorem set (ho : W offset) (value value' : UInt8) :
    (m.set 0 offset value).AlikeBut W (m'.set 0 offset value') where
  mailbox := h.mailbox
  cell p o hpo := by
    have hnot : ¬ (p = home 0 offset ∧ o = offset) := fun ⟨hp, heq⟩ ↦
      hpo (hp.trans (ite_self 0)) (heq ▸ ho)
    simp only [ModuleMemory.set, if_neg hnot]
    exact h.cell p o hpo

/-- Whatever is put in the bytes, memories are the same but for them. -/
theorem fill {data data' : List UInt8} (hlength : data.length = data'.length) {offset : Nat}
    (hdata : ∀ i < data.length, W (.ofNat (offset + i))) :
    (m.fill 0 offset data).AlikeBut W (m'.fill 0 offset data') := by
  induction data generalizing m m' data' offset with
  | nil =>
    cases data' with
    | nil => exact h
    | cons _ _ => cases hlength
  | cons x xs ih =>
    cases data' with
    | nil => cases hlength
    | cons y ys =>
      unfold ModuleMemory.fill
      split
      · refine ih (h.set (hdata 0 (Nat.zero_lt_succ _)) x y) (Nat.succ.inj hlength) fun i hi ↦ ?_
        rw [Nat.add_right_comm]
        exact hdata (i + 1) (Nat.succ_lt_succ hi)
      · exact h

end ModuleMemory.AlikeBut

/-- What answers at an address is the same but for some bytes of a module. -/
inductive Device.AlikeBut (W : UInt8 → Prop) : Option Device → Option Device → Prop
  | same (d? : Option Device) : AlikeBut W d? d?
  | memory {m m' : ModuleMemory} (h : m.AlikeBut W m') :
      AlikeBut W (some (.memory m)) (some (.memory m'))

/-- Two benches are the same but for some bytes of modules, those at offsets `W device`. -/
structure Bench.AlikeBut (W : UInt8 → UInt8 → Prop) (b b' : Bench) : Prop where
  pin : b'.pin = b.pin
  faults : b'.segment.faults = b.segment.faults
  device : ∀ a, Device.AlikeBut (W a) (b.segment.device? a) (b'.segment.device? a)

section AlikeBut

variable {W : UInt8 → UInt8 → Prop} {b b' : Bench}

/-- Pins answer alike. -/
instance : Likeness (Bench.AlikeBut W) where
  isBlind {a} ha b b' h := by
    obtain ⟨hpin, hfaults, hdevice⟩ := h
    cases a with
    | read _ _ _ | write _ _ _ => cases ha
    | acquire _ | readLevel _ => exact ⟨by simp only [Bench.answer, hpin], hpin, hfaults, hdevice⟩
    | writeLevel g level =>
      refine ⟨by simp only [Bench.answer, hpin], ?_, hfaults, hdevice⟩
      simp only [Bench.answer, Bench.setPin, hpin]
    | release _ | pause _ | log _ => exact ⟨rfl, hpin, hfaults, hdevice⟩

theorem Bench.AlikeBut.setDevice (h : b.AlikeBut W b') (address : UInt8) {d? d?' : Option Device}
    (hd : Device.AlikeBut (W address) d? d?') :
    Bench.AlikeBut W { b with segment := b.segment.setDevice address d? }
      { b' with segment := b'.segment.setDevice address d?' } where
  pin := h.pin
  faults := h.faults
  device a := by
    by_cases ha : a = address
    · subst ha
      simpa only [Segment.setDevice, if_pos] using hd
    · simpa only [Segment.setDevice, if_neg ha] using h.device a

/-- Whatever is put in bytes of a module, benches are the same but for them. -/
theorem Bench.AlikeBut.poke (s : Segment) (pin : Nat → Pin) {address offset : UInt8}
    {data data' : List UInt8} (hlength : data.length = data'.length)
    (hdata : ∀ i < data.length, W address (.ofNat (offset.toNat + i))) :
    Bench.AlikeBut W ⟨s.poke address 0 offset data, pin⟩ ⟨s.poke address 0 offset data', pin⟩ := by
  have hrefl : Bench.AlikeBut W ⟨s, pin⟩ ⟨s, pin⟩ := ⟨rfl, rfl, fun _ ↦ .same _⟩
  unfold Segment.poke Segment.mapModule
  cases s.module? address with
  | some m =>
    exact hrefl.setDevice address (.memory ((ModuleMemory.AlikeBut.refl m).fill hlength hdata))
  | none => exact hrefl

/-- A byte is read from both benches or from neither, and another one only if it is one of those
that differ. -/
theorem Bench.AlikeBut.read (h : b.AlikeBut W b') {address : UInt8}
    (hpage : ¬ W address QsfpMap.pageSelect) (offset : UInt8) :
    let r := Bench.answer (.read address offset 1) b
    let r' := Bench.answer (.read address offset 1) b'
    ((∃ fault, r.1 = .error fault ∧ r'.1 = .error fault) ∨
      ∃ x x', r.1 = .ok x ∧ r'.1 = .ok x' ∧ (¬ W address offset → x = x')) ∧
      r.2.AlikeBut W r'.2 := by
  dsimp only [Bench.answer, Segment.read]
  rw [h.faults]
  split
  · exact ⟨.inl ⟨_, rfl, rfl⟩, h⟩
  · have hdevice := h.device address
    revert hdevice
    generalize b.segment.device? address = d?
    generalize b'.segment.device? address = d?'
    rintro (_ | hm)
    · rcases d? with _ | m | bank
      · exact ⟨.inl ⟨_, rfl, rfl⟩, h⟩
      · exact ⟨.inr ⟨_, _, rfl, rfl, fun _ ↦ rfl⟩, h.setDevice address (.same _)⟩
      · exact ⟨.inr ⟨_, _, rfl, rfl, fun _ ↦ rfl⟩, h⟩
    · exact ⟨.inr ⟨_, _, rfl, rfl, fun ho ↦ (hm.read_one hpage ho).symm⟩,
        h.setDevice address (.memory (hm.afterRead 1))⟩

end AlikeBut

/-! ## Reading single bytes -/

/-- A read comes to what its transaction is answered with. -/
theorem Bus.runsTo_read {σ : Type} (env : Environment σ) (s : σ) (address offset : UInt8)
    (length : Nat) :
    (Bus.read address offset length).RunsTo env s
      ((env (.read address offset length) s).1.mapError (.bus address offset))
      (env (.read address offset length) s).2 := by
  constructor
  · rw [Bus.run_read]
    rfl
  · rw [Bus.run_read]
    rfl

namespace Procedure.Couples

variable {W : UInt8 → UInt8 → Prop}

/-- Reads of a byte are alike, with the same byte unless it is one of those that differ. -/
theorem readByte {device : UInt8} (hpage : ¬ W device QsfpMap.pageSelect) (offset : UInt8) :
    Couples (Bench.AlikeBut W) True (fun x y ↦ ¬ W device offset → x = y)
      (Bus.readByte device offset) (Bus.readByte device offset) := by
  have hread : Couples (Bench.AlikeBut W) True (fun x y ↦ ¬ W device offset → x = y)
      (Bus.read device offset 1) (Bus.read device offset 1) := by
    constructor
    · intro b b' b₁ x hb hx
      obtain ⟨hanswer, hafter⟩ := hb.read hpage offset
      obtain ⟨hvalue, rfl⟩ := hx.unique (Bus.runsTo_read ..)
      obtain ⟨fault, hr, -⟩ | ⟨y, y', hr, hr', hy⟩ := hanswer
      · rw [hr] at hvalue
        cases hvalue
      · rw [hr] at hvalue
        cases hvalue
        have hy' := Bus.runsTo_read Bench.answer b' device offset 1
        rw [hr'] at hy'
        exact ⟨y', _, hy', hy, hafter⟩
    · intro b b' b₁ e _ hb he
      obtain ⟨hanswer, -⟩ := hb.read hpage offset
      obtain ⟨hvalue, rfl⟩ := he.unique (Bus.runsTo_read ..)
      have hb' := Bus.runsTo_read Bench.answer b' device offset 1
      obtain ⟨fault, hr, hr'⟩ | ⟨y, y', hr, hr', -⟩ := hanswer
      · rw [hr] at hvalue
        rw [hr'] at hb'
        exact ⟨_, hvalue ▸ hb'⟩
      · rw [hr] at hvalue
        cases hvalue
  exact .bind hread fun x y h ↦ .pure fun ho ↦ congrArg byteIn (h ho)

end Procedure.Couples

/-- The actions that are answered alike whatever some bytes are. -/
abbrev BlindTo (W : UInt8 → UInt8 → Prop) : Parts := Single (Action.IsBlind (Bench.AlikeBut W))

section Reading

variable {W : UInt8 → UInt8 → Prop} (hpage : ∀ device, ¬ W device QsfpMap.pageSelect)
include hpage

/-- A byte that is the same is read alike. -/
theorem Action.isBlind_read {device offset : UInt8} (ho : ¬ W device offset) :
    (Action.read device offset 1).IsBlind (Bench.AlikeBut W) := by
  intro b b' h
  obtain ⟨hanswer, hafter⟩ := h.read (hpage device) offset
  refine ⟨?_, hafter⟩
  obtain ⟨fault, hr, hr'⟩ | ⟨x, x', hr, hr', hx⟩ := hanswer
  · exact hr'.trans hr.symm
  · rw [hr, hr', hx ho]

namespace Selected

variable (m : Selected) {a : Address} (ha : a.page = .ignore)
include ha

theorem readByte_blind (ho : ∀ device, ¬ W device a.offset) :
    (m.readByte a).MadeOf (BlindTo W) := by
  rw [Selected.readByte_eq ha]
  exact .bind (Bus.read_madeOf_of (.part (.perform _ (Action.isBlind_read hpage (ho _)))))
    fun b ↦ .pure (byteIn b)

end Selected

end Reading

/-! ## The words of the monitors -/

/-- The bytes of the temperature and of the supply voltage of an SFP module. -/
def SfpMap.words : List UInt8 := [temperature, temperature + 1, voltage, voltage + 1]

namespace Layout

/-- The bytes of the temperature and of the supply voltage. -/
def words (l : Layout) : List UInt8 :=
  [l.temperature, l.temperature + 1, l.voltage, l.voltage + 1]

variable (category : Category) (revision : UInt8)

/-- The monitors lie close together. -/
theorem bounds_of_mem_words {offset : UInt8} (h : offset ∈ (of category revision).words) :
    14 ≤ offset.toNat ∧ offset.toNat < 32 := by
  have hall : ∀ l ∈ [qsfpLayout, DoubleDensity.layout1, DoubleDensity.layout2,
      DoubleDensity.layout3], ∀ offset ∈ l.words, 14 ≤ offset.toNat ∧ offset.toNat < 32 := by
    decide +kernel
  refine hall (of category revision) ?_ offset h
  rcases of_cases category revision with h | h | h | h <;> rw [h] <;> simp

/-- Flags and conditions lie in front of the monitors or behind them. -/
theorem flags_clear : let l := of category revision
    ∀ o ∈ [l.temperatureFlags, l.voltageFlags, l.txDisable.offset, l.txFault.offset,
      l.txLoss.offset, l.rxLoss.offset],
      (o.toNat < 14 ∨ 32 ≤ o.toNat) ∧ o ∉ SfpMap.words := by
  rcases of_cases category revision with h | h | h | h <;> rw [h] <;> decide +kernel

/-- So do the flags of lanes that share their bytes. -/
theorem nibble_lt {rx tx channel : UInt8} (rxPower : Bool)
    (hflags : (of category revision).channelFlags = .nibbles rx tx)
    (hchannel : channel < (of category revision).channels) :
    ((if rxPower then rx else tx) + channel / 2).toNat < 14 := by
  rcases of_cases category revision with h | h | h | h <;> rw [h] at hflags hchannel
  · cases hflags
    have hlt : channel.toNat < 4 := hchannel
    have hbase : (if rxPower then (9 : UInt8) else 11).toNat ≤ 11 := by
      cases rxPower <;> decide
    rw [UInt8.toNat_add, UInt8.toNat_div]
    change (_ + _ / 2) % 256 < 14
    omega
  · cases hflags
  · cases hflags
  · cases hflags

/-- The flags of lanes that have their own bytes do so, but for the high alarms of the bias. -/
theorem laneFlags_clear {rx tx : LaneFlags}
    (hflags : (of category revision).channelFlags = .lanes rx tx) :
    (∀ offset ∈ [rx.highAlarm, rx.lowAlarm, rx.highWarning, rx.lowWarning, tx.lowAlarm,
      tx.highWarning, tx.lowWarning], ∀ o ∈ offset, o.toNat < 14) ∧
      ∀ o ∈ tx.highAlarm, o = 14 := by
  rcases of_cases category revision with h | h | h | h <;> rw [h] at hflags <;>
    cases hflags <;> decide +kernel

/-- The high alarms of the bias are part of the temperature from revision `0x30` on. -/
theorem revision_of_mem_words (h : (14 : UInt8) ∈ (of category revision).words) :
    category = .qsfpDD ∧ DoubleDensity.revision3 ≤ revision := by
  revert h
  unfold of
  split
  · split
    · rename_i hrevision
      exact fun _ ↦ ⟨rfl, hrevision⟩
    · split
      · exact fun h ↦ absurd h (by decide)
      · exact fun h ↦ absurd h (by decide)
  · exact fun h ↦ absurd h (by decide)

end Layout

namespace Qsfp

variable (d : Qsfp)

/-- The byte is part of a monitor of the module in a cage, or of that in an adapter. -/
def MonitorWord (device offset : UInt8) : Prop :=
  device = d.cage.address ∧ offset ∈ d.layout.words ∨
    d.found.adapted = true ∧ device = diagnosticDevice ∧ offset ∈ SfpMap.words

/-- The flags whose bytes are part of a monitor. -/
def overlaid : (k : Subject) → Flags k
  | .channelMonitor =>
    if d.found.adapted = false ∧ d.found.category = .qsfpDD ∧
        DoubleDensity.revision3 ≤ d.found.revision then
      ChannelMonitorStatus.txBias.alarms
    else .empty
  | .module | .channel => .empty

variable {d}

/-- Bytes in front of the monitors, and behind them, are not part of them. -/
theorem not_monitorWord {offset : UInt8} (h : offset.toNat < 14 ∨ 32 ≤ offset.toNat)
    (h' : offset ∉ SfpMap.words) (device : UInt8) : ¬ d.MonitorWord device offset := by
  rintro (⟨-, hword⟩ | ⟨-, -, hword⟩)
  · have hbounds := Layout.bounds_of_mem_words _ _ hword
    omega
  · exact h' hword

theorem not_monitorWord_pageSelect (device : UInt8) :
    ¬ d.MonitorWord device QsfpMap.pageSelect :=
  not_monitorWord (by decide) (by decide) device

end Qsfp

/-! ## SFP modules -/

namespace Sfp

/-- The bytes that the flags of an SFP module are read from. -/
def flagBytes : List UInt8 :=
  [SfpMap.enhancedOptions, SfpMap.statusControl, SfpMap.alarmFlags, SfpMap.alarmFlags + 1,
    SfpMap.warningFlags, SfpMap.warningFlags + 1]

variable {W : UInt8 → UInt8 → Prop} (hpage : ∀ device, ¬ W device QsfpMap.pageSelect)
variable (hflags : ∀ offset ∈ flagBytes, ∀ device, ¬ W device offset)
include hpage hflags

section Parts

variable (m : Selected)

theorem enhancedOptions_blind : (enhancedOptions m).MadeOf (BlindTo W) :=
  m.readByte_blind hpage rfl (hflags _ (.head _))

theorem requireAlarms_blind : (requireAlarms m).MadeOf (BlindTo W) :=
  .bind (enhancedOptions_blind hpage hflags m) fun _ ↦ .require (.pure ())

theorem flagByte_blind (flags wanted : Flags k) {offset : UInt8} (h : offset ∈ flagBytes) :
    (flagByte m flags wanted offset).MadeOf (BlindTo W) :=
  .ite (m.readByte_blind hpage rfl (hflags _ h)) (.pure 0)

theorem softStatus_blind : (softStatus m).MadeOf (BlindTo W) :=
  .bind (enhancedOptions_blind hpage hflags m) fun _ ↦ .ite (.pure _) <|
    .bind (m.readByte_blind hpage rfl (hflags _ (.tail _ (.head _)))) fun _ ↦ .pure _

end Parts

section Operations

variable (s : Sfp)

theorem moduleMonitorStatus_blind (flags : ModuleStatus) :
    (s.moduleMonitorStatus flags).MadeOf (BlindTo W) := by
  have hbyte (wanted : ModuleStatus) {offset : UInt8} (h : offset ∈ flagBytes) :=
    flagByte_blind hpage hflags s.eeprom.selected flags wanted h
  unfold moduleMonitorStatus session
  exact s.eeprom.session_madeOf_offBus <| .bind (requireAlarms_blind hpage hflags _) fun _ ↦
    .bind (hbyte _ (by decide)) fun _ ↦ .bind (hbyte _ (by decide)) fun _ ↦ .pure _

theorem channelMonitorStatus_blind (channel : UInt8) (flags : ChannelMonitorStatus) :
    (s.channelMonitorStatus channel flags).MadeOf (BlindTo W) := by
  have hbyte (wanted : ChannelMonitorStatus) {offset : UInt8} (h : offset ∈ flagBytes) :=
    flagByte_blind hpage hflags s.eeprom.selected flags wanted h
  unfold channelMonitorStatus session
  exact .bind (.liftExcept _) fun _ ↦ s.eeprom.session_madeOf_offBus <|
    .bind (requireAlarms_blind hpage hflags _) fun _ ↦
    .bind (hbyte _ (by decide)) fun _ ↦ .bind (hbyte _ (by decide)) fun _ ↦
    .bind (hbyte _ (by decide)) fun _ ↦ .bind (hbyte _ (by decide)) fun _ ↦ .pure _

theorem channelStatus_blind (channel : UInt8) (flags : ChannelStatus) :
    (s.channelStatus channel flags).MadeOf (BlindTo W) := by
  have hsoft := s.eeprom.session_madeOf_offBus (softStatus_blind hpage hflags s.eeprom.selected)
  exact s.channelStatus_madeOf_of (fun l ↦ l.read_madeOf) hsoft channel flags

/-- What is asked of an SFP module is answered alike. -/
theorem ask_blind (q : FlagQuery k) (flags : Flags k) :
    (q.ask Procedure s.serve flags).MadeOf (BlindTo W) := by
  cases q with
  | moduleMonitors => exact s.moduleMonitorStatus_blind hpage hflags flags
  | channelMonitors channel => exact s.channelMonitorStatus_blind hpage hflags channel flags
  | conditions channel => exact s.channelStatus_blind hpage hflags channel flags

end Operations

end Sfp

/-! ## QSFP cages -/

/-- Levels are the same, the high alarm if `P` holds. -/
structure Levels.AlikeIf (P : Prop) (l l' : Levels) : Prop where
  highAlarm : P → l.highAlarm = l'.highAlarm
  lowAlarm : l.lowAlarm = l'.lowAlarm
  highWarning : l.highWarning = l'.highWarning
  lowWarning : l.lowWarning = l'.lowWarning

theorem Levels.AlikeIf.refl (P : Prop) (l : Levels) : l.AlikeIf P l := ⟨fun _ ↦ rfl, rfl, rfl, rfl⟩

namespace Qsfp

open Procedure

section Parts

variable {W : UInt8 → UInt8 → Prop} (hpage : ∀ device, ¬ W device QsfpMap.pageSelect)
variable (m : Selected)
include hpage

theorem lowerByte_blind {offset : UInt8} (h : ∀ device, ¬ W device offset) :
    (m.lowerByte offset).MadeOf (BlindTo W) := m.readByte_blind hpage rfl h

theorem laneBit_blind {n : UInt8} {bit : ChannelBit} (h : ∀ device, ¬ W device bit.offset)
    (lane : Lane n) : (laneBit m bit lane).MadeOf (BlindTo W) :=
  .bind (lowerByte_blind hpage m h) fun _ ↦ .pure _

theorem laneFlag_blind (channel : UInt8) {offset : Option UInt8}
    (h : ∀ o ∈ offset, ∀ device, ¬ W device o) :
    (laneFlag m channel offset).MadeOf (BlindTo W) := by
  unfold laneFlag
  split
  · exact .bind (lowerByte_blind hpage m (h _ rfl)) fun _ ↦ .pure _
  · exact .pure false

/-- A flag of a lane is read from either bench or from neither. -/
theorem laneFlag_couples (P : Prop) (channel : UInt8) {offset : Option UInt8}
    (h : P → ∀ o ∈ offset, ∀ device, ¬ W device o) :
    Couples (Bench.AlikeBut W) True (fun x y ↦ P → x = y) (laneFlag m channel offset)
      (laneFlag m channel offset) := by
  unfold laneFlag
  split
  · rename_i o
    rw [Selected.lowerByte, Selected.readByte_eq rfl]
    refine .bind (.readByte (hpage _) _) fun x y hxy ↦ .pure fun hP ↦ ?_
    rw [hxy (h hP o rfl _)]
  · exact .pure fun _ ↦ rfl

/-- The levels of a lane are alike, up to a high alarm that is read from a byte that differs. -/
theorem laneLevels_couples {n : UInt8} {flags : ChannelFlags} {rxPower : Bool} (lane : Lane n)
    (P : Prop)
    (hnibbles : ∀ rx tx, flags = .nibbles rx tx → ∀ device,
      ¬ W device ((if rxPower then rx else tx) + lane.channel / 2))
    (hlanes : ∀ rx tx, flags = .lanes rx tx →
      let offsets := if rxPower then rx else tx
      (P → ∀ o ∈ offsets.highAlarm, ∀ device, ¬ W device o) ∧
        ∀ offset ∈ [offsets.lowAlarm, offsets.highWarning, offsets.lowWarning],
          ∀ o ∈ offset, ∀ device, ¬ W device o) :
    Couples (Bench.AlikeBut W) True (Levels.AlikeIf P) (laneLevels m flags rxPower lane)
      (laneLevels m flags rxPower lane) := by
  unfold laneLevels
  split
  · rename_i rx tx
    exact .bind_same (.refl (lowerByte_blind hpage m (hnibbles rx tx rfl))) fun _ ↦
      .pure (.refl P _)
  · rename_i rx tx
    obtain ⟨hhigh, hrest⟩ := hlanes rx tx rfl
    have hflag {offset : Option UInt8} (h : ∀ o ∈ offset, ∀ device, ¬ W device o) :=
      Couples.refl (E := True) (laneFlag_blind hpage m lane.channel h)
    exact .bind (laneFlag_couples hpage m P lane.channel hhigh) fun _ _ hP ↦
      .bind_same (hflag (hrest _ (by simp))) fun _ ↦
      .bind_same (hflag (hrest _ (by simp))) fun _ ↦
      .bind_same (hflag (hrest _ (by simp))) fun _ ↦ .pure ⟨hP, rfl, rfl, rfl⟩

end Parts

section Operations

variable {d : Qsfp}

/-- The high alarms of the bias are part of a monitor only if they are among the flags that are. -/
theorem not_monitorWord_highAlarm (hd : d.found.adapted = false)
    (h : d.overlaid .channelMonitor ≠ ChannelMonitorStatus.txBias.alarms) (device : UInt8) :
    ¬ d.MonitorWord device 14 := by
  rintro (⟨-, hword⟩ | ⟨hadapted, -⟩)
  · exact h (if_pos ⟨hd, Layout.revision_of_mem_words _ _ hword⟩)
  · exact absurd (hd.symm.trans hadapted) Bool.false_ne_true

theorem not_monitorWord_flags {o : UInt8} (h : o ∈ [d.layout.temperatureFlags,
      d.layout.voltageFlags, d.layout.txDisable.offset, d.layout.txFault.offset,
      d.layout.txLoss.offset, d.layout.rxLoss.offset]) (device : UInt8) :
    ¬ d.MonitorWord device o :=
  have hclear := Layout.flags_clear _ _ o h
  not_monitorWord hclear.1 hclear.2 device

theorem not_monitorWord_of_lt {o : UInt8} (h : o.toNat < 14) (device : UInt8) :
    ¬ d.MonitorWord device o := by
  refine not_monitorWord (.inl h) (fun hword ↦ ?_) device
  have hall : ∀ o ∈ SfpMap.words, ¬ o.toNat < 14 := by decide +kernel
  exact hall o hword h

variable (d)

theorem moduleMonitorStatus_blind (flags : ModuleStatus) :
    (d.moduleMonitorStatus flags).MadeOf (BlindTo d.MonitorWord) := by
  unfold moduleMonitorStatus session
  refine d.eeprom.session_madeOf_offBus ?_
  have hread {o : UInt8} (h : ∀ device, ¬ d.MonitorWord device o) :=
    lowerByte_blind not_monitorWord_pageSelect d.eeprom.selected h
  dsimp only
  exact .bind (.ite (.bind (hread (not_monitorWord_flags (by simp))) fun _ ↦ .pure _) (.pure _))
    fun _ ↦ .bind (.ite (.bind (hread (not_monitorWord_flags (by simp))) fun _ ↦ .pure _) (.pure _))
    fun _ ↦ .pure _

theorem channelStatus_blind (channel : UInt8) (flags : ChannelStatus) :
    (d.channelStatus channel flags).MadeOf (BlindTo d.MonitorWord) := by
  unfold channelStatus session
  refine .bind (.liftExcept _) fun lane ↦ d.eeprom.session_madeOf_offBus ?_
  have hflag (flag : ChannelStatus) {bit : ChannelBit}
      (h : ∀ device, ¬ d.MonitorWord device bit.offset) :=
    Sfp.flagIf_madeOf flags flag
      (laneBit_blind not_monitorWord_pageSelect d.eeprom.selected h lane)
  exact .bind (hflag _ (not_monitorWord_flags (by simp))) fun _ ↦
    .bind (hflag _ (not_monitorWord_flags (by simp))) fun _ ↦
    .bind (hflag _ (not_monitorWord_flags (by simp))) fun _ ↦
    .bind (hflag _ (not_monitorWord_flags (by simp))) fun _ ↦ .pure _

/-- The levels of the power and the bias of a lane are alike, but for a high alarm that is part of a
monitor. -/
theorem laneLevels_alike (hd : d.found.adapted = false) (rxPower : Bool)
    (lane : Lane d.layout.channels) (m : Selected) :
    Couples (Bench.AlikeBut d.MonitorWord) True
      (Levels.AlikeIf (rxPower = true ∨
        d.overlaid .channelMonitor ≠ ChannelMonitorStatus.txBias.alarms))
      (laneLevels m d.layout.channelFlags rxPower lane)
      (laneLevels m d.layout.channelFlags rxPower lane) := by
  refine laneLevels_couples not_monitorWord_pageSelect m lane _ (fun rx tx hflags ↦ ?_)
    fun rx tx hflags ↦ ?_
  · exact not_monitorWord_of_lt (Layout.nibble_lt _ _ rxPower hflags lane.lt)
  · obtain ⟨hfront, hhigh⟩ := Layout.laneFlags_clear _ _ hflags
    cases rxPower with
    | true =>
      exact ⟨fun _ o ho ↦ not_monitorWord_of_lt (hfront _ (by simp) o ho),
        fun offset hoffset o ho ↦ not_monitorWord_of_lt (hfront offset (by grind) o ho)⟩
    | false =>
      refine ⟨fun hoverlaid o ho ↦ ?_,
        fun offset hoffset o ho ↦ not_monitorWord_of_lt (hfront offset (by grind) o ho)⟩
      rw [hhigh o ho]
      exact not_monitorWord_highAlarm hd (hoverlaid.resolve_left Bool.false_ne_true)

theorem channelMonitorStatus_alike (hd : d.found.adapted = false) (channel : UInt8)
    (F : ChannelMonitorStatus) {G : ChannelMonitorStatus}
    (hG : G.intersects (d.overlaid .channelMonitor) = false) :
    Couples (Bench.AlikeBut d.MonitorWord) True (fun s s' ↦ s &&& G = s' &&& G)
      (d.channelMonitorStatus channel F) (d.channelMonitorStatus channel F) := by
  unfold channelMonitorStatus session
  refine .bind_same (.refl (.liftExcept _)) fun lane ↦ .session d.eeprom ?_
  have hlevels (quad : FlagQuad .channelMonitor) (hquad : quad ∈ Subject.channelMonitor.quads)
      (rxPower : Bool) (h : G.intersects quad.alarms = true → rxPower = true ∨
        d.overlaid .channelMonitor ≠ ChannelMonitorStatus.txBias.alarms) :=
    Couples.ite (c := F.intersects quad.all = true)
      (.bind (d.laneLevels_alike hd rxPower lane d.eeprom.selected) fun l l' hl ↦ .pure
        (Flags.Found.reduce hquad (fun hasked ↦ ⟨hl.highAlarm (h hasked), hl.lowAlarm⟩)
          fun _ ↦ ⟨hl.highWarning, hl.lowWarning⟩))
      (.pure (.none (M := quad.all)))
  -- of the bias the high alarm may differ, but then it is not among the flags in `G`
  have hrx := hlevels ChannelMonitorStatus.rxPower (.head _) true fun _ ↦ .inl rfl
  have hbias := hlevels ChannelMonitorStatus.txBias (.tail _ (.head _)) false fun hasked ↦
    .inr fun hoverlaid ↦ by
      rw [hoverlaid, hasked] at hG
      cases hG
  dsimp only
  refine .bind hrx fun _ _ hr ↦ .bind hbias fun _ _ hb ↦ .pure ?_
  have hfound := hr.or hb (by decide)
  refine Flags.eq_of_mem_iff fun i ↦ ?_
  have hi := hfound.agree i
  grind [Flags.mem_and]

/-- What is asked of a QSFP cage, or of the module in an adapter, is answered alike up to the flags
whose bytes are part of a monitor. -/
theorem ask_alike (q : FlagQuery k) (F : Flags k) {G : Flags k}
    (hG : G.intersects (d.overlaid k) = false) :
    Couples (Bench.AlikeBut d.MonitorWord) True (fun s s' ↦ s &&& G = s' &&& G)
      (q.ask Procedure d.serve F) (q.ask Procedure d.serve F) := by
  have hsame {p : Procedure (Flags k)} (h : p.MadeOf (BlindTo d.MonitorWord)) :
      Couples (Bench.AlikeBut d.MonitorWord) True (fun s s' ↦ s &&& G = s' &&& G) p p :=
    (Couples.refl h).imp fun _ _ h ↦ congrArg (· &&& G) h
  rw [d.ask_serve]
  cases h : d.adapter? with
  | some s =>
    refine hsame (s.ask_blind not_monitorWord_pageSelect (fun offset hoffset device ↦ ?_) q F)
    have hall : ∀ offset ∈ Sfp.flagBytes, 32 ≤ offset.toNat ∧ offset ∉ SfpMap.words := by
      decide +kernel
    exact not_monitorWord (.inr (hall offset hoffset).1) (hall offset hoffset).2 device
  | none =>
    have hd : d.found.adapted = false := not_adapted_of_adapter? h
    cases q with
    | moduleMonitors => exact hsame (d.moduleMonitorStatus_blind F)
    | channelMonitors channel => exact d.channelMonitorStatus_alike hd channel F hG
    | conditions channel => exact hsame (d.channelStatus_blind channel F)

end Operations

end Qsfp

/-! ## Drivers -/

/-- The driver of the QSFP cage, also of a logical port of it. -/
def Driver.qsfp? : Driver → Option Qsfp
  | .sfp _ => none
  | .qsfp d => some d
  | .subPort p => some p.inner

theorem FlagQuery.procedure_alike (q : FlagQuery k) {v : Driver} {d : Qsfp} (hd : v.qsfp? = some d)
    (F : Flags k) {G : Flags k} (hG : G.intersects (d.overlaid k) = false) :
    Procedure.Couples (Bench.AlikeBut d.MonitorWord) True (fun s s' ↦ s &&& G = s' &&& G)
      (q.procedure v F) (q.procedure v F) := by
  cases v with
  | sfp _ => cases hd
  | qsfp _ =>
    cases hd
    exact d.ask_alike q F hG
  | subPort p =>
    cases hd
    change Procedure.Couples _ _ _ (q.ask Procedure p.serve F) (q.ask Procedure p.serve F)
    obtain ⟨q', hq'⟩ | ⟨e, he⟩ := q.ask_serve p
    · rw [hq']
      exact p.inner.ask_alike q' F hG
    · rw [he]
      exact .throw e

namespace Driver

section Reports

variable {v : Driver} {d : Qsfp} (hd : v.qsfp? = some d) (q : FlagQuery k) (F : Flags k)
variable {b b' : Bench} (hb : b.AlikeBut d.MonitorWord b')
include hd hb

/-- Up to the flags whose bytes are part of a monitor the reports are the same. -/
theorem map_reported_alike {G : Flags k} (hG : G.intersects (d.overlaid k) = false) :
    ((q.perform v F).value Bench.answer b').1.map (· &&& G) =
      ((q.perform v F).value Bench.answer b).1.map (· &&& G) := by
  have hcouples := q.procedure_alike hd F hG
  rw [q.value_perform, q.value_perform]
  cases hr : (q.procedure v F).run.value Bench.answer b with
  | ok s =>
    obtain ⟨s', b₁', hs', hsame, -⟩ := hcouples.ok hb ⟨hr, rfl⟩
    rw [hs'.value]
    exact congrArg Except.ok hsame.symm
  | error e =>
    obtain ⟨b₁', he'⟩ := hcouples.error trivial hb ⟨hr, rfl⟩
    rw [he'.value]

omit hd hb in
/-- What is reported is some of what is asked for. -/
theorem map_reported_self (v : Driver) (q : FlagQuery k) (F : Flags k) (b : Bench) :
    ((q.perform v F).value Bench.answer b).1.map (· &&& F) =
      ((q.perform v F).value Bench.answer b).1 := by
  rw [q.value_perform]
  cases hr : (q.procedure v F).run.value Bench.answer b with
  | ok s =>
    have hself : F.contains F = true := Flags.contains_iff.mpr fun _ hi ↦ hi
    obtain ⟨s', b₁', -, hfiltered, -⟩ :=
      (q.procedure_couples v hself).ok (b := b) rfl ⟨hr, rfl⟩
    refine congrArg Except.ok (Flags.eq_of_mem_iff fun i ↦ ?_)
    have hsubset := Flags.contains_iff.mp hfiltered.subset i
    exact Flags.mem_and.trans ⟨And.left, fun hi ↦ ⟨hi, hsubset hi⟩⟩
  | error e => rfl

/-- A driver of a QSFP cage, or of a logical port of one, reports the same flags, or fails in the
same way, of modules that differ in the words of their temperature and supply voltage alone, if it
is not asked for the alarms of the bias of a double density module of revision `0x30` or later.
Where it is, the reports differ in these at most. -/
theorem reported_alike :
    (F.intersects (d.overlaid k) = false →
      ((q.perform v F).value Bench.answer b').1 = ((q.perform v F).value Bench.answer b).1) ∧
    ∀ G : Flags k, G.intersects (d.overlaid k) = false →
      ((q.perform v F).value Bench.answer b').1.map (· &&& G) =
        ((q.perform v F).value Bench.answer b).1.map (· &&& G) := by
  refine ⟨fun hF ↦ ?_, fun G hG ↦ map_reported_alike hd q F hb hG⟩
  calc ((q.perform v F).value Bench.answer b').1
      = ((q.perform v F).value Bench.answer b').1.map (· &&& F) :=
        (map_reported_self v q F b').symm
    _ = ((q.perform v F).value Bench.answer b).1.map (· &&& F) :=
        map_reported_alike hd q F hb hF
    _ = ((q.perform v F).value Bench.answer b).1 := map_reported_self v q F b

end Reports

/-- The receive power of a lane is reported alike while a module of revision `0x30` warms up. -/
theorem reported_alike_rxPower :
    let c : Cage := {
      instanceId := 0, name := "port0", family := .qsfp, portType := .qsfp, address := 0x50
      selector := ⟨none, none⟩, selectDelay := .zero, presence := ⟨⟨"control", 0⟩, 0⟩
      reset := none, resetDelay := .zero, lowPower := none, txControl := none, rxLoss := none
      txFault := none, portLed := none, defaultSpeedMbps := none, channelOffset := 0
      maxPowerMw := 3500 }
    let d : Qsfp := ⟨c, .standard, ⟨.qsfpDD, 0x30, none, false⟩⟩
    let b (temperature : UInt8) : Bench :=
      ⟨((Segment.blank.addModule 0x50).poke 0x50 0 0 [24, 0x30]).poke 0x50 0 14 [temperature, 0],
        fun _ ↦ .ofLevel 1⟩
    let q : FlagQuery .channelMonitor := .channelMonitors 0
    let F := ChannelMonitorStatus.rxPower.all
    (b 24).AlikeBut d.MonitorWord (b 25) ∧
      ((q.perform (Driver.qsfp d) F).value Bench.answer (b 25)).1 =
        ((q.perform (Driver.qsfp d) F).value Bench.answer (b 24)).1 := by
  intro c d b q F
  have hb : (b 24).AlikeBut d.MonitorWord (b 25) := by
    refine .poke _ _ rfl fun i hi ↦ .inl ⟨rfl, ?_⟩
    have hall : ∀ i < 2, UInt8.ofNat ((14 : UInt8).toNat + i) ∈ d.layout.words := by decide
    exact hall i hi
  exact ⟨hb, (reported_alike (v := .qsfp d) rfl q F hb).1 (by decide)⟩

/-- As it gets from 24 to 25 degrees, the high byte of the temperature is read as a high alarm of
the bias. -/
theorem not_reported_alike_txBias :
    let c : Cage := {
      instanceId := 0, name := "port0", family := .qsfp, portType := .qsfp, address := 0x50
      selector := ⟨none, none⟩, selectDelay := .zero, presence := ⟨⟨"control", 0⟩, 0⟩
      reset := none, resetDelay := .zero, lowPower := none, txControl := none, rxLoss := none
      txFault := none, portLed := none, defaultSpeedMbps := none, channelOffset := 0
      maxPowerMw := 3500 }
    let d : Qsfp := ⟨c, .standard, ⟨.qsfpDD, 0x30, none, false⟩⟩
    let b (temperature : UInt8) : Bench :=
      ⟨((Segment.blank.addModule 0x50).poke 0x50 0 0 [24, 0x30]).poke 0x50 0 14 [temperature, 0],
        fun _ ↦ .ofLevel 1⟩
    let q : FlagQuery .channelMonitor := .channelMonitors 0
    let F := ChannelMonitorStatus.txBias.all
    (((Driver.qsfp (.ofCage c)).perform (.moduleInit true)).value Bench.answer (b 24)).2 = .qsfp d ∧
      (b 24).AlikeBut d.MonitorWord (b 25) ∧
      ((q.perform (Driver.qsfp d) F).value Bench.answer (b 24)).1 = .ok .empty ∧
      ((q.perform (Driver.qsfp d) F).value Bench.answer (b 25)).1 =
        .ok ChannelMonitorStatus.txBias.highAlarm := by
  intro c d b q F
  have hhigh : ChannelMonitorStatus.txBias.highAlarm = ⟨16⟩ := by decide
  rw [hhigh]
  refine ⟨?_, .poke _ _ rfl fun i hi ↦ .inl ⟨rfl, ?_⟩, ?_, ?_⟩
  · dsimp only [d, b, c]
    rfl
  · have hall : ∀ i < 2, UInt8.ofNat ((14 : UInt8).toNat + i) ∈ d.layout.words := by decide
    exact hall i hi
  · dsimp only [q, F, d, b, c]
    rfl
  · dsimp only [q, F, d, b, c]
    rfl

end Driver

end Transceiver
