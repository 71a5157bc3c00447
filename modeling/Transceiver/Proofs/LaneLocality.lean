import Transceiver.Proofs.ChannelOffset
import Transceiver.Proofs.LaneControl
import Transceiver.Proofs.MonitorWords

/-!
# Lane controls are local

A driver passes requests about lane controls on to its cage, where a logical port counts lanes from
an offset on.  Main statement: a control that a driver switches with success is told of as switched;
what is told of other channels stays as it is, and so does the module but for the bits of the lane.
Controls of two channels may be switched in either order.

To be asked again a module has to be there, so selecting it must not clear its presence line.
-/

namespace Transceiver

variable {α β : Type}

/-! ## Drivers and their cages -/

/-- The channel of the cage that a channel of a driver is. -/
def Driver.cageChannel (v : Driver) (c : UInt8) : Except Error UInt8 :=
  match v with
  | .subPort p => p.channel c
  | _ => .ok c

/-- Different channels of a driver are so in its cage. -/
theorem Driver.cageChannel_inj {v : Driver} {c d lane : UInt8} (hc : v.cageChannel c = .ok lane)
    (hd : v.cageChannel d = .ok lane) : c = d := by
  cases v with
  | sfp _ | qsfp _ =>
    cases hc
    exact (Except.ok.inj hd).symm
  | subPort p =>
    unfold cageChannel SubPort.channel at hc hd
    dsimp only at hc hd
    split at hc <;> split at hd <;> grind

/-- A driver in place of another one does what that does. -/
theorem keeping_bind {δ ε : Type} (d : δ) (f : δ → ε) (p : Procedure α) :
    ((keeping d p).bind fun x ↦ .done (x.1, f x.2)) = keeping (f d) p :=
  Program.bind_assoc _ _ _

/-- A request about a channel goes to the cage, about the channel of that. -/
theorem ChannelRequest.perform_driver {v : Driver} {q : Qsfp} (hv : v.qsfp? = some q)
    (r : ChannelRequest) (c : UInt8) :
    r.perform v c =
      keeping v (liftM (v.cageChannel c) >>= fun c' ↦ r.ask Procedure q.serve c') := by
  cases v with
  | sfp _ => cases hv
  | qsfp q' =>
    cases hv
    refine Eq.trans ?_ (keeping_bind q Driver.qsfp (r.ask Procedure q.serve c))
    cases r <;> rfl
  | subPort p =>
    cases hv
    refine Eq.trans ?_ ((keeping_bind p Driver.subPort (r.ask Procedure p.serve c)).trans
      (congrArg (keeping (Driver.subPort p)) (p.ask_serve c r)))
    cases r <;> rfl

/-- Without an adapter the cage serves it. -/
theorem ChannelRequest.perform_cage {v : Driver} {q : Qsfp} (hv : v.qsfp? = some q)
    (hq : q.found.adapted = false) (r : ChannelRequest) (c : UInt8) :
    r.perform v c =
      keeping v (liftM (v.cageChannel c) >>= fun c' ↦ r.ask Procedure q.serveCage c') := by
  have hserve : q.serve = q.serveCage := by
    have hnone : q.adapter? = none := if_neg (hq ▸ Bool.false_ne_true)
    funext op
    unfold Qsfp.serve
    rw [hnone]
  rw [perform_driver hv, hserve]

theorem ok_of_isOk {r : Except Error Unit} (h : r.isOk = true) : r = .ok () := by
  cases r with
  | ok _ => rfl
  | error e => cases h

/-- Of a module only some bits of a lane are changed, if those are. -/
structure ModuleMemory.ModifiesOnly (bits : List ChannelBit) (lane : UInt8)
    (m m' : ModuleMemory) : Prop where
  mailbox : m'.mailbox = m.mailbox
  cell : ∀ page offset i, hasBit (m'.cell page offset) i ≠ hasBit (m.cell page offset) i →
    page = 0 ∧ ∃ bit ∈ bits, bit.offset = offset ∧ bit.mask lane = bitMask i

theorem ModuleMemory.modifiesOnly_switched (m : ModuleMemory) (lane : UInt8) (on : Bool)
    {bits : List ChannelBit} (hlower : ∀ bit ∈ bits, bit.offset < upperHalf) :
    ModifiesOnly bits lane m (m.switched lane on bits) := by
  refine ⟨m.mailbox_switched lane on bits, fun page offset i hne ↦ ?_⟩
  rw [m.hasBit_switched lane on bits hlower] at hne
  split at hne
  · rename_i hbit
    obtain ⟨rfl, bit, hmem, rfl, rfl⟩ := hbit
    exact ⟨rfl, bit, hmem, rfl, bit.mask_eq_bitMask lane⟩
  · exact absurd rfl hne

/-! ## Requests about lane controls -/

namespace LaneControl

variable (k : LaneControl) (channel : UInt8)

/-- Ask a driver to switch the control of a channel. -/
def set (v : Driver) (enable : Bool) : Program (Except Error Unit × Driver) :=
  match k with
  | .transmitter => MediaControl.perform v (.txControl channel enable)
  | .clockRecovery => MediaControl.perform v (.cdrSet channel enable)

/-- Ask a driver whether the control of a channel is enabled. -/
def get (v : Driver) : Program (Except Error Bool × Driver) :=
  match k with
  | .transmitter => MediaControl.perform v (.txControlStatus channel)
  | .clockRecovery => MediaControl.perform v (.cdrStatus channel)

/-- A driver on a bench switches the control of a channel with success; what that leads to. -/
structure Sets (enable : Bool) (x x' : Driver × Bench) : Prop where
  value : (k.set channel x.1 enable).value Bench.answer x.2 = (.ok (), x'.1)
  final : (k.set channel x.1 enable).final Bench.answer x.2 = x'.2

/-- What switching the control of a channel leads to, with success or without. -/
def next (enable : Bool) (x : Driver × Bench) : Driver × Bench :=
  (((k.set channel x.1 enable).value Bench.answer x.2).2,
    (k.set channel x.1 enable).final Bench.answer x.2)

theorem sets_next {enable : Bool} {x : Driver × Bench}
    (hok : ((k.set channel x.1 enable).value Bench.answer x.2).1.isOk = true) :
    k.Sets channel enable x (k.next channel enable x) :=
  ⟨Prod.ext (ok_of_isOk hok) rfl, rfl⟩

/-- What a driver on a bench tells of the control of a channel. -/
def told (x : Driver × Bench) : Except Error Bool :=
  ((k.get channel x.1).value Bench.answer x.2).1

end LaneControl

/-- What a driver on a bench tells of the conditions of a channel. -/
def Driver.conditions (channel : UInt8) (flags : ChannelStatus) (x : Driver × Bench) :
    Except Error ChannelStatus :=
  ((MediaControl.perform x.1 (.channelStatus channel flags)).value Bench.answer x.2).1

namespace LaneControl

section Cages

variable {k k' : LaneControl} {v : Driver} {q : Qsfp} {b : Bench} {c d : UInt8} {enable : Bool}
  {x : Driver × Bench} (hv : v.qsfp? = some q) (hq : q.found.adapted = false)
include hv hq

theorem set_eq : k.set c v enable =
    keeping v (liftM (v.cageChannel c) >>= fun lane ↦ k.switch q lane enable) := by
  cases k with
  | transmitter => exact ChannelRequest.perform_cage hv hq (.txControl enable) c
  | clockRecovery => exact ChannelRequest.perform_cage hv hq (.cdrSet enable) c

theorem get_eq : k.get c v =
    keeping v (liftM (v.cageChannel c) >>= fun lane ↦ k.look q lane) := by
  cases k with
  | transmitter => exact ChannelRequest.perform_cage hv hq .txControlStatus c
  | clockRecovery => exact ChannelRequest.perform_cage hv hq .cdrStatus c

/-- A driver switches the control of a channel if its cage does. -/
theorem sets_iff : k.Sets c enable (v, b) x ↔ x.1 = v ∧ ∃ lane, v.cageChannel c = .ok lane ∧
    (k.switch q lane enable).RunsTo Bench.answer b (.ok ()) x.2 := by
  have hruns : (∃ lane, v.cageChannel c = .ok lane ∧
      (k.switch q lane enable).RunsTo Bench.answer b (.ok ()) x.2) ↔
        (liftM (v.cageChannel c) >>= fun lane ↦ k.switch q lane enable).RunsTo Bench.answer b
          (.ok ()) x.2 := by
    rw [Procedure.runsTo_bind_iff]
    simp only [Procedure.runsTo_liftExcept_iff, and_assoc, exists_and_left, exists_eq_left]
  rw [hruns]
  have hset : k.set c v enable =
      keeping v (liftM (v.cageChannel c) >>= fun lane ↦ k.switch q lane enable) := set_eq hv hq
  constructor
  · rintro ⟨hvalue, hfinal⟩
    dsimp only at hvalue hfinal
    rw [hset] at hvalue hfinal
    refine ⟨?_, ?_, ?_⟩
    · exact (congrArg Prod.snd hvalue).symm.trans (keeping_value ..)
    · exact (value_keeping ..).symm.trans (congrArg Prod.fst hvalue)
    · exact (final_keeping ..).symm.trans hfinal
  · rintro ⟨hdriver, hvalue, hfinal⟩
    constructor
    · dsimp only
      rw [hset]
      exact Prod.ext ((value_keeping ..).trans hvalue)
        ((keeping_value ..).trans hdriver.symm)
    · dsimp only
      rw [hset]
      exact (final_keeping ..).trans hfinal

theorem told_of_channel {lane : UInt8} (hlane : v.cageChannel c = .ok lane) :
    k.told c (v, b) = (k.look q lane).run.value Bench.answer b := by
  unfold told
  rw [get_eq hv hq, hlane]
  exact value_keeping ..

theorem told_of_refused {e : Error} (he : v.cageChannel c = .error e) :
    k.told c (v, b) = .error e := by
  unfold told
  rw [get_eq hv hq, he]
  exact value_keeping ..

theorem conditions_of_channel {lane : UInt8} (hlane : v.cageChannel c = .ok lane)
    (flags : ChannelStatus) :
    Driver.conditions c flags (v, b) = (q.channelStatus lane flags).run.value Bench.answer b := by
  have hperform := ChannelRequest.perform_cage hv hq (.status flags) c
  unfold Driver.conditions
  change (((ChannelRequest.status flags).perform v c).value Bench.answer b).1 = _
  rw [hperform, hlane]
  exact value_keeping ..

end Cages

end LaneControl

/-! ## What comes of a request -/

/-- What comes of switching the control of a channel of a module: it is found so, other channels are
found as before, and of the module only the bits of the lane that it has for the control change. -/
structure LaneControl.Exact (k : LaneControl) (q : Qsfp) (mem : ModuleMemory) (c : UInt8)
    (enable : Bool) (x x' : Driver × Bench) : Prop where
  driver : x'.1 = x.1
  self : k.told c x' = .ok enable
  others : ∀ d, c ≠ d → k.told d x' = k.told d x
  memory : ∃ lane mem', x.1.cageChannel c = .ok lane ∧
    x'.2.segment = x.2.segment.setDevice q.cage.address (some (.memory mem')) ∧
    mem.ModifiesOnly (k.bits q (mem.get mem.currentPage k.options)) lane mem'

/-- Whether a channel is disabled is told just as it is. -/
structure Driver.TellsDisabled (c : UInt8) (disabled : Bool) (x : Driver × Bench) : Prop where
  alone : Driver.conditions c ChannelStatus.txDisable x =
    .ok (if disabled then ChannelStatus.txDisable else .empty)
  among : ∀ flags r, flags.contains ChannelStatus.txDisable = true →
    Driver.conditions c flags x = .ok r → r.contains ChannelStatus.txDisable = disabled

namespace LaneControl

variable {k k' : LaneControl} {v : Driver} {q : Qsfp} {b : Bench} {mem : ModuleMemory}
  {c d : UInt8} {enable enable' : Bool} {x x' : Driver × Bench} (hv : v.qsfp? = some q)
  (hq : q.found.adapted = false) (hpresent : q.cage.SelectsPresent) (h : q.Holds b.segment mem)
  (hset : k.Sets c enable (v, b) x)
include hv hq hpresent h hset

theorem exact_of_sets : k.Exact q mem c enable (v, b) x := by
  obtain ⟨v', b'⟩ := x
  obtain ⟨rfl, lane, hlane, hswitch⟩ := (sets_iff hv hq).mp hset
  refine ⟨rfl, ?_, fun d hne ↦ ?_, lane, k.after q mem lane enable, hlane, ?_, ?_⟩
  · rw [told_of_channel hv hq hlane]
    exact value_look_self hpresent h hswitch
  · cases hother : v'.cageChannel d with
    | error e => rw [told_of_refused hv hq hother, told_of_refused hv hq hother]
    | ok lane' =>
      have hlanes : lane ≠ lane' := by
        rintro rfl
        exact hne (Driver.cageChannel_inj hlane hother)
      rw [told_of_channel hv hq hother, told_of_channel hv hq hother]
      exact value_look_of_ne hpresent h hswitch hlanes
  · obtain ⟨-, -, hb⟩ := (switch_runsTo_iff h).mp hswitch
    exact (congrArg Bench.segment hb).trans segment_bench
  · exact ModuleMemory.modifiesOnly_switched _ _ _ (lower_of_mem_bits q)

/-- Two controls of different channels may be switched in either order. -/
theorem sets_comm (hne : c ≠ d) (hset' : k'.Sets d enable' x x') :
    ∃ y, k'.Sets d enable' (v, b) y ∧ k.Sets c enable y x' := by
  obtain ⟨v', b₁⟩ := x
  obtain ⟨rfl, lane, hlane, hswitch⟩ := (sets_iff hv hq).mp hset
  obtain ⟨hdriver, lane', hlane', hswitch'⟩ := (sets_iff hv hq).mp hset'
  have hlanes : lane ≠ lane' := by
    rintro rfl
    exact hne (Driver.cageChannel_inj hlane hlane')
  obtain ⟨b₂, hfirst, hsecond⟩ := switch_comm hpresent h hswitch hswitch' hlanes
  exact ⟨(v', b₂), (sets_iff hv hq).mpr ⟨rfl, lane', hlane', hfirst⟩,
    (sets_iff hv hq).mpr ⟨hdriver, lane, hlane, hsecond⟩⟩

end LaneControl

/-- A transmitter that is switched is told of as disabled just if it is. -/
theorem Driver.tellsDisabled_of_sets {v : Driver} {q : Qsfp} {b : Bench} {mem : ModuleMemory}
    {c : UInt8} {enable : Bool} {x : Driver × Bench} (hv : v.qsfp? = some q)
    (hq : q.found.adapted = false) (hpresent : q.cage.SelectsPresent)
    (h : q.Holds b.segment mem) (hset : LaneControl.transmitter.Sets c enable (v, b) x) :
    Driver.TellsDisabled c (!enable) x := by
  obtain ⟨v', b'⟩ := x
  obtain ⟨rfl, lane, hlane, hswitch⟩ := (LaneControl.sets_iff hv hq).mp hset
  obtain ⟨hopens, hlets, rfl⟩ := (LaneControl.switch_runsTo_iff h).mp hswitch
  have hmem : q.layout.txDisable ∈
      LaneControl.transmitter.bits q
        (mem.get mem.currentPage LaneControl.transmitter.options) := by
    rw [LaneControl.bits_transmitter hlets.bits_ne_nil]
    exact List.mem_singleton_self _
  have hbit := LaneControl.hasBit_after_self mem lane enable hmem
  have hread : (LaneControl.transmitter.bench q b mem lane enable).segment.AllowsRead
      q.cage.address q.layout.txDisable.offset := by
    rw [LaneControl.segment_bench]
    exact (hlets.letsSwitch _ hmem).1
  have hcage : q.Holds (LaneControl.transmitter.bench q b mem lane enable).segment
      (LaneControl.transmitter.after q mem lane enable) := LaneControl.holds_bench h
  refine ⟨?_, fun flags r hflags hr ↦ ?_⟩
  · rw [LaneControl.conditions_of_channel hv hq hlane]
    exact (Qsfp.channelStatus_runsTo hcage.module (LaneControl.opens_bench hpresent hopens)
      hlets.lane hread hbit.symm).value
  · rw [LaneControl.conditions_of_channel hv hq hlane] at hr
    exact (Qsfp.contains_channelStatus hcage.module hflags ⟨hr, rfl⟩).trans hbit

/-! ## The transmitter of an SFP module -/

namespace Sfp

/-- The transmitter has a line, or the cage holds a module that takes what is written to the byte of
its soft control, and selecting that leaves it present. -/
def Steers (s : Sfp) (g : Segment) : Prop :=
  s.cage.txControl = none → s.cage.SelectsPresent ∧
    (∃ mem, g.device? diagnosticDevice = some (.memory mem)) ∧
    g.discards diagnosticDevice SfpMap.statusControl = false

variable {s : Sfp} {b b' : Bench} {enable : Bool}

/-- A transmitter that is switched by its line is found so. -/
theorem value_txControlStatus_of_line {line : Line} (hline : s.cage.txControl = some line)
    (h : (s.txControl 0 enable).RunsTo Bench.answer b (.ok ()) b') :
    (s.txControlStatus 0).run.value Bench.answer b' = .ok enable := by
  have hcontrol : s.txControl 0 enable = line.write !enable := by
    unfold txControl
    rw [hline]
    rfl
  have hstatus : s.txControlStatus 0 = (do return !(← line.read)) := by
    unfold txControlStatus
    rw [hline]
    rfl
  rw [hcontrol] at h
  have hread : line.read.RunsTo Bench.answer b' (.ok !enable) b' :=
    ⟨Line.value_read_of_written h, line.final_read b'⟩
  have hnot : (do return !(← line.read) : Procedure Bool).RunsTo Bench.answer b'
      (.ok !(!enable)) b' := hread.bind (.pure _ _)
  rw [hstatus, hnot.value, Bool.not_not]

/-- The options of a module that can be read tell of a soft control of its transmitter. -/
structure HasSoftControl (g : Segment) (address : UInt8) : Prop where
  allows : g.AllowsRead address SfpMap.enhancedOptions
  option : ∃ d, g.device? address = some d ∧
    hasBit (d.byte SfpMap.enhancedOptions) SfpMap.softTxDisableBit = true

theorem requireSoftTxDisable_runsTo_iff {m : Selected} :
    (requireSoftTxDisable m).RunsTo Bench.answer b (.ok ()) b' ↔
      HasSoftControl b.segment m.address ∧ b' = b := by
  unfold requireSoftTxDisable enhancedOptions
  rw [Procedure.runsTo_bind_iff, Selected.lowerByte_eq]
  constructor
  · rintro ⟨options, b₁, hread, hrest⟩
    obtain ⟨hallows, ⟨d, hd, rfl⟩, rfl⟩ :=
      (Bus.readByte_runsTo_iff (by decide) (by decide)).mp hread
    obtain ⟨hbit, hrest⟩ := Procedure.runsTo_require_iff.mp hrest
    exact ⟨⟨hallows, d, hd, hbit⟩, (Procedure.runsTo_pure_iff.mp hrest).2⟩
  · rintro ⟨⟨hallows, d, hd, hbit⟩, rfl⟩
    refine ⟨d.byte SfpMap.enhancedOptions, b', ?_, ?_⟩
    · exact (Bus.readByte_runsTo_iff (by decide) (by decide)).mpr ⟨hallows, ⟨d, hd, rfl⟩, rfl⟩
    · exact Procedure.runsTo_require_iff.mpr ⟨hbit, .pure _ _⟩

/-- The diagnostics with the transmitter enabled or disabled. -/
def steered (mem : ModuleMemory) (enable : Bool) : ModuleMemory :=
  mem.set 0 SfpMap.statusControl
    (withBit (mem.get 0 SfpMap.statusControl) SfpMap.txDisableControlBit !enable)

/-- The options do not lie in the byte of the soft control. -/
theorem HasSoftControl.steered {g : Segment} {address : UInt8} {mem : ModuleMemory}
    (h : HasSoftControl g address) (hm : g.device? diagnosticDevice = some (.memory mem)) :
    HasSoftControl (g.setDevice diagnosticDevice (some (.memory (steered mem enable))))
      address := by
  obtain ⟨hallows, d, hd, hbit⟩ := h
  obtain ⟨d', hd', hbyte⟩ := Segment.byte_setDevice hm (by decide)
    (by decide : SfpMap.enhancedOptions ≠ SfpMap.statusControl) hd
  exact ⟨hallows, d', hd', hbyte ▸ hbit⟩

section Soft

variable {mem : ModuleMemory} (hline : s.cage.txControl = none)
  (hm : b.segment.device? diagnosticDevice = some (.memory mem))
include hline hm

/-- What it takes to switch the transmitter, and what comes of it. -/
theorem txControl_runsTo (hkept : b.segment.discards diagnosticDevice SfpMap.statusControl = false)
    (h : (s.txControl 0 enable).RunsTo Bench.answer b (.ok ()) b') :
    s.eeprom.Opens b ∧ HasSoftControl b.segment s.cage.address ∧
      b.segment.AllowsRead diagnosticDevice SfpMap.statusControl ∧
      b' = (s.cage.selector.applied b).withModule diagnosticDevice (steered mem enable) := by
  have hsoft : s.txControl 0 enable = (s.session fun m ↦ do
      requireSoftTxDisable m
      let _ ← m.modify (.diagnostic SfpMap.statusControl) fun status ↦
        .ok (withBit status SfpMap.txDisableControlBit !enable)
      report .debug "soft tx control" [("enable", toString enable)]) := by
    unfold txControl
    rw [hline]
    rfl
  have happlied : (s.cage.selector.applied b).segment = b.segment := Selector.segment_applied _ b
  rw [hsoft] at h
  rw [← happlied] at hm hkept ⊢
  obtain ⟨hopens, hbody⟩ := Eeprom.session_runsTo_iff.mp h
  obtain ⟨_, b₁, hrequire, hbody⟩ := Procedure.runsTo_bind_iff.mp hbody
  obtain ⟨hoption, rfl⟩ := requireSoftTxDisable_runsTo_iff.mp hrequire
  obtain ⟨_, b₂, hmodify, hreport⟩ := Procedure.runsTo_bind_iff.mp hbody
  obtain ⟨hread, -, -, rfl⟩ := (Selected.modify_runsTo_iff (a := .diagnostic SfpMap.statusControl)
    rfl hm (by decide) (by decide) hkept _).mp hmodify
  exact ⟨hopens, hoption, hread, hreport.final.symm⟩

/-- The transmitter is enabled unless the bit of the soft control is set. -/
theorem txControlStatus_runsTo (hopens : s.eeprom.Opens b)
    (hoption : HasSoftControl b.segment s.cage.address)
    (hread : b.segment.AllowsRead diagnosticDevice SfpMap.statusControl) :
    (s.txControlStatus 0).RunsTo Bench.answer b
      (.ok !hasBit (mem.get 0 SfpMap.statusControl) SfpMap.txDisableControlBit)
      (s.cage.selector.applied b) := by
  have hsoft : s.txControlStatus 0 = (s.session fun m ↦ do
      requireSoftTxDisable m
      let status ← m.readByte (.diagnostic SfpMap.statusControl)
      return !hasBit status SfpMap.txDisableControlBit) := by
    unfold txControlStatus
    rw [hline]
    rfl
  have happlied : (s.cage.selector.applied b).segment = b.segment := Selector.segment_applied _ b
  rw [hsoft]
  rw [← happlied] at hm hoption hread
  have hstatus := (Selected.readByte_runsTo_iff (m := s.eeprom.selected)
    (a := .diagnostic SfpMap.statusControl) rfl hm (by decide) (by decide)).mpr
      ⟨hread, rfl, rfl⟩
  exact Eeprom.session_runsTo_iff.mpr ⟨hopens,
    (requireSoftTxDisable_runsTo_iff.mpr ⟨hoption, rfl⟩).bind (hstatus.bind (.pure _ _))⟩

end Soft

/-- A transmitter that is switched is found so. -/
theorem value_txControlStatus (hs : s.Steers b.segment)
    (h : (s.txControl 0 enable).RunsTo Bench.answer b (.ok ()) b') :
    (s.txControlStatus 0).run.value Bench.answer b' = .ok enable := by
  cases hline : s.cage.txControl with
  | some line => exact value_txControlStatus_of_line hline h
  | none =>
    obtain ⟨hpresent, ⟨mem, hm⟩, hkept⟩ := hs hline
    obtain ⟨hopens, hoption, hread, rfl⟩ := txControl_runsTo hline hm hkept h
    have hsegment : ((s.cage.selector.applied b).withModule diagnosticDevice
        (steered mem enable)).segment =
          b.segment.setDevice diagnosticDevice (some (.memory (steered mem enable))) := by
      rw [← Selector.segment_applied s.cage.selector b]
      rfl
    have hstatus := txControlStatus_runsTo hline
      (Bench.device?_withModule (s.cage.selector.applied b) diagnosticDevice (steered mem enable))
      ((hopens.applied hpresent rfl rfl).withModule _ _) (hsegment ▸ hoption.steered hm)
      (hsegment ▸ hread)
    have hbit : hasBit ((steered mem enable).get 0 SfpMap.statusControl)
        SfpMap.txDisableControlBit = !enable := by
      unfold steered
      rw [ModuleMemory.get_set_self, hasBit_withBit, if_pos rfl]
    rw [hstatus.value, hbit, Bool.not_not]

/-- A driver tells of the transmitter as it was switched. -/
theorem told_of_sets {x : Driver × Bench} (hs : s.Steers b.segment)
    (hset : LaneControl.transmitter.Sets 0 enable (.sfp s, b) x) :
    LaneControl.transmitter.told 0 x = .ok enable := by
  have hrequest : LaneControl.transmitter.set 0 (.sfp s) enable =
      keeping (.sfp s) (s.txControl 0 enable) := keeping_bind s Driver.sfp _
  have hquestion : LaneControl.transmitter.get 0 (.sfp s) =
      keeping (.sfp s) (s.txControlStatus 0) := keeping_bind s Driver.sfp _
  obtain ⟨v', b'⟩ := x
  obtain ⟨hvalue, hfinal⟩ := hset
  dsimp only at hvalue hfinal
  rw [hrequest] at hvalue hfinal
  obtain rfl : Driver.sfp s = v' := (keeping_value ..).symm.trans (congrArg Prod.snd hvalue)
  have hcontrol : (s.txControl 0 enable).RunsTo Bench.answer b (.ok ()) b' :=
    ⟨(value_keeping ..).symm.trans (congrArg Prod.fst hvalue),
      (final_keeping ..).symm.trans hfinal⟩
  unfold LaneControl.told
  rw [hquestion]
  exact (value_keeping ..).trans (value_txControlStatus hs hcontrol)

end Sfp

/-- Controls of lanes are local.  On a cage without an adapter whose module takes what is written to
its controls, a transmitter or a clock recovery that a driver switches with success is then told of
as switched, nothing else is changed of the module and told of other channels, and controls of two
channels may be switched in either order.  The transmitter of an SFP module that is switched by a
line or by its soft control is told of as switched.

The presence line must still be set where the module is selected through the group of it. -/
theorem Driver.laneControl_exact :
    (∀ (v : Driver) (q : Qsfp) (b : Bench) (mem : ModuleMemory), v.qsfp? = some q →
      q.found.adapted = false → q.cage.SelectsPresent → q.Holds b.segment mem →
        (∀ k c enable x, LaneControl.Sets k c enable (v, b) x →
          k.Exact q mem c enable (v, b) x ∧
            (k = .transmitter → Driver.TellsDisabled c (!enable) x)) ∧
        ∀ k k' c d enable enable' x x', c ≠ d → LaneControl.Sets k c enable (v, b) x →
          LaneControl.Sets k' d enable' x x' →
            ∃ y, k'.Sets d enable' (v, b) y ∧ k.Sets c enable y x') ∧
    ∀ (s : Sfp) (b : Bench) enable x, s.Steers b.segment →
      LaneControl.transmitter.Sets 0 enable (.sfp s, b) x →
        LaneControl.transmitter.told 0 x = .ok enable := by
  refine ⟨fun v q b mem hv hq hpresent h ↦ ⟨fun k c enable x hset ↦ ⟨?_, ?_⟩, ?_⟩, ?_⟩
  · exact LaneControl.exact_of_sets hv hq hpresent h hset
  · rintro rfl
    exact tellsDisabled_of_sets hv hq hpresent h hset
  · exact fun k k' c d enable enable' x x' hne hset hset' ↦
      LaneControl.sets_comm hv hq hpresent h hset hne hset'
  · exact fun s b enable x hs hset ↦ Sfp.told_of_sets hs hset

/-- On the second port of a double density cage one transmitter is disabled and then the clock
recovery of another channel enabled, and so is the transmitter of an SFP module disabled. -/
theorem Driver.laneControl_exact_second_port :
    let c : Cage := {
      instanceId := 1, name := "port0/2", family := .qsfpDD, portType := .qsfpDD2, address := 0x50
      selector := ⟨none, some ⟨⟨"select", 1⟩, 2⟩⟩, selectDelay := .zero
      presence := ⟨⟨"control", 0⟩, 0⟩, reset := none, resetDelay := .zero, lowPower := none
      txControl := none, rxLoss := none, txFault := none, portLed := none
      defaultSpeedMbps := none, channelOffset := 4, maxPowerMw := 7000 }
    let q : Qsfp := ⟨c, .standard, ⟨.qsfpDD, 0x30, none, false⟩⟩
    let v : Driver := .subPort ⟨q⟩
    let mem := (ModuleMemory.blank.set 0 194 0xc0).set 0 195 0x10
    let b : Bench := ⟨Segment.blank.setDevice 0x50 (some (.memory mem)), fun _ ↦ .ofLevel 1⟩
    let x := LaneControl.transmitter.next 1 false (v, b)
    let x' := LaneControl.clockRecovery.next 2 true x
    let s : Sfp := ⟨{ c with family := .sfp, portType := .sfp }, .standard, .standard⟩
    let g := (Segment.blank.setDevice 0x50 (some (.memory (ModuleMemory.blank.set 0 93 0x40)))
      ).setDevice 0x51 (some (.memory .blank))
    let z := LaneControl.transmitter.next 0 false (.sfp s, ⟨g, b.pin⟩)
    LaneControl.transmitter.Sets 1 false (v, b) x ∧
      LaneControl.transmitter.Exact q mem 1 false (v, b) x ∧ Driver.TellsDisabled 1 true x ∧
      LaneControl.clockRecovery.Sets 2 true x x' ∧
      (∃ y, LaneControl.clockRecovery.Sets 2 true (v, b) y ∧
        LaneControl.transmitter.Sets 1 false y x') ∧
      LaneControl.transmitter.Sets 0 false (.sfp s, ⟨g, b.pin⟩) z ∧
      LaneControl.transmitter.told 0 z = .ok false := by
  intro c q v mem b x x' s g z
  have hpresent : c.SelectsPresent := by
    rintro t ht hid
    obtain rfl := List.mem_singleton.mp ht
    exact absurd hid (by decide)
  have hm : q.Holds b.segment mem := ⟨rfl, fun _ _ ↦ rfl⟩
  have hset : LaneControl.transmitter.Sets 1 false (v, b) x :=
    LaneControl.sets_next _ _ (by decide +kernel)
  have hset' : LaneControl.clockRecovery.Sets 2 true x x' :=
    LaneControl.sets_next _ _ (by decide +kernel)
  have hsfp : LaneControl.transmitter.Sets 0 false (.sfp s, ⟨g, b.pin⟩) z :=
    LaneControl.sets_next _ _ (by decide +kernel)
  obtain ⟨hexact, hcomm⟩ := laneControl_exact.1 v q b mem rfl rfl hpresent hm
  obtain ⟨hlocal, htells⟩ := hexact .transmitter 1 false x hset
  refine ⟨hset, hlocal, htells rfl, hset', ?_, hsfp, ?_⟩
  · exact hcomm .transmitter .clockRecovery 1 2 false true x x' (by decide) hset hset'
  · exact laneControl_exact.2 s ⟨g, b.pin⟩ false z
      (fun _ ↦ ⟨hpresent, ⟨.blank, rfl⟩, rfl⟩) hsfp

/-- A draft may name one group for the presence and to select the module.  Where the level that
selects the module clears the presence line, a transmitter is enabled with success, and after that
there is no module to be asked about it. -/
theorem Driver.not_laneControl_exact_of_shared_group :
    let group : PinGroup := ⟨"control", 0⟩
    let d : Draft := {
      name := "port0", family := .qsfp, presence := some ⟨group, 0⟩, module := some ⟨group, 2⟩ }
    let mem := ModuleMemory.blank.set 0 QsfpMap.controlOptions (bitMask QsfpMap.txDisableBit)
    let b : Bench := ⟨Segment.blank.setDevice 0x50 (some (.memory mem)), fun _ ↦ .ofLevel 1⟩
    ∃ c, d.build = .ok c ∧
      let q : Qsfp := .ofCage c
      let v : Driver := .ofCage c
      let x := LaneControl.transmitter.next 0 true (v, b)
      v.qsfp? = some q ∧ q.found.adapted = false ∧ q.Holds b.segment mem ∧
        LaneControl.transmitter.Sets 0 true (v, b) x ∧
        LaneControl.transmitter.told 0 x = .error .notPresent := by
  intro group d mem b
  refine ⟨_, rfl, ?_⟩
  intro q v x
  refine ⟨rfl, rfl, ⟨rfl, fun _ _ ↦ rfl⟩, ?_, ?_⟩
  · exact LaneControl.sets_next _ _ (by decide +kernel)
  · dsimp only [x, v, b, mem, d, group]
    rfl

end Transceiver
