import Transceiver.Proofs.Outcomes

/-!
# Arithmetic in range

The place of a channel is computed in bytes, which wrap around: the offset of its word or its flags,
the position and the mask of its bit, and the channel of the cage that a channel of a port is.
Main statement: none of them ever does, nor does a buffer lack the byte that is taken from it, and
no decoder refuses what it is handed.

For this there is a second form of every operation that computes such a place.  It takes a channel
as it is once it has been checked, computes with numbers, and fails with some fault where a byte is
left or lacking.  The two forms are the same program, whatever the fault is.
-/

namespace Transceiver

/-! ## What decoders take -/

namespace Checked

theorem hasBit_index (b : UInt8) (i : Bit) : hasBit b i.index = .ok (Transceiver.hasBit b i) := by
  rw [hasBit, position, Bit.ofIndex?_index]
  rfl

theorem withBit_index (b : UInt8) (i : Bit) (on : Bool) :
    withBit b i.index on = .ok (Transceiver.withBit b i on) := by
  rw [withBit, position, Bit.ofIndex?_index]
  rfl

theorem leading_toList {n : Nat} (bytes : Vector UInt8 n) :
    leading n bytes.toList = .ok bytes := by
  obtain ⟨bytes, rfl⟩ := bytes
  simp [leading, leading?, List.take_of_length_le]

end Checked

/-! ## Exact computations -/

namespace Exact

variable (fault : Error)

/-- The byte of a number. -/
def byte (n : Nat) : Except Error UInt8 := if n < 256 then .ok (.ofNat n) else .error fault

/-- The position of a number in a byte. -/
def bit (n : Nat) : Except Error Bit := do
  match Checked.position (← byte fault n) with
  | .ok i => return i
  | .error _ => throw fault

/-- The first byte of a buffer. -/
def first (bytes : List UInt8) : Except Error UInt8 :=
  match bytes with
  | b :: _ => .ok b
  | [] => .error fault

/-- The offset of the word of a channel in a row of words that starts at `base`. -/
def wordOffset (base channel : UInt8) : Except Error UInt8 := do
  let span ← byte fault (2 * channel.toNat)
  byte fault (base.toNat + span.toNat)

/-- The position of the bit of a channel. -/
def bitOf (b : ChannelBit) (channel : UInt8) : Except Error Bit :=
  bit fault (b.shift.toNat + channel.toNat)

variable {fault}

theorem byte_of_lt {n : Nat} (h : n < 256) : byte fault n = .ok (.ofNat n) := if_pos h

theorem bit_of_lt (fault : Error) : {n : Nat} → n < 8 →
    ∃ i, bit fault n = .ok i ∧ bitMask i = 1 <<< UInt8.ofNat n
  | 0, _ | 1, _ | 2, _ | 3, _ | 4, _ | 5, _ | 6, _ | 7, _ => ⟨_, rfl, rfl⟩
  | n + 8, h => absurd h (by omega)

theorem toNat_ofNat {n : Nat} (h : n < 256) : (UInt8.ofNat n).toNat = n :=
  UInt8.toNat_ofNat_of_lt' h

theorem wordOffset_of_lt {base channel : UInt8} (h : base.toNat + 2 * channel.toNat < 256) :
    wordOffset fault base channel = .ok (channelWord base channel) := by
  have hspan : 2 * channel.toNat < 256 := by omega
  unfold wordOffset
  rw [byte_of_lt hspan]
  change byte fault _ = _
  rw [toNat_ofNat hspan, byte_of_lt h]
  congr 1
  apply UInt8.toNat_inj.mp
  have hword : (channelWord base channel).toNat =
      (base.toNat + 2 * channel.toNat % 256) % 256 := rfl
  rw [toNat_ofNat h, hword, Nat.mod_eq_of_lt hspan, Nat.mod_eq_of_lt h]

theorem bitOf_of_lt (fault : Error) {b : ChannelBit} {channel : UInt8}
    (h : b.shift.toNat + channel.toNat < 8) :
    ∃ i, bitOf fault b channel = .ok i ∧ bitMask i = b.mask channel := by
  obtain ⟨i, hi, hmask⟩ := bit_of_lt fault h
  refine ⟨i, hi, hmask.trans ?_⟩
  have hposition : (b.shift + channel) &&& 7 = .ofNat (b.shift.toNat + channel.toNat) := by
    apply UInt8.toNat_inj.mp
    rw [toNat_ofNat (by omega), UInt8.toNat_and, UInt8.toNat_add, Nat.mod_eq_of_lt (by omega)]
    exact (Nat.and_two_pow_sub_one_eq_mod _ 3).trans (Nat.mod_eq_of_lt h)
  rw [ChannelBit.mask, hposition]

/-- The bits of four channels fill the upper half of a byte. -/
example (fault : Error) :
    bitOf fault ⟨3, 4⟩ 3 = .ok .b7 ∧ bitOf fault ⟨3, 4⟩ 4 = .error fault := ⟨rfl, rfl⟩

/-- The number that a single byte is. -/
theorem first_of_length {bytes : List UInt8} (h : bytes.length = 1) :
    first fault bytes = .ok (bigEndian bytes).toUInt8 := by
  obtain ⟨b, rfl⟩ := List.length_eq_one_iff.mp h
  simp [first, bigEndian]

end Exact

/-! ## Exact operations -/

namespace Qsfp.Exact

open Transceiver.Exact

variable (fault : Error)

section Session

variable (m : Selected)

/-- The flag of a lane in a byte of its own, if the layout has one. -/
def laneFlag (channel : UInt8) (offset : Option UInt8) : Procedure Bool := do
  let some o := offset | return false
  let byte ← m.lowerByte o
  return hasBit byte (← bit fault channel.toNat)

/-- The passed levels of receive power, or else of bias, of a lane. -/
def laneLevels (flags : ChannelFlags) (rxPower : Bool) (channel : UInt8) : Procedure Levels := do
  match flags with
  | .nibbles rx tx =>
    let offset ← byte fault ((if rxPower then rx else tx).toNat + channel.toNat / 2)
    let byte ← m.lowerByte offset
    return .ofNibble (if channel % 2 = 0 then byte >>> 4 else byte)
  | .lanes rx tx =>
    let offsets := if rxPower then rx else tx
    let highAlarm ← laneFlag fault m channel offsets.highAlarm
    let lowAlarm ← laneFlag fault m channel offsets.lowAlarm
    let highWarning ← laneFlag fault m channel offsets.highWarning
    let lowWarning ← laneFlag fault m channel offsets.lowWarning
    return ⟨highAlarm, lowAlarm, highWarning, lowWarning⟩

/-- Whether the bit of a lane is set. -/
def laneBit (b : ChannelBit) (channel : UInt8) : Procedure Bool := do
  let byte ← m.lowerByte b.offset
  return hasBit byte (← bitOf fault b channel)

/-- Switch the bit of a lane. -/
def setLaneBit (b : ChannelBit) (channel : UInt8) (on : Bool) : Procedure UInt8 :=
  m.modify (.unpaged b.offset) fun byte ↦ do return withBit byte (← bitOf fault b channel) on

/-- Switch some bits of a lane, in order. -/
def setLaneBits (channel : UInt8) (on : Bool) : List ChannelBit → Procedure Unit
  | [] => return ()
  | b :: bs => do
    let _ ← setLaneBit fault m b channel on
    setLaneBits channel on bs

/-- Whether some bit of a lane is set; all are read. -/
def anyLaneBit (channel : UInt8) : List ChannelBit → Procedure Bool
  | [] => return false
  | b :: bs => do
    let first ← laneBit fault m b channel
    let others ← anyLaneBit channel bs
    return first || others

end Session

variable (q : Qsfp)

def channelMonitorStatus (channel : UInt8) (flags : ChannelMonitorStatus) :
    Procedure ChannelMonitorStatus := do
  let _ ← q.lane channel
  q.session fun m ↦ do
    let levels (quad : FlagQuad .channelMonitor) (rxPower : Bool) :
        Procedure ChannelMonitorStatus := do
      if flags.intersects quad.all then
        return (← laneLevels fault m q.layout.channelFlags rxPower channel).reduce quad
      return .empty
    let rx ← levels ChannelMonitorStatus.rxPower true
    let bias ← levels ChannelMonitorStatus.txBias false
    return (rx ||| bias) &&& flags

def channelStatus (channel : UInt8) (flags : ChannelStatus) : Procedure ChannelStatus := do
  let _ ← q.lane channel
  q.session fun m ↦ do
    let flagAt (flag : ChannelStatus) (b : ChannelBit) :=
      Sfp.flagIf flags flag (laneBit fault m b channel)
    let disabled ← flagAt ChannelStatus.txDisable q.layout.txDisable
    let faulty ← flagAt ChannelStatus.txFault q.layout.txFault
    let txLoss ← flagAt ChannelStatus.txLoss q.layout.txLoss
    let rxLoss ← flagAt ChannelStatus.rxLoss q.layout.rxLoss
    return disabled ||| faulty ||| txLoss ||| rxLoss

def txControl (channel : UInt8) (enable : Bool) : Procedure Unit := do
  let _ ← q.lane channel
  q.session fun m ↦ do
    let options ← m.lowerByte QsfpMap.controlOptions
    unless hasBit options QsfpMap.txDisableBit do throw .notSupported
    let _ ← setLaneBit fault m q.layout.txDisable channel !enable
  settle (if enable then q.txSettle.enable else q.txSettle.disable)
  report .debug "tx control" [("channel", toString channel), ("enable", toString enable)]

def txControlStatus (channel : UInt8) : Procedure Bool := do
  let _ ← q.lane channel
  let disabled ← q.session fun m ↦ laneBit fault m q.layout.txDisable channel
  return !disabled

def cdrSet (channel : UInt8) (enable : Bool) : Procedure Unit := do
  let _ ← q.lane channel
  q.session fun m ↦ do setLaneBits fault m channel enable (← q.cdrBits m)

def cdrStatus (channel : UInt8) : Procedure Bool := do
  let _ ← q.lane channel
  q.session fun m ↦ do anyLaneBit fault m channel (← q.cdrBits m)

def channelMonitor (channel : UInt8) (monitor : ChannelMonitor) : Procedure Float := do
  let _ ← q.lane channel
  let some base := monitorBase? q.layout monitor | throw .notSupported
  q.monitor (← wordOffset fault base channel) monitor.quantity

/-- A parameter as it is reported, from the bytes in its field and the number they are. -/
def parameterValue (m : Selected) (p : Parameter) (bytes : List UInt8) (raw : UInt32) :
    Procedure UInt32 :=
  match p with
  | .diagMonType => do
    return (if hasBit (← first fault bytes) QsfpMap.rxPowerAverageBit then RxPowerType.average
      else .modulationAmplitude).code
  | .lengthCableAssembly => do
    if ← q.lengthCoded m then return (lengthOfCode (← first fault bytes)).toUInt32
    return raw
  | p => q.parameterValue m p raw

def parameter (p : Parameter) : Procedure UInt32 := do
  let f := q.layout.map.param p
  unless f.isSupported do
    report .debug "parameter not in memory map"
      [("param", Enumeration.name p), ("map", q.layout.map.name)]
    throw .notSupported
  q.session fun m ↦ do
    let bytes ← m.read (.unpaged f.offset) f.size.toNat
    match Checked.number bytes.toList with
    | .ok raw => parameterValue fault q m p bytes.toList raw
    | .error _ => throw fault

/-- Route the bus to the PHY of a channel. -/
def selectBreakout (channel : UInt8) : Procedure Unit := do
  let _ ← Lane.check channel 4
  Bus.writeByte CopperPhy.breakoutMux 0x00 (bitMask (← bit fault channel.toNat))

/-- Access the PHY of a channel of a breakout. -/
def breakout {α : Type} (channel : UInt8) (media : MediaType) (body : Procedure α) :
    Procedure α := do
  if media ≠ .copperBreakout then
    throw (.invalidArgument ("media type " ++ Enumeration.name media ++
      " has no copper PHY in a QSFP cage"))
  q.session fun _ ↦ do
    selectBreakout fault channel
    body

/-- What the driver does for an operation that goes to the cage. -/
def serveCage : (op : Operation) → Procedure op.Answer
  | .channelMonitorStatus channel flags => channelMonitorStatus fault q channel flags
  | .channelStatus channel flags => channelStatus fault q channel flags
  | .txControl channel enable => txControl fault q channel enable
  | .txControlStatus channel => txControlStatus fault q channel
  | .cdrSet channel enable => cdrSet fault q channel enable
  | .cdrStatus channel => cdrStatus fault q channel
  | .channelMonitor channel monitor => channelMonitor fault q channel monitor
  | .parameter p => parameter fault q p
  | .phyAutonegSet channel media enable =>
    breakout fault q channel media (CopperPhy.setAutoneg enable)
  | .phyModeSet channel media mode => breakout fault q channel media (CopperPhy.setMode mode)
  | .phySpeedSet channel media speed => breakout fault q channel media (CopperPhy.setSpeed speed)
  | op => q.serveCage op

/-- What the driver does for an operation that leaves it as it is. -/
def serve (op : Operation) : Procedure op.Answer :=
  match q.adapter?, op.route with
  | some sfp, .adapted => sfp.serve op
  | some _, .refused => throw .notSupported
  | _, _ => serveCage fault q op

/-- What the driver does for an operation. -/
def perform : (op : Operation) → Program (Except Error op.Answer × Qsfp)
  | .moduleInit present => q.moduleInit present
  | op => keeping q (serve fault q op)

end Qsfp.Exact

namespace SubPort.Exact

variable (fault : Error) (p : SubPort)

/-- The channel of the cage that a channel of the port is. -/
def channel (c : UInt8) : Except Error UInt8 :=
  if c.toNat + p.offset.toNat < 256 then Transceiver.Exact.byte fault (c.toNat + p.offset.toNat)
  else p.channel c

/-- What the driver does for an operation that leaves it as it is. -/
def serve : (op : Operation) → Procedure op.Answer
  | .presence => p.presence
  | .channelMonitorStatus c flags => do
    Qsfp.Exact.serve fault p.inner (.channelMonitorStatus (← channel fault p c) flags)
  | .channelStatus c flags => do
    Qsfp.Exact.serve fault p.inner (.channelStatus (← channel fault p c) flags)
  | .txControl c enable => do
    Qsfp.Exact.serve fault p.inner (.txControl (← channel fault p c) enable)
  | .txControlStatus c => do
    Qsfp.Exact.serve fault p.inner (.txControlStatus (← channel fault p c))
  | .cdrSet c enable => do
    Qsfp.Exact.serve fault p.inner (.cdrSet (← channel fault p c) enable)
  | .cdrStatus c => do
    Qsfp.Exact.serve fault p.inner (.cdrStatus (← channel fault p c))
  | .channelMonitor c monitor => do
    Qsfp.Exact.serve fault p.inner (.channelMonitor (← channel fault p c) monitor)
  | .extRateSelect c revision cdrEnable => do
    Qsfp.Exact.serve fault p.inner (.extRateSelect (← channel fault p c) revision cdrEnable)
  | .phyAutonegSet c media enable => do
    Qsfp.Exact.serve fault p.inner (.phyAutonegSet (← channel fault p c) media enable)
  | .phyModeSet c media mode => do
    Qsfp.Exact.serve fault p.inner (.phyModeSet (← channel fault p c) media mode)
  | .phySpeedSet c media speed => do
    Qsfp.Exact.serve fault p.inner (.phySpeedSet (← channel fault p c) media speed)
  | .phyLinkStatus c media => do
    Qsfp.Exact.serve fault p.inner (.phyLinkStatus (← channel fault p c) media)
  | .phyPowerDown c media enable => do
    Qsfp.Exact.serve fault p.inner (.phyPowerDown (← channel fault p c) media enable)
  | .phySerdesControl c media enable => do
    Qsfp.Exact.serve fault p.inner (.phySerdesControl (← channel fault p c) media enable)
  | op => Qsfp.Exact.serve fault p.inner op

/-- What the driver does for an operation. -/
def perform : (op : Operation) → Program (Except Error op.Answer × SubPort)
  | .moduleInit present => do
    let (r, inner) ← p.inner.moduleInit present
    return (r, ⟨inner⟩)
  | op => keeping p (serve fault p op)

end SubPort.Exact

/-- What a driver does for an operation, as an exact operation.  An SFP cage has one channel, and no
place to compute. -/
def Driver.performExact (fault : Error) (v : Driver) (op : Operation) :
    Program (Except Error op.Answer × Driver) :=
  match v with
  | .sfp d => (Driver.sfp d).perform op
  | .qsfp d => do let (r, d) ← Qsfp.Exact.perform fault d op; return (r, .qsfp d)
  | .subPort d => do let (r, d) ← SubPort.Exact.perform fault d op; return (r, .subPort d)

/-! ## Layouts -/

/-- The flags of all channels are in range. -/
def ChannelFlags.Fits (channels : UInt8) : ChannelFlags → Prop
  | .nibbles rx tx => ∀ base ∈ [rx, tx], base.toNat + channels.toNat / 2 < 256
  | .lanes _ _ => channels.toNat ≤ 8

instance (channels : UInt8) : DecidablePred (ChannelFlags.Fits channels)
  | .nibbles rx tx => inferInstanceAs (Decidable (∀ base ∈ [rx, tx], _))
  | .lanes _ _ => inferInstanceAs (Decidable (_ ≤ _))

/-- The places of all channels of a layout are in range. -/
structure Layout.Fits (l : Layout) : Prop where
  word (monitor : ChannelMonitor) :
    ∀ base ∈ Qsfp.monitorBase? l monitor, base.toNat + 2 * l.channels.toNat ≤ 256
  flags : l.channelFlags.Fits l.channels
  bit : ∀ b ∈ [l.txLoss, l.rxLoss, l.txFault, l.txDisable, l.cdrTx, l.cdrRx],
    b.shift.toNat + l.channels.toNat ≤ 8

theorem Lane.toNat_lt {n : UInt8} (lane : Lane n) : lane.channel.toNat < n.toNat := lane.lt

theorem Layout.of_fits (category : Category) (revision : UInt8) : (of category revision).Fits := by
  rcases of_cases category revision with h | h | h | h <;> rw [h]
  all_goals
    refine ⟨?_, by decide +kernel, by decide⟩
    intro monitor base hbase
    cases monitor <;> cases hbase <;> decide

/-- A parameter of which the byte is looked at has a field of one byte. -/
theorem Qsfp.layout_size_one (q : Qsfp) {p : Parameter}
    (hp : p = .diagMonType ∨ p = .lengthCableAssembly)
    (hf : (q.layout.map.param p).isSupported = true) : (q.layout.map.param p).size = 1 := by
  unfold layout at hf ⊢
  rcases Layout.of_cases q.found.category q.found.revision with h | h | h | h <;>
    rw [h] at hf ⊢ <;> rcases hp with rfl | rfl <;> first | rfl | cases hf

/-! ## The two forms -/

namespace Qsfp.Exact

open Transceiver.Exact

variable {fault : Error}

section Session

variable (m : Selected)

theorem laneFlag_eq {channel : UInt8} (h : channel.toNat < 8) (offset : Option UInt8) :
    laneFlag fault m channel offset = Qsfp.laneFlag m channel offset := by
  cases offset with
  | none => rfl
  | some o =>
    obtain ⟨i, hi, hmask⟩ := bit_of_lt fault h
    unfold laneFlag Qsfp.laneFlag
    rw [hi]
    refine bind_congr fun byte ↦ ?_
    change (pure (byte &&& bitMask i != 0) : Procedure Bool) = _
    rw [hmask, UInt8.ofNat_toNat]

variable {n : UInt8} (lane : Lane n)

theorem laneLevels_eq {flags : ChannelFlags} (h : flags.Fits n) (rxPower : Bool) :
    laneLevels fault m flags rxPower lane.channel = Qsfp.laneLevels m flags rxPower lane := by
  have hlt := lane.toNat_lt
  cases flags with
  | nibbles rx tx =>
    have hbase : (if rxPower then rx else tx).toNat + n.toNat / 2 < 256 :=
      h _ (by cases rxPower <;> simp)
    have hoffset : (if rxPower then rx else tx).toNat + lane.channel.toNat / 2 < 256 := by omega
    have hsum : UInt8.ofNat ((if rxPower then rx else tx).toNat + lane.channel.toNat / 2) =
        (if rxPower then rx else tx) + lane.channel / 2 := by
      apply UInt8.toNat_inj.mp
      rw [toNat_ofNat hoffset, UInt8.toNat_add]
      exact (Nat.mod_eq_of_lt hoffset).symm
    unfold laneLevels Qsfp.laneLevels
    dsimp only
    rw [byte_of_lt hoffset, hsum]
    rfl
  | lanes rx tx =>
    have hbound : lane.channel.toNat < 8 := Nat.lt_of_lt_of_le hlt h
    unfold laneLevels Qsfp.laneLevels
    simp only [laneFlag_eq m hbound]

variable {b : ChannelBit} (h : b.shift.toNat + n.toNat ≤ 8)
include h

theorem bitOf_lane (fault : Error) :
    ∃ i, bitOf fault b lane.channel = .ok i ∧ bitMask i = b.mask lane.channel := by
  have hlt := lane.toNat_lt
  exact bitOf_of_lt fault (by omega)

theorem laneBit_eq : laneBit fault m b lane.channel = Qsfp.laneBit m b lane := by
  obtain ⟨i, hi, hmask⟩ := bitOf_lane lane h fault
  unfold laneBit Qsfp.laneBit
  rw [hi]
  refine bind_congr fun byte ↦ ?_
  change (pure (byte &&& bitMask i != 0) : Procedure Bool) = _
  rw [hmask]

theorem setLaneBit_eq (on : Bool) : setLaneBit fault m b lane.channel on =
    m.modify (.unpaged b.offset) fun byte ↦
      .ok (if on then byte ||| b.mask lane.channel else byte &&& ~~~ b.mask lane.channel) := by
  obtain ⟨i, hi, hmask⟩ := bitOf_lane lane h fault
  unfold setLaneBit
  rw [hi]
  refine congrArg _ (funext fun byte ↦ ?_)
  change Except.ok (withBit byte i on) = _
  rw [withBit, hmask]

end Session

/-! ### Operations -/

section Operations

variable (q : Qsfp)

theorem fits : q.layout.Fits := Layout.of_fits _ _

/-- The bits of the channels of a layout. -/
abbrev bits : List ChannelBit :=
  [q.layout.txLoss, q.layout.rxLoss, q.layout.txFault, q.layout.txDisable, q.layout.cdrTx,
    q.layout.cdrRx]

/-- A channel that is checked is the one of its lane. -/
theorem lane_bind {α : Type} (channel : UInt8) {f : Lane q.layout.channels → Procedure α}
    {g : Procedure α} (h : ∀ lane : Lane q.layout.channels, lane.channel = channel → g = f lane) :
    (liftM (q.lane channel) >>= fun _ ↦ g) = liftM (q.lane channel) >>= f := by
  unfold Qsfp.lane Lane.check
  split
  · exact h ⟨channel, ‹_›⟩ rfl
  · rfl

theorem channelMonitorStatus_eq (channel : UInt8) (flags : ChannelMonitorStatus) :
    channelMonitorStatus fault q channel flags = q.channelMonitorStatus channel flags := by
  refine lane_bind q channel ?_
  rintro lane rfl
  simp only [laneLevels_eq _ lane (fits q).flags]

section Lane

variable (m : Selected) (lane : Lane q.layout.channels)

theorem laneBit_of_mem {b : ChannelBit} (h : b ∈ bits q) :
    laneBit fault m b lane.channel = Qsfp.laneBit m b lane := laneBit_eq m lane ((fits q).bit b h)

theorem setLaneBits_eq (on : Bool) {bs : List ChannelBit} (h : bs ⊆ bits q) :
    setLaneBits fault m lane.channel on bs = Qsfp.setLaneBits m lane on bs := by
  induction bs with
  | nil => rfl
  | cons b bs ih =>
    obtain ⟨hb, hbs⟩ := List.cons_subset.mp h
    unfold setLaneBits Qsfp.setLaneBits
    rw [setLaneBit_eq m lane ((fits q).bit b hb), ih hbs]

theorem anyLaneBit_eq {bs : List ChannelBit} (h : bs ⊆ bits q) :
    anyLaneBit fault m lane.channel bs = Qsfp.anyLaneBit m lane bs := by
  induction bs with
  | nil => rfl
  | cons b bs ih =>
    obtain ⟨hb, hbs⟩ := List.cons_subset.mp h
    unfold anyLaneBit Qsfp.anyLaneBit
    rw [laneBit_of_mem q m lane hb, ih hbs]

end Lane

theorem channelStatus_eq (channel : UInt8) (flags : ChannelStatus) :
    channelStatus fault q channel flags = q.channelStatus channel flags := by
  refine lane_bind q channel ?_
  rintro lane rfl
  simp only [laneBit_of_mem q _ lane, bits, List.mem_cons, true_or, or_true]

theorem txControl_eq (channel : UInt8) (enable : Bool) :
    txControl fault q channel enable = q.txControl channel enable := by
  refine lane_bind q channel ?_
  rintro lane rfl
  have hbit : q.layout.txDisable ∈ bits q := by simp
  simp only [setLaneBit_eq _ lane ((fits q).bit _ hbit)]
  cases enable <;> rfl

theorem txControlStatus_eq (channel : UInt8) :
    txControlStatus fault q channel = q.txControlStatus channel := by
  refine lane_bind q channel ?_
  rintro lane rfl
  simp only [laneBit_of_mem q _ lane, bits, List.mem_cons, true_or, or_true]

/-- The controls of the clock recovery are among the bits of the layout. -/
theorem cdrBits_bind {α : Type} (m : Selected) {f g : List ChannelBit → Procedure α}
    (h : ∀ bs, bs ⊆ bits q → f bs = g bs) : q.cdrBits m >>= f = q.cdrBits m >>= g := by
  have hbits (tx rx : Bool) :
      (if tx then [q.layout.cdrTx] else []) ++ (if rx then [q.layout.cdrRx] else []) ⊆ bits q := by
    cases tx <;> cases rx <;> simp
  unfold cdrBits
  simp only [bind_assoc]
  refine bind_congr fun options ↦ ?_
  split
  · rfl
  · exact h _ (hbits _ _)

theorem cdrSet_eq (channel : UInt8) (enable : Bool) :
    cdrSet fault q channel enable = q.cdrSet channel enable := by
  refine lane_bind q channel ?_
  rintro lane rfl
  exact congrArg q.session <| funext fun m ↦
    cdrBits_bind q m fun bs hbs ↦ setLaneBits_eq q m lane enable hbs

theorem cdrStatus_eq (channel : UInt8) : cdrStatus fault q channel = q.cdrStatus channel := by
  refine lane_bind q channel ?_
  rintro lane rfl
  exact congrArg q.session <| funext fun m ↦
    cdrBits_bind q m fun bs hbs ↦ anyLaneBit_eq q m lane hbs

theorem channelMonitor_eq (channel : UInt8) (monitor : ChannelMonitor) :
    channelMonitor fault q channel monitor = q.channelMonitor channel monitor := by
  refine lane_bind q channel ?_
  rintro lane rfl
  cases hbase : monitorBase? q.layout monitor with
  | none => rfl
  | some base =>
    have hlt := lane.toNat_lt
    have hword := (fits q).word monitor base hbase
    dsimp only
    rw [wordOffset_of_lt (by omega)]
    rfl

theorem parameterValue_eq (m : Selected) (p : Parameter) {bytes : List UInt8}
    (h : p = .diagMonType ∨ p = .lengthCableAssembly → bytes.length = 1) :
    parameterValue fault q m p bytes (bigEndian bytes) =
      q.parameterValue m p (bigEndian bytes) := by
  cases p with
  | diagMonType =>
    unfold parameterValue
    rw [first_of_length (h (.inl rfl))]
    rfl
  | lengthCableAssembly =>
    unfold parameterValue
    rw [first_of_length (h (.inr rfl))]
    rfl
  | _ => rfl

theorem parameter_eq (p : Parameter) : parameter fault q p = q.parameter p := by
  unfold parameter Qsfp.parameter
  dsimp only
  split
  · rename_i hf
    refine congrArg q.session <| funext fun m ↦ bind_congr fun bytes ↦ ?_
    have hnumber : Checked.number bytes.toList = .ok (bigEndian bytes.toList) :=
      (Layout.of_holdsNumber _ _ p).number hf bytes
    rw [hnumber]
    refine parameterValue_eq q m p fun hp ↦ ?_
    rw [bytes.length_toList, q.layout_size_one hp hf]
    rfl
  · rfl

theorem selectBreakout_eq (channel : UInt8) :
    selectBreakout fault channel = CopperPhy.selectBreakout channel := by
  unfold selectBreakout CopperPhy.selectBreakout Lane.check
  split
  · rename_i h
    have hlt : channel.toNat < 4 := h
    obtain ⟨i, hi, hmask⟩ := bit_of_lt fault (show channel.toNat < 8 by omega)
    rw [hi]
    change Bus.writeByte CopperPhy.breakoutMux 0 (bitMask i) = _
    rw [hmask, UInt8.ofNat_toNat]
    rfl
  · rfl

theorem breakout_eq {α : Type} (channel : UInt8) (media : MediaType) (body : Procedure α) :
    breakout fault q channel media body = q.breakout channel media body := by
  unfold breakout
  rw [selectBreakout_eq]
  rfl

theorem serveCage_eq (op : Operation) : serveCage fault q op = q.serveCage op := by
  cases op with
  | channelMonitorStatus channel flags => exact channelMonitorStatus_eq q channel flags
  | channelStatus channel flags => exact channelStatus_eq q channel flags
  | txControl channel enable => exact txControl_eq q channel enable
  | txControlStatus channel => exact txControlStatus_eq q channel
  | cdrSet channel enable => exact cdrSet_eq q channel enable
  | cdrStatus channel => exact cdrStatus_eq q channel
  | channelMonitor channel monitor => exact channelMonitor_eq q channel monitor
  | parameter p => exact parameter_eq q p
  | phyAutonegSet channel media enable => exact breakout_eq q channel media _
  | phyModeSet channel media mode => exact breakout_eq q channel media _
  | phySpeedSet channel media speed => exact breakout_eq q channel media _
  | _ => rfl

theorem serve_eq (op : Operation) : serve fault q op = q.serve op := by
  unfold serve
  rw [serveCage_eq]
  rfl

theorem perform_eq (op : Operation) : perform fault q op = q.perform op := by
  cases op with
  | moduleInit present => rfl
  | _ => exact congrArg (keeping q) (serve_eq q _)

end Operations

end Qsfp.Exact

namespace SubPort.Exact

variable {fault : Error} (p : SubPort)

/-- A sum that is no byte is refused before it is computed. -/
theorem channel_eq (c : UInt8) : channel fault p c = p.channel c := by
  unfold channel SubPort.channel
  split
  · rename_i h
    rw [Transceiver.Exact.byte_of_lt h, UInt8.ofNat_add, UInt8.ofNat_toNat, UInt8.ofNat_toNat]
  · rfl

theorem serve_eq (op : Operation) : serve fault p op = p.serve op := by
  cases op with
  | presence => rfl
  | channelMonitorStatus c _ | channelStatus c _ | txControl c _ | txControlStatus c
  | cdrSet c _ | cdrStatus c | channelMonitor c _ | extRateSelect c _ _ | phyAutonegSet c _ _
  | phyModeSet c _ _ | phySpeedSet c _ _ | phyLinkStatus c _ | phyPowerDown c _ _
  | phySerdesControl c _ _ =>
    unfold serve SubPort.serve
    simp only [channel_eq, Qsfp.Exact.serve_eq]
  | _ => exact Qsfp.Exact.serve_eq p.inner _

theorem perform_eq (op : Operation) : perform fault p op = p.perform op := by
  cases op with
  | moduleInit present => rfl
  | _ => exact congrArg (keeping p) (serve_eq p _)

end SubPort.Exact

/-! ## Drivers -/

namespace Driver

theorem performExact_eq (fault : Error) (v : Driver) (op : Operation) :
    v.performExact fault op = v.perform op := by
  cases v with
  | sfp d => rfl
  | qsfp d =>
    change (Qsfp.Exact.perform fault d op).bind _ = _
    rw [Qsfp.Exact.perform_eq]
    rfl
  | subPort d =>
    change (SubPort.Exact.perform fault d op).bind _ = _
    rw [SubPort.Exact.perform_eq]
    rfl

/-- No operation leaves the range of a byte or the end of a buffer, whatever would come of it, and
none fails with an error of a decoder or of a selector but to tune a module with a bad range.  The
positions that are named and the bytes that a read returns are taken by every decoder. -/
theorem perform_inRange (v : Driver) :
    (∀ fault op, v.performExact fault op = v.perform op) ∧
    (∀ op, (v.perform op).Returns fun x ↦ FailsBy op.Outcome x.1) ∧
    (∀ ps, (v.chain ps).Returns fun r ↦ FailsBy Error.IsOutcome r.2) ∧
    (∀ b i, Checked.hasBit b i.index = .ok (hasBit b i)) ∧
    (∀ b i on, Checked.withBit b i.index on = .ok (withBit b i on)) ∧
    ∀ (n : Nat) (bytes : Vector UInt8 n), Checked.leading n bytes.toList = .ok bytes :=
  ⟨fun fault op ↦ v.performExact_eq fault op, v.perform_failsBy, v.chain_returns_outcome,
    Checked.hasBit_index, Checked.withBit_index, fun _ ↦ Checked.leading_toList⟩

end Driver

end Transceiver
