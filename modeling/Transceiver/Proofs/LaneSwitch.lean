import Transceiver.Proofs.Discovery
import Transceiver.Proofs.Interleaving

/-!
# Switching lanes side by side

To switch a transmitter is to read a byte, change one bit of it and write it back, so two ports of
one module could undo the work of each other.  While the module is selected the byte that was read
stays what it is, since other ports need a group for it that is held.

Main statement: drivers on one bus select their modules exclusively, and transmitters that ports
of a module switch at the same time are all switched when their calls return.
-/

namespace Transceiver

/-! ## The bit of a transmitter -/

/-- The bit that disables a transmitter. -/
structure Switch where
  device : UInt8
  offset : UInt8
  mask : UInt8
deriving DecidableEq, Repr

namespace Switch

/-- The byte with the transmitter enabled or disabled. -/
def set (w : Switch) (enable : Bool) (byte : UInt8) : UInt8 :=
  if enable then byte &&& ~~~ w.mask else byte ||| w.mask

/-- Two switches are not the same bit. -/
def Apart (w w' : Switch) : Prop :=
  w.device ≠ w'.device ∨ w.offset ≠ w'.offset ∨ w.mask &&& w'.mask = 0

variable {w w' : Switch} {enable enable' : Bool} {byte : UInt8}

@[simp] theorem set_set (w : Switch) (enable : Bool) (byte : UInt8) :
    w.set enable (w.set enable byte) = w.set enable byte := by
  cases enable <;> simp [set, UInt8.and_assoc, UInt8.or_assoc]

/-- Switches of different bits may be set in any order. -/
theorem set_comm (h : w.mask &&& w'.mask = 0) :
    w.set enable (w'.set enable' byte) = w'.set enable' (w.set enable byte) := by
  have h : w.mask.toBitVec &&& w'.mask.toBitVec = 0 := by
    rw [← UInt8.toBitVec_and, h]
    rfl
  apply UInt8.eq_of_toBitVec_eq
  ext i hi
  have hbit : (w.mask.toBitVec[i] && w'.mask.toBitVec[i]) = false := by
    rw [← BitVec.getElem_and, getElem_congr_coll h]
    exact BitVec.getElem_zero hi
  cases enable <;> cases enable' <;>
    simp only [set, reduceIte, Bool.false_eq_true, UInt8.toBitVec_and, UInt8.toBitVec_or,
      UInt8.toBitVec_not, BitVec.getElem_and, BitVec.getElem_or, BitVec.getElem_not] <;>
    revert hbit <;> cases w.mask.toBitVec[i] <;> cases w'.mask.toBitVec[i] <;> simp

/-- A switch that is set tells whether the transmitter is enabled. -/
theorem and_mask_of_set (h : w.set enable byte = byte) :
    byte &&& w.mask = if enable then 0 else w.mask := by
  apply UInt8.eq_of_toBitVec_eq
  rw [← h]
  ext i hi
  cases enable <;> simp [set]
  exact .inr

end Switch

namespace Qsfp

/-- Where the transmitter of a channel is disabled, if the module has the channel. -/
def switch? (q : Qsfp) (channel : UInt8) : Option Switch :=
  if q.found.adapted then
    if channel < Sfp.channels then
      some ⟨diagnosticDevice, SfpMap.statusControl, bitMask SfpMap.txDisableControlBit⟩
    else none
  else if channel < q.layout.channels then
    some ⟨q.cage.address, q.layout.txDisable.offset, q.layout.txDisable.mask channel⟩
  else none

/-- A layout has its transmitters disabled by a bit for each channel of a byte of the lower half. -/
theorem txDisable_layout (q : Qsfp) :
    q.layout.channels ≤ 8 ∧ q.layout.txDisable.shift = 0 ∧
      q.layout.txDisable.offset < upperHalf ∧
      q.layout.txDisable.offset ≠ SfpMap.statusControl := by
  unfold layout Layout.of
  split
  · split
    · decide
    · split <;> decide
  · decide

end Qsfp

/-- Channels of a byte do not share a bit. -/
theorem ChannelBit.mask_and_mask {b b' : ChannelBit} (hb : b.shift = 0) (hb' : b'.shift = 0)
    {c c' : UInt8} (hc : c < 8) (hc' : c' < 8) (hne : c ≠ c') : b.mask c &&& b'.mask c' = 0 := by
  have hmasks : ∀ n < 8, ∀ n' < 8, n ≠ n' →
      (1 <<< ((0 + UInt8.ofNat n) &&& 7) &&& 1 <<< ((0 + UInt8.ofNat n') &&& 7) : UInt8) = 0 := by
    decide
  have h := hmasks c.toNat hc c'.toNat hc' (mt UInt8.toNat_inj.mp hne)
  rw [UInt8.ofNat_toNat, UInt8.ofNat_toNat] at h
  unfold mask
  rw [hb, hb']
  exact h

namespace Qsfp

theorem offset_switch? {q : Qsfp} {c : UInt8} {w : Switch} (h : q.switch? c = some w) :
    w.offset < upperHalf := by
  unfold switch? at h
  split at h
  · obtain ⟨-, h⟩ := Option.ite_none_right_eq_some.mp h
    cases h
    decide
  · obtain ⟨-, h⟩ := Option.ite_none_right_eq_some.mp h
    cases h
    exact q.txDisable_layout.2.2.1

/-- Different channels have different switches, whatever the drivers have found. -/
theorem apart_switch? {q q' : Qsfp} {c c' : UInt8} {w w' : Switch} (h : q.switch? c = some w)
    (h' : q'.switch? c' = some w') (hne : c ≠ c') : w.Apart w' := by
  obtain ⟨hchannels, hshift, -, hoffset⟩ := q.txDisable_layout
  obtain ⟨hchannels', hshift', -, hoffset'⟩ := q'.txDisable_layout
  unfold switch? at h h'
  split at h <;> obtain ⟨hc, h⟩ := Option.ite_none_right_eq_some.mp h <;> cases h <;>
    split at h' <;> obtain ⟨hc', h'⟩ := Option.ite_none_right_eq_some.mp h' <;> cases h'
  · -- an adapter has one channel
    refine absurd ?_ hne
    rw [UInt8.lt_iff_toNat_lt] at hc hc'
    apply UInt8.toNat_inj.mp
    simp only [Sfp.channels, UInt8.reduceToNat] at hc hc'
    omega
  · exact .inr (.inl hoffset'.symm)
  · exact .inr (.inl hoffset)
  · exact .inr (.inr (ChannelBit.mask_and_mask hshift hshift'
      (UInt8.lt_of_lt_of_le hc hchannels) (UInt8.lt_of_lt_of_le hc' hchannels') hne))

end Qsfp

namespace SubPort

/-- Where the transmitter of a channel of the port is disabled. -/
def switch? (p : SubPort) (channel : UInt8) : Option Switch :=
  match p.channel channel with
  | .ok c => p.inner.switch? c
  | .error _ => none

theorem channel_of_switch? {p : SubPort} {c : UInt8} {w : Switch} (h : p.switch? c = some w) :
    ∃ c', p.channel c = .ok c' ∧ c'.toNat = c.toNat + p.offset.toNat ∧
      p.inner.switch? c' = some w := by
  unfold switch? at h
  split at h
  · rename_i c' hc'
    refine ⟨c', hc', ?_, h⟩
    unfold channel at hc'
    split at hc'
    · cases hc'
      rw [UInt8.toNat_add]
      omega
    · cases hc'
  · cases h

end SubPort

/-! ## What a call does to its switch -/

/-- What is known of a switch: the byte that it is in, as long as nothing has come between, and
whether it has been set. -/
structure Sight where
  byte : Option UInt8
  isSet : Bool
deriving DecidableEq, Repr

/-- Nothing is known before the call. -/
def Sight.nothing : Sight := ⟨none, false⟩

/-- What is known after a read. -/
def Sight.afterRead (w : Switch) (enable : Bool) (x : Sight) (device offset : UInt8) :
    (length : Nat) → Except BusFault (Vector UInt8 length) → Sight
  | 1, .ok bytes =>
    if device = w.device ∧ offset = w.offset then
      ⟨byteIn bytes, x.isSet || w.set enable (byteIn bytes) == byteIn bytes⟩
    else x
  | _, _ => x

/-- What is known after a write, if it may be done. -/
def Sight.afterWrite (w : Switch) (enable : Bool) (x : Sight) (device offset : UInt8)
    (data : List UInt8) (reply : Except BusFault Unit) : Option Sight :=
  x.byte.bind fun byte ↦
    if device = w.device ∧ offset = w.offset ∧ data = [w.set enable byte] then
      match reply with
      | .ok _ => some ⟨w.set enable byte, true⟩
      | .error _ => some x
    else none

/-- Only the bit of the switch is written, to the byte that was read while the module has been
selected since. -/
def switching (w : Switch) (enable : Bool) : Observer Sight
  | x, ⟨.read device offset length, reply⟩ =>
    some (x.afterRead w enable device offset length reply)
  | x, ⟨.write device offset data, reply⟩ => x.afterWrite w enable device offset data reply
  | x, ⟨.pause _, _⟩ => some x
  | x, ⟨.log _, _⟩ => some x
  | x, ⟨.acquire _, _⟩ => some { x with byte := none }
  | x, ⟨.release _, _⟩ => some { x with byte := none }
  | x, ⟨.readLevel _, _⟩ => some { x with byte := none }
  | x, ⟨.writeLevel _ _, _⟩ => some { x with byte := none }

/-! ## Calls -/

/-- Everything but writing to the bus. -/
def Action.IsReadOnly (a : Action) : Prop := ∀ device offset data, a ≠ .write device offset data

instance : (Single Action.IsReadOnly).Includes Action.IsQuery where
  part_of_kind action h := .perform action fun _ _ _ ha ↦ by subst ha; exact h

instance : (Single Action.IsReadOnly).Includes Action.IsOffBus where
  part_of_kind action h := .perform action fun _ _ _ ha ↦ by subst ha; cases h

section Rules

variable {α β : Type} {w : Switch} {enable : Bool}

/-- A read that tells something is one of the byte that the switch is in. -/
theorem Sight.afterRead_cases (w : Switch) (enable : Bool) (x : Sight) (device offset : UInt8)
    (length : Nat) (reply : Except BusFault (Vector UInt8 length)) :
    x.afterRead w enable device offset length reply = x ∨
      device = w.device ∧ offset = w.offset ∧ length = 1 ∧ ∃ bytes : Vector UInt8 1,
        HEq reply (.ok bytes : Except BusFault (Vector UInt8 1)) ∧
        x.afterRead w enable device offset length reply =
          ⟨byteIn bytes, x.isSet || w.set enable (byteIn bytes) == byteIn bytes⟩ := by
  match length, reply with
  | 1, .ok bytes =>
    by_cases hplace : device = w.device ∧ offset = w.offset
    · exact .inr ⟨hplace.1, hplace.2, rfl, bytes, .rfl, if_pos hplace⟩
    · exact .inl (if_neg hplace)
  | 0, _ | _ + 2, _ | 1, .error _ => exact .inl rfl

theorem Sight.isSet_afterRead (x : Sight) (device offset : UInt8) (length : Nat)
    (reply : Except BusFault (Vector UInt8 length)) (hx : x.isSet = true) :
    (x.afterRead w enable device offset length reply).isSet = true := by
  obtain h | ⟨-, -, -, bytes, -, h⟩ := afterRead_cases w enable x device offset length reply
  · rw [h, hx]
  · rw [h, hx, Bool.true_or]

/-- What does not write is let pass, and does not undo that the switch was set. -/
theorem switching_of_isReadOnly {action : Action} (h : action.IsReadOnly) (reply : action.Reply)
    (x : Sight) : ∃ x', switching w enable x ⟨action, reply⟩ = some x' ∧
      (x.isSet = true → x'.isSet = true) := by
  cases action with
  | read device offset length => exact ⟨_, rfl, x.isSet_afterRead _ _ _ _⟩
  | write device offset data => exact absurd rfl (h device offset data)
  | _ => exact ⟨_, rfl, id⟩

namespace Program.MadeOf

variable {p : Program α} (h : p.MadeOf (Single Action.IsReadOnly))
include h

theorem passes_switching (x : Sight) :
    p.Passes (switching w enable) x fun _ x' ↦ x.isSet = true → x'.isSet = true := by
  cases hx : x.isSet with
  | true =>
    refine (h.preserves (P := fun x ↦ x.isSet = true) (fun _ q hq ↦ ?_) x hx).imp fun _ _ h _ ↦ h
    cases hq with
    | perform action ha =>
      exact preserves_perform fun reply x hx ↦
        (switching_of_isReadOnly ha reply x).imp fun _ h ↦ h.imp_right (· hx)
  | false =>
    refine (h.preserves (P := fun _ ↦ True) (fun _ q hq ↦ ?_) x trivial).imp fun _ _ _ ↦ nofun
    cases hq with
    | perform action ha =>
      exact preserves_perform fun reply x _ ↦
        (switching_of_isReadOnly ha reply x).imp fun _ h ↦ ⟨h.1, trivial⟩

end Program.MadeOf

/-- The switch is set if the procedure returns. -/
def Procedure.Sets (w : Switch) (enable : Bool) (p : Procedure α) : Prop :=
  ∀ x, p.run.Passes (switching w enable) x fun r x' ↦ ∀ a, r = .ok a → x'.isSet = true

namespace Procedure.Sets

theorem after {p : Procedure α} {f : α → Procedure β} (hp : p.MadeOf (Single Action.IsReadOnly))
    (hf : ∀ a, (f a).Sets w enable) : (p >>= f).Sets w enable := by
  intro x
  rw [run_bind]
  refine Program.Passes.bind (Program.MadeOf.passes_switching hp x) fun r x' _ ↦ ?_
  cases r with
  | ok a => exact hf a x'
  | error e => exact nofun

theorem before {p : Procedure α} {f : α → Procedure β} (h : p.Sets w enable)
    (hf : ∀ a, (f a).MadeOf (Single Action.IsReadOnly)) : (p >>= f).Sets w enable := by
  intro x
  rw [run_bind]
  refine (h x).bind fun r x' hx' ↦ ?_
  cases r with
  | ok a => exact (Program.MadeOf.passes_switching (hf a) x').imp fun _ _ h _ _ ↦ h (hx' a rfl)
  | error e => exact nofun

theorem require {c : Prop} [Decidable c] {e : Error} {p : Procedure α} (h : p.Sets w enable) :
    Sets w enable (if c then p else (do MonadExcept.throw e; p)) := by
  split
  · exact h
  · exact .after (.throw e) fun _ ↦ h

theorem hold {g : PinGroup} {p : Procedure α} (h : p.Sets w enable) :
    (g.hold p).Sets w enable := by
  intro x reply
  cases reply with
  | error fault => exact ⟨_, rfl, nofun⟩
  | ok _ =>
    exact ⟨_, rfl, (h _).bind fun r x' hx' _ ↦ ⟨_, rfl, hx'⟩⟩

theorem under (t? : Option SelectTarget) {p : Procedure α} (h : p.Sets w enable) :
    (Selector.under t? p).Sets w enable := by
  cases t? with
  | none => exact h
  | some t => exact hold (.after (t.group.writeLevel_madeOf t.value) fun _ ↦ h)

theorem session {e : Eeprom} {body : Selected → Procedure α}
    (h : (body e.selected).Sets w enable) : (e.session body).Sets w enable := by
  have hvisit : (e.selector.during (do
      settle e.settleTime
      body ⟨e.address, e.scheme⟩)).Sets w enable :=
    under _ (under _ (.after (.lift (settle_madeOf _)) fun _ ↦ h))
  unfold Eeprom.session
  split
  · exact .after (Line.read_madeOf _) fun _ ↦ .require hvisit
  · exact hvisit

end Procedure.Sets

/-- A byte that is read is known, and whether the switch is set in it. -/
theorem Bus.readByte_passes (x : Sight) :
    (Bus.readByte w.device w.offset).run.Passes (switching w enable) x fun r x' ↦
      ∀ byte, r = .ok byte →
        x'.byte = some byte ∧ (w.set enable byte = byte → x'.isSet = true) := by
  intro reply
  refine ⟨_, rfl, ?_⟩
  cases reply with
  | error fault => exact nofun
  | ok bytes =>
    rintro byte hbyte
    cases hbyte
    have hafter : x.afterRead w enable w.device w.offset 1 (.ok bytes) =
        ⟨byteIn bytes, x.isSet || w.set enable (byteIn bytes) == byteIn bytes⟩ :=
      if_pos ⟨rfl, rfl⟩
    rw [hafter]
    exact ⟨rfl, fun h ↦ by simp [h]⟩

/-- To change a byte as the switch says is to set the switch. -/
theorem Selected.modify_sets {m : Selected} {a : Address} (ha : a.page = .ignore)
    (hdevice : a.device.resolve m.address = w.device) (hoffset : a.offset = w.offset)
    {f : UInt8 → Except Error UInt8} (hf : ∀ byte, f byte = .ok (w.set enable byte)) :
    (m.modify a f).Sets w enable := by
  have hrange : a.offset.toNat + 1 ≤ addressSpace := a.offset.toNat_lt
  have hread : m.readByte a = Bus.readByte w.device w.offset := by
    rw [readByte_eq ha, hdevice, hoffset]
  have hwrite (value : UInt8) : m.writeByte a value = Bus.write w.device w.offset [value] := by
    unfold writeByte write
    rw [List.length_singleton, checkRange_bind hrange, paged_unpaged ha, hdevice, hoffset]
  intro x
  unfold modify
  rw [hread, Procedure.run_bind]
  refine (Bus.readByte_passes x).bind fun r x' hx' ↦ ?_
  cases r with
  | error e => exact nofun
  | ok old =>
    obtain ⟨hbyte, hset⟩ := hx' old rfl
    dsimp only [Procedure.andThen]
    rw [hf]
    change (if w.set enable old ≠ old then do m.writeByte a (w.set enable old); _
      else _ : Procedure UInt8).run.Passes _ _ _
    split
    · rw [hwrite, Procedure.run_bind, Bus.run_write]
      intro reply
      cases reply with
      | error fault => exact ⟨x', by simp [switching, Sight.afterWrite, hbyte], nofun⟩
      | ok _ =>
        exact ⟨⟨some (w.set enable old), true⟩, by simp [switching, Sight.afterWrite, hbyte],
          fun _ _ ↦ rfl⟩
    · rename_i hsame
      exact fun _ _ ↦ hset (not_not.mp hsame)

end Rules

variable {w : Switch} {enable : Bool}

/-- In an adapter the transmitter has a control of its own. -/
theorem Sfp.txControl_sets {s : Sfp} (hline : s.cage.txControl = none) (channel : UInt8)
    (hw : w = ⟨diagnosticDevice, SfpMap.statusControl, bitMask SfpMap.txDisableControlBit⟩) :
    (s.txControl channel enable).Sets w enable := by
  subst hw
  unfold txControl
  refine .after (.liftExcept _) fun _ ↦ ?_
  rw [hline]
  refine .session (.after (requireSoftTxDisable_madeOf _) fun _ ↦ ?_)
  refine .before (Selected.modify_sets rfl rfl rfl fun byte ↦ ?_) fun _ ↦
    .lift (report_madeOf _ _ _)
  cases enable <;> rfl

namespace Qsfp

variable {q : Qsfp} {channel : UInt8} (h : q.switch? channel = some w)
include h

theorem txControl_sets (hadapted : q.found.adapted = false) :
    (q.txControl channel enable).Sets w enable := by
  unfold switch? at h
  rw [hadapted, if_neg Bool.false_ne_true] at h
  obtain ⟨hc, h⟩ := Option.ite_none_right_eq_some.mp h
  cases h
  have hlane : q.lane channel = .ok ⟨channel, hc⟩ := dif_pos hc
  unfold txControl
  rw [hlane]
  change Procedure.Sets _ enable (do
    q.session fun m ↦ _
    _)
  refine .before (.session ?_) fun _ ↦
    .bind (.lift (settle_madeOf _)) fun _ ↦ .lift (report_madeOf _ _ _)
  refine .after (Selected.lowerByte_madeOf _ _) fun options ↦ .require ?_
  exact .before (Selected.modify_sets rfl rfl rfl fun _ ↦ rfl) fun _ ↦ .pure _

omit h in
theorem serve_txControl (q : Qsfp) (channel : UInt8) (enable : Bool) :
    q.serve (.txControl channel enable) =
      if q.found.adapted then (Sfp.ofCage q.cage.adapted).txControl channel enable
      else q.txControl channel enable := by
  unfold serve adapter?
  cases q.found.adapted <;> rfl

theorem serve_txControl_sets : (q.serve (.txControl channel enable)).Sets w enable := by
  rw [serve_txControl]
  cases hadapted : q.found.adapted with
  | false =>
    rw [if_neg Bool.false_ne_true]
    exact txControl_sets h hadapted
  | true =>
    rw [if_pos rfl]
    refine Sfp.txControl_sets rfl channel ?_
    unfold switch? at h
    rw [hadapted, if_pos rfl] at h
    exact (Option.some_inj.mp (Option.ite_none_right_eq_some.mp h).2).symm

omit h in
/-- Without the channel nothing is done. -/
theorem serve_txControl_eq_throw (h : q.switch? channel = none) :
    ∃ e, q.serve (.txControl channel enable) = throw e := by
  rw [serve_txControl]
  unfold switch? at h
  cases hadapted : q.found.adapted with
  | false =>
    rw [hadapted, if_neg Bool.false_ne_true] at h
    have hchannel : ¬ channel < q.layout.channels := fun hc ↦ by simp [hc] at h
    have hlane : q.lane channel = .error _ := dif_neg hchannel
    rw [if_neg Bool.false_ne_true]
    unfold txControl
    rw [hlane]
    exact ⟨_, rfl⟩
  | true =>
    rw [hadapted, if_pos rfl] at h
    have hchannel : ¬ channel < Sfp.channels := fun hc ↦ by simp [hc] at h
    have hlane : Lane.check channel Sfp.channels = .error _ := dif_neg hchannel
    rw [if_pos rfl]
    unfold Sfp.txControl
    rw [hlane]
    exact ⟨_, rfl⟩

end Qsfp

namespace SubPort

variable {p : SubPort} {channel : UInt8}

theorem serve_txControl_sets (h : p.switch? channel = some w) :
    (p.serve (.txControl channel enable)).Sets w enable := by
  obtain ⟨c, hc, -, hw⟩ := channel_of_switch? h
  dsimp only [serve]
  rw [hc]
  exact Qsfp.serve_txControl_sets hw

theorem serve_txControl_eq_throw (h : p.switch? channel = none) :
    ∃ e, p.serve (.txControl channel enable) = throw e := by
  unfold switch? at h
  dsimp only [serve]
  split at h
  · rename_i c hc
    rw [hc]
    exact Qsfp.serve_txControl_eq_throw h
  · rename_i e he
    rw [he]
    exact ⟨e, rfl⟩

end SubPort

/-! ## Switches on a bench -/

/-- A byte of the lower half that is read alone is the same on every page. -/
theorem ModuleMemory.byteIn_read (m : ModuleMemory) {offset : UInt8} (h : offset < upperHalf) :
    byteIn (m.read offset 1) = m.cell 0 offset := by
  have hoffset : UInt8.ofNat offset.toNat = offset := UInt8.ofNat_toNat
  have hstatus : offset ≠ mailboxStatusOffset := by
    rintro rfl
    exact absurd h (by decide)
  have hget : m.get m.currentPage offset = m.cell 0 offset := by
    unfold get home
    rw [if_pos h]
  have hfetch : m.fetch m.currentPage offset = m.cell 0 offset := by
    unfold fetch
    split
    · rw [if_neg hstatus, hget]
    · exact hget
  unfold read byteIn
  simpa [hoffset, offset.toNat_lt] using hfetch

namespace Segment

/-- The byte of the lower half that a switch is in. -/
def byte? (s : Segment) (w : Switch) : Option UInt8 :=
  (s.module? w.device).map fun m ↦ m.cell 0 w.offset

/-- A module has the switch, and what is written to it is not lost. -/
structure Honours (s : Segment) (w : Switch) : Prop where
  answers : (s.byte? w).isSome
  kept : s.discards w.device w.offset = false

variable {s : Segment} {w w' : Switch}

theorem byte?_setDevice (s : Segment) (address : UInt8) (m : ModuleMemory) (w : Switch) :
    (s.setDevice address (some (.memory m))).byte? w =
      if w.device = address then some (m.cell 0 w.offset) else s.byte? w := by
  unfold byte? module? setDevice
  by_cases h : w.device = address <;> simp [h]

theorem byte?_of_memory {m : ModuleMemory} (h : s.device? w.device = some (.memory m)) :
    s.byte? w = some (m.cell 0 w.offset) := by
  unfold byte? module?
  rw [h]
  rfl

/-- Reading changes no byte. -/
theorem byte?_read (s : Segment) (address offset : UInt8) (length : Nat) (w : Switch) :
    (s.read address offset length).2.byte? w = s.byte? w := by
  unfold read
  split
  · rfl
  · split
    · rfl
    · rename_i m hm
      have hcell : (m.afterRead offset length).cell = m.cell := by
        unfold ModuleMemory.afterRead
        split <;> rfl
      rw [byte?_setDevice, hcell]
      split
      · rename_i h
        exact (byte?_of_memory (h ▸ hm)).symm
      · rfl
    · rfl

/-- What is read of a switch is its byte. -/
theorem byte?_of_read (hlower : w.offset < upperHalf) (h : s.Honours w) {bytes : Vector UInt8 1}
    (hread : (s.read w.device w.offset 1).1 = .ok bytes) : s.byte? w = some (byteIn bytes) := by
  unfold read at hread
  split at hread
  · cases hread
  · split at hread
    · cases hread
    · rename_i m hm
      cases hread
      rw [byte?_of_memory hm, m.byteIn_read hlower]
    · rename_i bank hbank
      have := h.answers
      simp [byte?, module?, hbank] at this

/-- Writing a switch changes its byte, unless it is refused, and no other. -/
theorem byte?_write (hlower : w'.offset < upperHalf) (h : s.Honours w') (value : UInt8) :
    (s.write w'.device w'.offset [value]).2.byte? w =
      match (s.write w'.device w'.offset [value]).1 with
      | .ok _ => if w.device = w'.device ∧ w.offset = w'.offset then some value else s.byte? w
      | .error _ => s.byte? w := by
  rcases s.write_cases w'.device w'.offset [value] with
    ⟨-, hw⟩ | ⟨-, ⟨m, hm, hw⟩ | ⟨bank, hbank, hw⟩⟩
  · rw [hw]
  · have hhome : ModuleMemory.home m.currentPage w'.offset = 0 := if_pos hlower
    rw [hw, ModuleMemory.write_byte, h.kept, byte?_setDevice]
    by_cases hdevice : w.device = w'.device
    · rw [← hdevice] at hm
      by_cases hoffset : w.offset = w'.offset <;>
        simp [hdevice, hoffset, ModuleMemory.set, hhome, byte?_of_memory hm]
    · simp [hdevice]
  · have := h.answers
    simp [byte?, module?, hbank] at this

end Segment

/-! ## What is known of a switch -/

/-- What is known of a switch is true. -/
structure Sight.Agrees (x : Sight) (w : Switch) (enable : Bool) (s : Segment) : Prop where
  byte : ∀ byte, x.byte = some byte → s.byte? w = some byte
  isSet : x.isSet = true → ∃ byte, s.byte? w = some byte ∧ w.set enable byte = byte

/-- A write that is let pass is one of the switch, to the byte that is known. -/
theorem Sight.afterWrite_eq_some {x x' : Sight} {device offset : UInt8} {data : List UInt8}
    {reply : Except BusFault Unit}
    (h : x.afterWrite w enable device offset data reply = some x') :
    ∃ byte, x.byte = some byte ∧ device = w.device ∧ offset = w.offset ∧
      data = [w.set enable byte] ∧
      (reply = .ok () ∧ x' = ⟨some (w.set enable byte), true⟩ ∨
        ∃ fault, reply = .error fault ∧ x' = x) := by
  obtain ⟨byte, hbyte, h⟩ := Option.bind_eq_some_iff.mp h
  obtain ⟨⟨hdevice, hoffset, hdata⟩, h⟩ := Option.ite_none_right_eq_some.mp h
  refine ⟨byte, hbyte, hdevice, hoffset, hdata, ?_⟩
  cases reply with
  | ok _ => exact .inl ⟨rfl, (Option.some_inj.mp h).symm⟩
  | error fault => exact .inr ⟨fault, rfl, (Option.some_inj.mp h).symm⟩

variable {b : Bench} {action : Action} {x x' : Sight}

section Step

variable (hlower : w.offset < upperHalf) (hw : b.segment.Honours w)
  (hx : x.Agrees w enable b.segment)
  (h : switching w enable x ⟨action, (Bench.answer action b).1⟩ = some x')
include hlower hw hx h

/-- What is known stays true at an action of the call. -/
theorem Sight.Agrees.act : x'.Agrees w enable (Bench.answer action b).2.segment := by
  cases action with
  | read device offset length =>
    cases h
    have hkept : ∀ {y : Sight}, y.Agrees w enable b.segment →
        y.Agrees w enable (b.segment.read device offset length).2 := by
      rintro y ⟨hbyte, hset⟩
      exact ⟨by rwa [Segment.byte?_read], by rwa [Segment.byte?_read]⟩
    refine hkept ?_
    obtain heq | ⟨rfl, rfl, rfl, bytes, hreply, heq⟩ := afterRead_cases w enable x device offset
      length (Bench.answer (.read device offset length) b).1
    · rwa [heq]
    · have hbyte := Segment.byte?_of_read hlower hw (eq_of_heq hreply)
      rw [heq]
      refine ⟨fun _ h ↦ by cases h; exact hbyte, fun h ↦ ?_⟩
      rcases Bool.or_eq_true_iff.mp h with h | h
      · exact hx.isSet h
      · exact ⟨_, hbyte, eq_of_beq h⟩
  | write device offset data =>
    obtain ⟨byte, -, rfl, rfl, rfl, ⟨hreply, rfl⟩ | ⟨fault, hreply, rfl⟩⟩ := afterWrite_eq_some h
    · have hok : (b.segment.write w.device w.offset [w.set enable byte]).1 = .ok () := hreply
      have hwrite := Segment.byte?_write (w := w) hlower hw (w.set enable byte)
      rw [hok] at hwrite
      rw [if_pos ⟨rfl, rfl⟩] at hwrite
      exact ⟨fun _ h ↦ by cases h; exact hwrite, fun _ ↦ ⟨_, hwrite, w.set_set enable byte⟩⟩
    · rwa [show (Bench.answer (.write w.device w.offset [w.set enable byte]) b).2.segment =
        b.segment from Segment.write_of_error hreply]
  | acquire _ | release _ | readLevel _ | writeLevel _ _ =>
    cases h
    exact ⟨nofun, hx.isSet⟩
  | pause _ | log _ =>
    cases h
    exact hx

/-- A byte stays as it is at an action of the call, or is that of the switch, which is set. -/
theorem Sight.Agrees.byte?_answer (w' : Switch) :
    (Bench.answer action b).2.segment.byte? w' = b.segment.byte? w' ∨
      action.transaction? ≠ none ∧ w'.device = w.device ∧ w'.offset = w.offset ∧
        ∃ byte, b.segment.byte? w = some byte ∧
          (Bench.answer action b).2.segment.byte? w' = some (w.set enable byte) := by
  cases action with
  | read device offset length => exact .inl (Segment.byte?_read _ _ _ _ _)
  | write device offset data =>
    obtain ⟨byte, hbyte, rfl, rfl, rfl, -⟩ := afterWrite_eq_some h
    have hwrite := Segment.byte?_write (w := w') hlower hw (w.set enable byte)
    cases hreply : (b.segment.write w.device w.offset [w.set enable byte]).1 with
    | error fault =>
      rw [hreply] at hwrite
      exact .inl hwrite
    | ok _ =>
      rw [hreply] at hwrite
      by_cases hplace : w'.device = w.device ∧ w'.offset = w.offset
      · exact .inr ⟨nofun, hplace.1, hplace.2, byte, hx.byte _ hbyte,
          hwrite.trans (if_pos hplace)⟩
      · exact .inl (hwrite.trans (if_neg hplace))
  | _ => exact .inl rfl

/-- A switch of another bit may be set as well. -/
theorem Sight.Agrees.act_apart {w' : Switch} {enable' : Bool} {y : Sight} (hapart : w.Apart w')
    (hy : y.Agrees w' enable' b.segment) (hidle : action.transaction? ≠ none → y.byte = none) :
    y.Agrees w' enable' (Bench.answer action b).2.segment := by
  rcases hx.byte?_answer hlower hw h w' with
    hsame | ⟨haction, hdevice, hoffset, byte, hbyte, hnew⟩
  · exact ⟨by rw [hsame]; exact hy.byte, by rw [hsame]; exact hy.isSet⟩
  · refine ⟨fun _ hy ↦ (nomatch (hidle haction).symm.trans hy), fun hset ↦ ?_⟩
    obtain ⟨byte', hbyte', hset'⟩ := hy.isSet hset
    have hplace : b.segment.byte? w' = b.segment.byte? w := by
      unfold Segment.byte?
      rw [hdevice, hoffset]
    rw [hplace, hbyte] at hbyte'
    cases hbyte'
    refine ⟨_, hnew, ?_⟩
    have hmask : w'.mask &&& w.mask = 0 := by
      rcases hapart with h | h | h
      · exact absurd hdevice.symm h
      · exact absurd hoffset.symm h
      · rw [UInt8.and_comm]
        exact h
    rw [Switch.set_comm hmask, hset']

/-- A switch that is honoured is so for good. -/
theorem Segment.Honours.act {w' : Switch} (hw' : b.segment.Honours w') :
    (Bench.answer action b).2.segment.Honours w' := by
  constructor
  · rcases hx.byte?_answer hlower hw h w' with hsame | ⟨-, -, -, byte, -, hnew⟩
    · rw [hsame]
      exact hw'.answers
    · rw [hnew]
      rfl
  · have hfaults : (Bench.answer action b).2.segment.faults = b.segment.faults := by
      cases action with
      | read _ _ _ => exact (Segment.samePages_read _ _ _).faults
      | write _ _ _ => exact Segment.faults_write _ _ _
      | _ => rfl
    have hkept := hw'.kept
    unfold Segment.discards at hkept ⊢
    rw [hfaults]
    exact hkept

end Step

/-! ## Calls side by side -/

section Both

variable {S T : Type}

/-- Two observers, side by side. -/
def Observer.both (m : Observer S) (m' : Observer T) : Observer (S × T) := fun x e ↦
  (m x.1 e).bind fun s ↦ (m' x.2 e).map fun t ↦ (s, t)

theorem Observer.both_eq_some {m : Observer S} {m' : Observer T} {x x' : S × T} {e : Event} :
    both m m' x e = some x' ↔ m x.1 e = some x'.1 ∧ m' x.2 e = some x'.2 := by
  obtain ⟨s', t'⟩ := x'
  simp [both, Option.bind_eq_some_iff]

theorem Program.Passes.both {m : Observer S} {m' : Observer T} {p : Program α} {s : S} {t : T}
    {Q : α → S → Prop} {R : α → T → Prop} (h : p.Passes m s Q) (h' : p.Passes m' t R) :
    p.Passes (Observer.both m m') (s, t) fun a x ↦ Q a x.1 ∧ R a x.2 := by
  induction p generalizing s t with
  | done a => exact ⟨h, h'⟩
  | ask action next ih =>
    intro reply
    obtain ⟨s', hs', hnext⟩ := h reply
    obtain ⟨t', ht', hnext'⟩ := h' reply
    exact ⟨(s', t'), Observer.both_eq_some.mpr ⟨hs', ht'⟩, ih reply hnext hnext'⟩

end Both

/-- What is known of a switch is known only while the module is selected. -/
theorem selects_of_byte {sel : Selector} {holds holds' : List Hold} {x x' : Sight} {e : Event}
    (h : x.byte.isSome → sel.Selects holds) (hholds : selecting sel holds e = some holds')
    (hx : switching w enable x e = some x') : x'.byte.isSome → sel.Selects holds' := by
  obtain ⟨action, reply⟩ := e
  cases action with
  | read device offset length =>
    have hsel := selects_of_selecting hholds nofun
    cases holding_of_selecting hholds
    exact fun _ ↦ hsel
  | write device offset data =>
    have hsel := selects_of_selecting hholds nofun
    cases holding_of_selecting hholds
    exact fun _ ↦ hsel
  | pause _ | log _ =>
    cases holding_of_selecting hholds
    cases hx
    exact h
  | _ =>
    cases hx
    exact nofun

/-- Calls set only switches of their own, if they have one. -/
def settingOnly (enable : Bool) : Option Switch → Observer Sight
  | some w => switching w enable
  | none => fun _ _ ↦ none

/-- Calls for different bits, each two of which share a group that selects their modules. -/
structure SideBySide {ι : Type} (sel : ι → Selector) (w : ι → Option Switch) : Prop where
  lower : ∀ i, ∀ v ∈ w i, v.offset < upperHalf
  apart : ∀ i j, i ≠ j → ∀ v ∈ w i, ∀ v' ∈ w j, v.Apart v'
  shared : ∀ i j, i ≠ j →
    ∃ t ∈ (sel i).targets, ∃ t' ∈ (sel j).targets, t.group.id = t'.group.id

/-- What is known to the calls is true on the bench, and known only while a module is selected. -/
structure Informed {ι : Type} (sel : ι → Selector) (w : ι → Option Switch) (enable : ι → Bool)
    (b : Bench) (log : Log ι) (x : ι → List Hold × Sight) : Prop where
  orderly : Orderly b log (Prod.fst ∘ x)
  honours : ∀ i, ∀ v ∈ w i, b.segment.Honours v
  selects : ∀ i, (x i).2.byte.isSome → (sel i).Selects (x i).1
  agrees : ∀ i, ∀ v ∈ w i, (x i).2.Agrees v (enable i) b.segment

namespace Informed

variable {ι : Type} {sel : ι → Selector} {w : ι → Option Switch} {enable : ι → Bool} {b : Bench}
  {log : Log ι} {x : ι → List Hold × Sight} {i : ι} {action : Action}

/-- A task that accesses the bus leaves others without knowledge. -/
theorem byte_eq_none (h : Informed sel w enable b log x) (hside : SideBySide sel w) {j : ι}
    (hij : j ≠ i) {holds' : List Hold} {e : Event}
    (hstep : selecting (sel i) (x i).1 e = some holds') (he : e.action.transaction? ≠ none) :
    (x j).2.byte = none := by
  by_contra hbyte
  have hj := h.selects j (Option.isSome_iff_ne_none.mpr hbyte)
  have hi := selects_of_selecting hstep he
  obtain ⟨t, ht, t', ht', hid⟩ := hside.shared j i hij
  have hheld : t.group.id ∈ heldIds (x i).1 := by
    rw [hid]
    exact List.mem_map_of_mem (hi t' ht')
  exact hij (h.orderly.eq_of_mem (List.mem_map_of_mem (hj t ht)) hheld)

/-- An action of one call leaves all of them informed. -/
theorem act [DecidableEq ι] (h : Informed sel w enable b log x) (hside : SideBySide sel w)
    (hblocks : Tasks.blocks log action = false) {x' : List Hold × Sight}
    (hstep : Observer.both (selecting (sel i)) (settingOnly (enable i) (w i)) (x i)
      ⟨action, (Bench.answer action b).1⟩ = some x') :
    Informed sel w enable (Bench.answer action b).2
      (log ++ [(i, ⟨action, (Bench.answer action b).1⟩)]) (Function.update x i x') := by
  obtain ⟨hholds, hsight⟩ := Observer.both_eq_some.mp hstep
  cases hw : w i with
  | none =>
    rw [hw] at hsight
    cases hsight
  | some v =>
    rw [hw] at hsight
    have hv : v ∈ w i := hw
    have hlower := hside.lower i v hv
    have hhonours := h.honours i v hv
    have hagrees := h.agrees i v hv
    refine ⟨?_, fun j u hu ↦ ?_, fun j ↦ ?_, fun j u hu ↦ ?_⟩
    · rw [Function.comp_update]
      exact h.orderly.act (holding_of_selecting hholds) hblocks
    · exact Segment.Honours.act hlower hhonours hagrees hsight (h.honours j u hu)
    · by_cases hij : j = i
      · subst hij
        rw [Function.update_self]
        exact selects_of_byte (h.selects j) hholds hsight
      · rw [Function.update_of_ne hij]
        exact h.selects j
    · by_cases hij : j = i
      · subst hij
        cases hw.symm.trans hu
        rw [Function.update_self]
        exact hagrees.act hlower hhonours hsight
      · rw [Function.update_of_ne hij]
        exact hagrees.act_apart hlower hhonours hsight (hside.apart i j (Ne.symm hij) v hv u hu)
          (h.agrees j u hu) (h.byte_eq_none hside hij hholds)

end Informed

/-- Whatever the order of turns, a call that has returned has its switch set on the bench. -/
theorem Tasks.isSet_run {ι α : Type} [DecidableEq ι] {sel : ι → Selector} {w : ι → Option Switch}
    {enable : ι → Bool} (hside : SideBySide sel w) {b : Bench}
    (hb : ∀ i, ∀ v ∈ w i, b.segment.Honours v) {p : ι → Program α} {returned : ι → α → Prop}
    (hselecting : ∀ i, (p i).Passes (selecting (sel i)) [] fun _ _ ↦ True)
    (hsetting : ∀ i, (p i).Passes (settingOnly (enable i) (w i)) .nothing fun a x ↦
      returned i a → (w i).isSome ∧ x.isSet = true)
    (schedule : List ι) {i : ι} {a : α} (hdone : ((start b p).run schedule).rest i = .done a)
    (ha : returned i a) :
    ∃ v, w i = some v ∧ ∃ byte, ((start b p).run schedule).bench.segment.byte? v = some byte ∧
      v.set (enable i) byte = byte := by
  obtain ⟨x, hpasses, hinformed⟩ := run_invariant (t := start b p)
    (R := Informed sel w enable) (x := fun _ ↦ ([], .nothing))
    (fun b log x i action x' hblocks hstep h ↦ h.act hside hblocks hstep)
    (fun i ↦ (hselecting i).both (hsetting i))
    ⟨.start b, hb, fun _ ↦ nofun, fun _ _ _ ↦ ⟨nofun, nofun⟩⟩ schedule
  have hi := hpasses i
  rw [hdone] at hi
  obtain ⟨hsome, hset⟩ := hi.2 ha
  obtain ⟨v, hv⟩ := Option.isSome_iff_exists.mp hsome
  exact ⟨v, hv, (hinformed.agrees i v hv).isSet hset⟩

/-! ## Main statement -/

/-- Calls that switch the transmitter of a lane each, through ports of which each two share a group
that selects their modules, and of other lanes, in modules that honour writes. -/
structure SubPort.SwitchLanes {ι : Type} (p : ι → SubPort) (c : ι → UInt8) (b : Bench) :
    Prop where
  lanes : ∀ i j, i ≠ j → (c i).toNat + (p i).offset.toNat ≠ (c j).toNat + (p j).offset.toNat
  shared : ∀ i j, i ≠ j → ∃ t ∈ (p i).inner.cage.selector.targets,
    ∃ t' ∈ (p j).inner.cage.selector.targets, t.group.id = t'.group.id
  honours : ∀ i, ∀ w ∈ (p i).switch? (c i), b.segment.Honours w

theorem SubPort.SwitchLanes.sideBySide {ι : Type} {p : ι → SubPort} {c : ι → UInt8} {b : Bench}
    (h : SwitchLanes p c b) :
    SideBySide (fun i ↦ (p i).inner.cage.selector) fun i ↦ (p i).switch? (c i) := by
  refine ⟨fun i w hw ↦ ?_, fun i j hij w hw w' hw' ↦ ?_, h.shared⟩
  · obtain ⟨_, -, -, hw⟩ := channel_of_switch? hw
    exact Qsfp.offset_switch? hw
  · obtain ⟨a, -, ha, hw⟩ := channel_of_switch? hw
    obtain ⟨a', -, ha', hw'⟩ := channel_of_switch? hw'
    refine Qsfp.apart_switch? hw hw' ?_
    rintro rfl
    exact h.lanes i j hij (ha.symm.trans ha')

namespace Driver

/-- A call that returns has set its switch. -/
theorem work_txControl_passes (p : SubPort) (c : UInt8) (enable : Bool) (x : Sight) :
    ((Driver.subPort p).work [.txControl c enable]).Passes (settingOnly enable (p.switch? c)) x
      fun outcome x' ↦ outcome.1 = [⟨.txControl c enable, .ok ()⟩] →
        (p.switch? c).isSome ∧ x'.isSet = true := by
  cases hw : p.switch? c with
  | some w =>
    have hserve : (p.serve (.txControl c enable)).Sets w enable := SubPort.serve_txControl_sets hw
    refine Program.Passes.bind (Q := fun r x' ↦ r.1 = .ok () → x'.isSet = true) ?_ ?_
    · have hkeeping : (keeping p (p.serve (.txControl c enable))).Passes (switching w enable) x
          fun r x' ↦ r.1 = .ok () → x'.isSet = true :=
        Program.Passes.bind (hserve x) fun r x' hx' ↦ hx' ()
      exact hkeeping.bind fun _ _ h ↦ h
    · intro r x' hx' houtcome
      exact ⟨rfl, hx' (eq_of_heq (Sigma.mk.inj (List.cons.inj houtcome).1).2)⟩
  | none =>
    obtain ⟨e, he⟩ : ∃ e, p.serve (.txControl c enable) = throw e :=
      SubPort.serve_txControl_eq_throw hw
    have hperform : (Driver.subPort p).perform (.txControl c enable) =
        .done (.error e, .subPort p) := by
      change (keeping p (p.serve (.txControl c enable))).bind _ = _
      rw [he]
      rfl
    change (((Driver.subPort p).perform (.txControl c enable)).bind _).Passes _ _ _
    rw [hperform]
    intro houtcome
    cases eq_of_heq (Sigma.mk.inj (List.cons.inj houtcome).1).2

/-- Whether a call has returned and switched its transmitter. -/
def hasSwitched (channel : UInt8) (enable : Bool) : Program Outcome → Bool
  | .done ([⟨.txControl c e, .ok _⟩], _) => c = channel ∧ e = enable
  | _ => false

theorem eq_done_of_hasSwitched {channel : UInt8} {enable : Bool} {p : Program Outcome}
    (h : hasSwitched channel enable p = true) :
    ∃ v, p = .done ([⟨.txControl channel enable, .ok ()⟩], v) := by
  unfold hasSwitched at h
  split at h
  · obtain ⟨rfl, rfl⟩ := of_decide_eq_true h
    exact ⟨_, rfl⟩
  · cases h

/-- Whatever the order in which drivers on one bus take their turns, from any states, each of them
accesses the bus only while it holds the groups that select its module, at their levels, and no
other one does so through a group that is held.  Calls that switch different lanes side by side
have switched them when they return. -/
theorem interleaved_exclusive {ι : Type} [DecidableEq ι] {d : ι → Draft} {v : ι → Driver}
    (hv : ∀ i, (d i).build = .ok (v i).cage) (ops : ι → List Operation) (b : Bench)
    (schedule : List ι) :
    let t := (Tasks.start b fun i ↦ (v i).work (ops i)).run schedule
    t.log.Exclusive (fun i ↦ (v i).cage.selector) b ∧
    (∀ past i g during j e future,
      t.log = past ++ (i, ⟨.acquire g, .ok ()⟩) :: (during ++ (j, e) :: future) →
      Log.Keeps i g during → e.action.transaction? ≠ none →
      (∃ target ∈ (v j).cage.selector.targets, target.group.id = g.id) → j = i) ∧
    ∀ (p : ι → SubPort) (c : ι → UInt8) (enable : ι → Bool),
      (∀ i, v i = .subPort (p i) ∧ ops i = [.txControl (c i) (enable i)]) →
      SubPort.SwitchLanes p c b → ∀ i outcome, t.rest i = .done outcome →
      outcome.1 = [⟨.txControl (c i) (enable i), .ok ()⟩] →
      ∃ w, (p i).switch? (c i) = some w ∧ ∃ byte, t.bench.segment.byte? w = some byte ∧
        byte &&& w.mask = if enable i then 0 else w.mask := by
  intro t
  have hselecting (i : ι) : ((v i).work (ops i)).Passes (selecting (v i).cage.selector) []
      fun _ _ ↦ True :=
    (work_passes rfl (Draft.distinct_of_build (hv i)) (ops i)).imp fun _ _ _ ↦ trivial
  have hexclusive : t.log.Exclusive (fun i ↦ (v i).cage.selector) b :=
    Tasks.exclusive_run hselecting schedule
  refine ⟨hexclusive, fun past i g during j e future hlog hkeeps he hg ↦
    hexclusive.eq_of_keeps hlog hkeeps he hg, fun p c enable hcalls hlanes i outcome hdone hok ↦ ?_⟩
  have hsetting (i : ι) : ((v i).work (ops i)).Passes
      (settingOnly (enable i) ((p i).switch? (c i))) .nothing fun outcome x ↦
        outcome.1 = [⟨.txControl (c i) (enable i), .ok ()⟩] →
          ((p i).switch? (c i)).isSome ∧ x.isSet = true := by
    rw [(hcalls i).1, (hcalls i).2]
    exact work_txControl_passes _ _ _ _
  have hselectors : (fun i ↦ (v i).cage.selector) = fun i ↦ (p i).inner.cage.selector :=
    funext fun i ↦ by rw [(hcalls i).1]; rfl
  have hside : SideBySide (fun i ↦ (v i).cage.selector) fun i ↦ (p i).switch? (c i) :=
    hselectors ▸ hlanes.sideBySide
  obtain ⟨w, hw, byte, hbyte, hset⟩ :=
    Tasks.isSet_run hside hlanes.honours hselecting hsetting schedule hdone hok
  exact ⟨w, hw, byte, hbyte, Switch.and_mask_of_set hset⟩

/-- The two ports of a double density cage take turns: one disables the second lane, and the other
enables the sixth one. -/
theorem interleaved_exclusive_lanes :
    let d : Bool → Draft := fun second ↦ {
      name := "port", family := .qsfpDD
      portType := some (if second then .qsfpDD2 else .qsfpDD1)
      module := some ⟨⟨"select", 1⟩, 2⟩, presence := some ⟨⟨"control", 0⟩, 0⟩
      channelOffset := some (if second then 4 else 0) }
    let c : Bool → Cage := fun second ↦ {
      instanceId := 0, name := "port", family := .qsfpDD
      portType := if second then .qsfpDD2 else .qsfpDD1
      address := 0x50, selector := ⟨none, some ⟨⟨"select", 1⟩, 2⟩⟩, selectDelay := .zero
      presence := ⟨⟨"control", 0⟩, 0⟩, reset := none, resetDelay := .zero, lowPower := none
      txControl := none, rxLoss := none, txFault := none, portLed := none
      defaultSpeedMbps := none, channelOffset := if second then 4 else 0, maxPowerMw := 7000 }
    let p : Bool → SubPort := fun second ↦ ⟨c second, .standard, ⟨.qsfpDD, 0x20, none, false⟩⟩
    let b : Bench := ⟨((Segment.blank.addModule 0x50).poke 0x50 0 84 [0x20]).poke 0x50 0 195 [0x10],
      fun _ ↦ .ofLevel 1⟩
    let t := (Tasks.start b fun i ↦ (Driver.subPort (p i)).work [.txControl 1 i]).run
      (List.replicate 16 [false, true]).flatten
    (∀ i, (d i).build = .ok (c i)) ∧
    t.log.Exclusive (fun i ↦ (c i).selector) b ∧
    ∀ i, ∃ w, (p i).switch? 1 = some w ∧ ∃ byte, t.bench.segment.byte? w = some byte ∧
      byte &&& w.mask = if i then 0 else w.mask := by
  intro d c p b t
  have hv : ∀ i, (d i).build = .ok (c i) := by rintro (_ | _) <;> rfl
  have hreturned : ∀ i, hasSwitched 1 i (t.rest i) = true := by decide +kernel
  have hlanes : SubPort.SwitchLanes p (fun _ ↦ 1) b := by
    refine ⟨by decide, ?_, ?_⟩
    · exact fun _ _ _ ↦ ⟨_, .head _, _, .head _, rfl⟩
    · rintro (_ | _) w hw <;> cases hw <;> exact ⟨rfl, rfl⟩
  obtain ⟨hexclusive, -, hset⟩ := interleaved_exclusive (v := fun i ↦ .subPort (p i)) hv
    (fun i ↦ [.txControl 1 i]) b (List.replicate 16 [false, true]).flatten
  dsimp only [t] at hset hreturned ⊢
  refine ⟨hv, hexclusive, fun i ↦ ?_⟩
  obtain ⟨v', hdone⟩ := eq_done_of_hasSwitched (hreturned i)
  exact hset p (fun _ ↦ 1) id (fun _ ↦ ⟨rfl, rfl⟩) hlanes i _ hdone rfl

end Driver

end Transceiver
