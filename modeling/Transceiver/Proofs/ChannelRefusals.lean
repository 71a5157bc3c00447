import Transceiver.Proofs.Absence
import Transceiver.Proofs.Configuration
import Transceiver.Proofs.ExactArithmetic
import Transceiver.Proofs.LaneLocality

/-!
# Monitors of channels

A driver refuses the monitor of a channel that it does not have as a bad argument, before anything
is done.  That of a channel that it has may fail in many ways, but never in this one: neither the
bus nor the lines tell of bad arguments, and what the driver asks of the module for a channel lies
within the device.  Only a presence line that its group does not have spoils this.
-/

namespace Transceiver

variable {α : Type}

/-! ## Lines and sessions -/

/-- In some surroundings a read of the line succeeds. -/
def Line.Readable (l : Line) : Prop :=
  ∃ (σ : Type) (env : Environment σ) (s : σ) (on : Bool), l.read.run.value env s = .ok on

/-- The group of a line that can be read has it. -/
theorem Line.Readable.bit_lt {l : Line} (h : l.Readable) : l.bit < 32 := by
  obtain ⟨σ, env, s, on, hon⟩ := h
  refine Decidable.byContradiction fun hbit ↦ ?_
  obtain ⟨reason, hmask⟩ : ∃ reason, l.mask = .error (.invalidArgument reason) :=
    ⟨_, if_neg hbit⟩
  have hget : l.get.run.Returns (· ≠ .ok on) := by
    unfold get
    rw [hmask]
    exact .done nofun
  have htolerant : Tolerant (· ≠ (.ok on : Except Error Bool)) := fun _ _ ↦ nofun
  exact l.group.hold_returns htolerant hget σ env s hon

theorem Selector.under_accepted (t? : Option SelectTarget) {body : Procedure α}
    (h : body.Accepted) : (under t? body).Accepted := by
  cases t? with
  | none => exact h
  | some t => exact t.group.hold_accepted (.bind (t.group.writeLevel_accepted _) fun _ ↦ h)

/-- A session accepts what is done in it if its presence line can be accessed. -/
theorem Eeprom.session_accepted {e : Eeprom} {line : Line} (he : e.presence = some line)
    (hline : line.bit < 32) {body : Selected → Procedure α} (h : ∀ m, (body m).Accepted) :
    (e.session body).Accepted := by
  have hvisit : (e.selector.during (do
      settle e.settleTime
      body ⟨e.address, e.scheme⟩)).Accepted :=
    Selector.under_accepted _ (Selector.under_accepted _ (.bind (.lift _) fun _ ↦ h _))
  unfold session
  rw [he]
  exact .bind (Line.accessible_iff.mpr hline).1 fun _ ↦
    .ite hvisit (.bind (.throw id) fun _ ↦ hvisit)

/-! ## The memory of a module -/

theorem Bus.read_accepted (device offset : UInt8) (length : Nat) :
    (Bus.read device offset length).Accepted := by
  refine Program.Returns.bind (.trivial _) fun r _ ↦ ?_
  cases r with
  | ok _ => exact .done trivial
  | error fault => exact .done id

namespace Selected

variable (m : Selected) {a : Address} (ha : a.page = .ignore)
include ha

theorem read_accepted {length : Nat} (h : a.offset.toNat + length ≤ addressSpace) :
    (m.read a length).Accepted := by
  unfold read
  rw [checkRange_bind h, paged_unpaged ha]
  exact Bus.read_accepted _ _ _

theorem readByte_accepted : (m.readByte a).Accepted :=
  .bind (m.read_accepted ha a.offset.toNat_lt) fun _ ↦ .pure _

theorem readWord_accepted (h : a.offset.toNat + 2 ≤ addressSpace) : (m.readWord a).Accepted :=
  .bind (m.read_accepted ha h) fun _ ↦ .pure _

end Selected

/-! ## Lanes -/

namespace Lane

variable {channel channels : UInt8}

theorem check_of_lt (h : channel < channels) : check channel channels = .ok ⟨channel, h⟩ :=
  dif_pos h

theorem check_of_not_lt (h : ¬ channel < channels) :
    ∃ reason, check channel channels = .error (.invalidArgument reason) := ⟨_, dif_neg h⟩

end Lane

/-! ## SFP cages -/

namespace Sfp

section Reading

variable (m : Selected)

theorem calibrationKind_accepted : (calibrationKind m).Accepted := by
  have hkind (kind : UInt8) : Procedure.Accepted (do
      if hasBit kind SfpMap.externalCalBit then return CalibrationKind.external
      if hasBit kind SfpMap.internalCalBit then return .internal
      report .debug "module reports no calibration type" [("diag_mon_type", toString kind)]
      throw .notSupported) :=
    .ite (.pure _) (.ite (.pure _) (.bind (.lift _) fun _ ↦ .throw id))
  exact .bind (m.readByte_accepted rfl) fun kind ↦
    .ite (hkind kind) (.bind (.throw id) fun _ ↦ hkind kind)

theorem linearReading_accepted {K : Type} [Scalar K] (kind : CalibrationKind)
    (q : LinearQuantity) (w : UInt16) : (linearReading (K := K) m kind q w).Accepted := by
  refine .bind ?_ fun _ ↦ .pure _
  cases kind with
  | internal => exact .pure _
  | external =>
    refine .bind (m.read_accepted rfl ?_) fun _ ↦ .pure _
    cases q <;> decide

theorem reading_accepted (kind : CalibrationKind) (q : Quantity) (w : UInt16) :
    (reading m kind q w).Accepted := by
  cases q with
  | temperature => exact linearReading_accepted m kind _ w
  | voltage => exact linearReading_accepted m kind _ w
  | txBias => exact linearReading_accepted m kind _ w
  | txPower => exact .map (linearReading_accepted m kind _ w)
  | rxPower =>
    refine .bind ?_ fun _ ↦ .pure _
    cases kind with
    | internal => exact .pure _
    | external => exact .bind (m.read_accepted rfl (by decide)) fun _ ↦ .pure _

end Reading

variable {s : Sfp}

theorem monitor_accepted (hs : s.cage.presence.bit < 32) (q : Quantity) :
    (s.monitor q).Accepted := by
  have hword : (Address.diagnostic (monitorOffset q)).offset.toNat + 2 ≤ addressSpace := by
    cases q <;> decide
  have hpresence : s.eeprom.presence = some s.cage.presence := rfl
  unfold monitor measure session
  refine Eeprom.session_accepted hpresence hs fun m ↦ ?_
  refine .bind (calibrationKind_accepted m) fun kind ↦ ?_
  exact .bind (m.readWord_accepted rfl hword) fun w ↦ reading_accepted m kind q w

theorem channelMonitor_accepted (hs : s.cage.presence.bit < 32) {c : UInt8} (hc : c < channels)
    (q : ChannelMonitor) : (s.channelMonitor c q).Accepted := by
  unfold channelMonitor
  rw [Lane.check_of_lt hc]
  exact .bind (.liftExcept trivial) fun _ ↦ monitor_accepted hs _

theorem channelMonitor_eq_throw (s : Sfp) {c : UInt8} (hc : ¬ c < channels) (q : ChannelMonitor) :
    ∃ reason, s.channelMonitor c q = throw (.invalidArgument reason) := by
  obtain ⟨reason, hreason⟩ := Lane.check_of_not_lt hc
  refine ⟨reason, ?_⟩
  unfold channelMonitor
  rw [hreason]
  rfl

end Sfp

/-! ## QSFP cages -/

namespace Qsfp

variable {q : Qsfp}

theorem monitor_accepted (hq : q.cage.presence.bit < 32) {offset : UInt8}
    (hword : offset.toNat + 2 ≤ addressSpace) (quantity : Quantity) :
    (q.monitor offset quantity).Accepted :=
  .bind (Eeprom.session_accepted rfl hq fun m ↦ m.readWord_accepted rfl hword) fun _ ↦ .pure _

/-- The words of all lanes lie within the device. -/
theorem channelWord_le (q : Qsfp) {monitor : ChannelMonitor} {base : UInt8}
    (hbase : monitorBase? q.layout monitor = some base) (lane : Lane q.layout.channels) :
    (channelWord base lane.channel).toNat + 2 ≤ addressSpace := by
  have hfits := (Layout.of_fits q.found.category q.found.revision).word monitor base hbase
  have hlane : lane.channel.toNat <
      (Layout.of q.found.category q.found.revision).channels.toNat := lane.toNat_lt
  have htwo : (2 : UInt8).toNat = 2 := rfl
  unfold channelWord addressSpace
  rw [UInt8.toNat_add, UInt8.toNat_mul, htwo]
  omega

theorem channelMonitor_accepted (hq : q.cage.presence.bit < 32) {c : UInt8}
    (hc : c < q.layout.channels) (monitor : ChannelMonitor) :
    (q.channelMonitor c monitor).Accepted := by
  unfold channelMonitor lane
  rw [Lane.check_of_lt hc]
  refine .bind (.liftExcept trivial) fun lane ↦ ?_
  cases hbase : monitorBase? q.layout monitor with
  | none => exact .throw id
  | some base => exact monitor_accepted hq (q.channelWord_le hbase lane) _

theorem serve_channelMonitor (q : Qsfp) (c : UInt8) (monitor : ChannelMonitor) :
    q.serve (.channelMonitor c monitor) =
      if q.found.adapted then (Sfp.ofCage q.cage.adapted).channelMonitor c monitor
      else q.channelMonitor c monitor := by
  unfold serve adapter?
  cases q.found.adapted <;> rfl

theorem serve_channelMonitor_accepted (hq : q.cage.presence.bit < 32) {c : UInt8}
    (hc : c < q.lanes) (monitor : ChannelMonitor) :
    (q.serve (.channelMonitor c monitor)).Accepted := by
  rw [serve_channelMonitor]
  unfold lanes at hc
  split at hc
  · rename_i hadapted
    rw [if_pos hadapted]
    exact Sfp.channelMonitor_accepted hq hc monitor
  · rename_i hadapted
    rw [if_neg hadapted]
    exact channelMonitor_accepted hq hc monitor

theorem serve_channelMonitor_eq_throw (q : Qsfp) {c : UInt8} (hc : ¬ c < q.lanes)
    (monitor : ChannelMonitor) :
    ∃ reason, q.serve (.channelMonitor c monitor) = throw (.invalidArgument reason) := by
  unfold lanes at hc
  split at hc
  · rename_i hadapted
    rw [serve_channelMonitor, if_pos hadapted]
    exact Sfp.channelMonitor_eq_throw _ hc monitor
  · rename_i hadapted
    have hfound : q.found.adapted = false := Bool.eq_false_of_not_eq_true hadapted
    exact q.ask_serve_refused hfound (r := .monitor monitor) trivial (UInt8.not_lt.mp hc)

end Qsfp

/-! ## Logical ports -/

namespace SubPort

variable {p : SubPort} {c : UInt8}

theorem toNat_add_offset (h : c.toNat + p.offset.toNat < 256) :
    (c + p.offset).toNat = c.toNat + p.offset.toNat := by
  rw [UInt8.toNat_add]
  exact Nat.mod_eq_of_lt h

theorem serve_channelMonitor_accepted (hp : p.inner.cage.presence.bit < 32)
    (hc : p.HasChannel c) (monitor : ChannelMonitor) :
    (p.serve (.channelMonitor c monitor)).Accepted := by
  have hsum := toNat_add_offset (Nat.lt_trans hc p.inner.lanes.toNat_lt)
  have hlane : c + p.offset < p.inner.lanes := by
    rw [UInt8.lt_iff_toNat_lt, hsum]
    exact hc
  have hserve : p.serve (.channelMonitor c monitor) =
      p.inner.serve (.channelMonitor (c + p.offset) monitor) :=
    p.ask_serve_of_channel hsum (.monitor monitor)
  rw [hserve]
  exact Qsfp.serve_channelMonitor_accepted hp hlane monitor

/-- A channel that the port does not have is refused, also where there is no such number. -/
theorem serve_channelMonitor_eq_throw (hc : ¬ p.HasChannel c) (monitor : ChannelMonitor) :
    ∃ reason, p.serve (.channelMonitor c monitor) = throw (.invalidArgument reason) := by
  by_cases hlt : c.toNat + p.offset.toNat < 256
  · have hsum := toNat_add_offset hlt
    have hmissing : ¬ c + p.offset < p.inner.lanes := by
      rw [UInt8.lt_iff_toNat_lt, hsum]
      exact hc
    have hserve : p.serve (.channelMonitor c monitor) =
        p.inner.serve (.channelMonitor (c + p.offset) monitor) :=
      p.ask_serve_of_channel hsum (.monitor monitor)
    rw [hserve]
    exact p.inner.serve_channelMonitor_eq_throw hmissing monitor
  · have hlast : 255 < c.toNat + p.offset.toNat := by omega
    exact p.ask_serve_refused (r := .monitor monitor) (.inl hlast)

end SubPort

/-! ## Drivers -/

namespace Driver

/-- What a driver does for the monitor of a channel. -/
def channelMonitor (v : Driver) (c : UInt8) (monitor : ChannelMonitor) : Procedure Float :=
  match v with
  | .sfp s => s.channelMonitor c monitor
  | .qsfp q => q.serve (.channelMonitor c monitor)
  | .subPort p => p.serve (.channelMonitor c monitor)

variable {v : Driver} {c : UInt8}

theorem channelMonitor_accepted (hv : v.cage.presence.Readable) (hc : v.HasChannel c)
    (monitor : ChannelMonitor) : (v.channelMonitor c monitor).Accepted := by
  cases v with
  | sfp s => exact Sfp.channelMonitor_accepted hv.bit_lt hc monitor
  | qsfp q => exact Qsfp.serve_channelMonitor_accepted hv.bit_lt hc monitor
  | subPort p => exact SubPort.serve_channelMonitor_accepted hv.bit_lt hc monitor

theorem channelMonitor_eq_throw (hc : ¬ v.HasChannel c) (monitor : ChannelMonitor) :
    ∃ reason, v.channelMonitor c monitor = throw (.invalidArgument reason) := by
  cases v with
  | sfp s => exact s.channelMonitor_eq_throw hc monitor
  | qsfp q => exact q.serve_channelMonitor_eq_throw hc monitor
  | subPort p => exact SubPort.serve_channelMonitor_eq_throw hc monitor

end Driver

end Transceiver
