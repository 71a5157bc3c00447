import Transceiver.Simulation.Modules
import Transceiver.Proofs.Conduct.Driver
import Transceiver.Proofs.Devices

/-!
# Confinement of a driver to the devices of its cage

A driver talks to the device of its cage, to the devices of a module that it takes for one, and to
no others, unless its caller names one.  Main statement: so it is in every run, but for reads of two
bytes of the standard device of the serial ID, which are meant for the module in the cage and miss
it if that is configured at another device.
-/

namespace Transceiver

variable {T : Transaction → Prop}

/-! ## QSFP cages -/

/-- The datapath is controlled by a byte of the device of the cage. -/
theorem DoubleDensity.datapathControl?_device {revision : UInt8} {a : Address}
    (h : datapathControl? revision = some a) : a.device = .auto := by
  unfold datapathControl? at h
  split at h
  · cases h
    rfl
  · split at h
    · cases h
      rfl
    · cases h

/-- Thresholds lie in the device of the cage. -/
theorem Layout.thresholdDevice_eq (category : Category) (revision : UInt8) :
    (Layout.of category revision).map.thresholdDevice = .auto := by
  rcases of_cases category revision with h | h | h | h <;> rw [h] <;> rfl

namespace Qsfp

instance (q : Qsfp) [h : Admits T q.cage.address] : Admits T q.eeprom.address := h

variable (q : Qsfp) [Admits T q.cage.address]

/-- A module in the cage is asked itself whether it has pages. -/
theorem pagingSupported_sending : q.eeprom.selected.pagingSupported.MadeOf (Sending T) :=
  Selected.pagingSupported_sending _ nofun

theorem read_sending {a : Address} (ha : a.device = .auto) (length : Nat) :
    (q.eeprom.selected.read a length).MadeOf (Sending T) :=
  Selected.read_sending _ ha (fun _ ↦ q.pagingSupported_sending) length

theorem write_sending {a : Address} (ha : a.device = .auto) (data : List UInt8) :
    (q.eeprom.selected.write a data).MadeOf (Sending T) :=
  Selected.write_sending _ ha (fun _ ↦ q.pagingSupported_sending) data

theorem moduleInit_sending (present : Bool) : (q.moduleInit present).MadeOf (Sending T) := by
  refine moduleInit_madeOf_of (q.discover_madeOf_of ?_ fun a ha ↦ ?_) present
  · exact homePage_madeOf _ q.pagingSupported_sending (Selected.selectPage_sending _ _)
  · have hdevice := DoubleDensity.datapathControl?_device ha
    exact powerUpDatapath_madeOf _ (q.write_sending hdevice _)
      (.bind (q.read_sending hdevice 1) fun b ↦ .pure (byteIn b))

/-- The operations on the cage that reach a PHY do so behind the mux of a breakout. -/
theorem serveCage_sending {op : Operation} (hop : op.NamesNoDevice)
    (hphy : op.route = .adapted → Admits T CopperPhy.breakoutMux ∧ Admits T CopperPhy.device) :
    (q.serveCage op).MadeOf (Sending T) := by
  refine q.serveCage_madeOf_of (fun hroute ↦ ?_) q.pagingSupported_sending (fun t a ha ↦ ?_)
    ?_ ?_ ?_
  · obtain ⟨_, _⟩ := hphy hroute
    exact ⟨inferInstance, inferInstance⟩
  · dsimp only [MemoryMap.thresholdAddress?] at ha
    obtain ⟨-, ha⟩ := Option.ite_none_right_eq_some.mp ha
    cases ha
    exact .bind (q.read_sending (Layout.thresholdDevice_eq _ _) 2) fun b ↦ .pure (wordIn b)
  · rintro a length rfl
    exact q.session_madeOf (q.read_sending hop length)
  · rintro a data rfl
    exact q.session_madeOf (q.write_sending hop data)
  · rintro offset data rfl
    exact q.session_madeOf (q.write_sending rfl data)

end Qsfp

/-! ## Devices of a driver -/

/-- The transaction goes to one of some devices, or is one of some others. -/
def Within (devices : List UInt8) (others : List Transaction) (t : Transaction) : Prop :=
  t.device ∈ devices ∨ t ∈ others

section Within

variable {others : List Transaction}

theorem Admits.within {device : UInt8} {devices : List UInt8} (h : device ∈ devices) :
    Admits (Within devices others) device :=
  ⟨fun _ _ ↦ .inl h, fun _ _ ↦ .inl h⟩

namespace Sfp

/-- The devices of an SFP cage: its own, the diagnostics and the PHY of a copper module. -/
def devices (s : Sfp) : List UInt8 := [s.cage.address, diagnosticDevice, CopperPhy.device]

variable (s : Sfp)

theorem serve_within {op : Operation} (hop : op.NamesNoDevice)
    (hprobes : ∀ t ∈ op.probes, t ∈ others) :
    (s.serve op).MadeOf (Sending (Within s.devices others)) :=
  have : Admits (Within s.devices others) s.cage.address := .within (by simp [devices])
  have : Admits (Within s.devices others) diagnosticDevice := .within (by simp [devices])
  have : Admits (Within s.devices others) CopperPhy.device := .within (by simp [devices])
  s.serve_sending hop fun t ht ↦ .inr (hprobes t ht)

theorem chain_within (ps : List Packet) :
    (s.chain ps).MadeOf (Sending (Within s.devices others)) :=
  have : Admits (Within s.devices others) diagnosticDevice := .within (by simp [devices])
  s.chain_madeOf ps

end Sfp

namespace Qsfp

/-- The devices of a QSFP cage: its own, and those of the module in an adapter, or else the mux and
the PHYs of a breakout. -/
def devices (q : Qsfp) : List UInt8 :=
  if q.found.adapted then [q.cage.address, diagnosticDevice, CopperPhy.device]
  else [q.cage.address, CopperPhy.breakoutMux, CopperPhy.device]

/-- What is asked of the standard device of the serial ID, for a module in an adapter. -/
def probes (q : Qsfp) (op : Operation) : List Transaction :=
  if q.found.adapted = true ∧ op.route = .adapted then op.probes else []

variable (q : Qsfp)

theorem address_mem_devices : q.cage.address ∈ q.devices := by
  unfold devices
  split <;> simp

theorem devices_of_adapter {s : Sfp} (h : q.adapter? = some s) :
    q.found.adapted = true ∧ q.devices = s.devices := by
  have hadapted := adapted_of_adapter? h
  cases adapter?_eq_some h
  exact ⟨hadapted, if_pos hadapted⟩

theorem devices_of_no_adapter (h : q.adapter? = none) :
    q.devices = [q.cage.address, CopperPhy.breakoutMux, CopperPhy.device] :=
  if_neg (not_adapted_of_adapter? h ▸ Bool.false_ne_true)

theorem serve_within {op : Operation} (hop : op.NamesNoDevice)
    (hprobes : ∀ t ∈ q.probes op, t ∈ others) :
    (q.serve op).MadeOf (Sending (Within q.devices others)) := by
  have haddress : Admits (Within q.devices others) q.cage.address :=
    .within q.address_mem_devices
  unfold serve
  split
  · rename_i s hs hroute
    obtain ⟨hadapted, hdevices⟩ := q.devices_of_adapter hs
    rw [hdevices]
    refine s.serve_within hop fun t ht ↦ hprobes t ?_
    rwa [Qsfp.probes, if_pos ⟨hadapted, hroute⟩]
  · exact .throw _
  · rename_i hnone hrefused
    -- what a module in an adapter would do gets to the cage only if there is no adapter
    refine q.serveCage_sending hop fun hroute ↦ ?_
    have hdevices : q.devices = [q.cage.address, CopperPhy.breakoutMux, CopperPhy.device] := by
      refine q.devices_of_no_adapter ?_
      cases hs : q.adapter? with
      | none => rfl
      | some s => exact absurd hroute (hnone s hs)
    rw [hdevices]
    exact ⟨.within (by simp), .within (by simp)⟩

theorem perform_within {op : Operation} (hop : op.NamesNoDevice) :
    (q.perform op).MadeOf (Sending (Within q.devices (q.probes op))) := by
  have haddress : Admits (Within q.devices (q.probes op)) q.cage.address :=
    .within q.address_mem_devices
  cases op with
  | moduleInit present => exact q.moduleInit_sending present
  | _ => exact keeping_madeOf q (q.serve_within hop fun _ ht ↦ ht)

theorem chain_within (ps : List Packet) :
    (q.chain ps).MadeOf (Sending (Within q.devices others)) := by
  unfold chain
  split
  · rename_i s hs
    rw [(q.devices_of_adapter hs).2]
    exact s.chain_within ps
  · exact .done _

end Qsfp

namespace SubPort

variable (p : SubPort)

theorem serve_within {op : Operation} (hop : op.NamesNoDevice) :
    (p.serve op).MadeOf (Sending (Within p.inner.devices (p.inner.probes op))) := by
  cases op with
  | presence =>
    have haddress : Admits (Within p.inner.devices (p.inner.probes .presence))
        p.inner.cage.address := .within p.inner.address_mem_devices
    exact p.presence_madeOf
  | channelMonitorStatus _ _ | channelStatus _ _ | txControl _ _ | txControlStatus _
  | cdrSet _ _ | cdrStatus _ | channelMonitor _ _ | extRateSelect _ _ _ | phyAutonegSet _ _ _
  | phyModeSet _ _ _ | phySpeedSet _ _ _ | phyLinkStatus _ _ | phyPowerDown _ _ _
  | phySerdesControl _ _ _ =>
    exact .bind (.liftExcept _) fun c ↦ p.inner.serve_within trivial fun _ ht ↦ ht
  | _ => exact p.inner.serve_within hop fun _ ht ↦ ht

theorem perform_within {op : Operation} (hop : op.NamesNoDevice) :
    (p.perform op).MadeOf (Sending (Within p.inner.devices (p.inner.probes op))) := by
  cases op with
  | moduleInit present =>
    have haddress : Admits (Within p.inner.devices (p.inner.probes (.moduleInit present)))
        p.inner.cage.address := .within p.inner.address_mem_devices
    exact .bind (p.inner.moduleInit_sending present) fun _ ↦ .done _
  | _ => exact keeping_madeOf p (p.serve_within hop)

end SubPort

end Within

namespace Driver

/-- The devices of the cage of a driver. -/
def devices : Driver → List UInt8
  | .sfp s => s.devices
  | .qsfp q => q.devices
  | .subPort p => p.inner.devices

/-- What is asked of the standard device of the serial ID, for an SFP module. -/
def probes (v : Driver) (op : Operation) : List Transaction :=
  match v with
  | .sfp _ => op.probes
  | .qsfp q => q.probes op
  | .subPort p => p.inner.probes op

variable (v : Driver)

theorem address_mem_devices : v.cage.address ∈ v.devices := by
  cases v with
  | sfp s => exact .head _
  | qsfp q => exact q.address_mem_devices
  | subPort p => exact p.inner.address_mem_devices

theorem device_of_mem_probes {op : Operation} {t : Transaction} (h : t ∈ v.probes op) :
    t.device = serialDevice := by
  have hqsfp {q : Qsfp} (h : t ∈ q.probes op) : t ∈ op.probes := by
    unfold Qsfp.probes at h
    split at h
    · exact h
    · cases h
  cases v with
  | sfp s => exact op.device_of_mem_probes h
  | qsfp q => exact op.device_of_mem_probes (hqsfp h)
  | subPort p => exact op.device_of_mem_probes (hqsfp h)

theorem perform_within {op : Operation} (hop : op.NamesNoDevice) :
    (v.perform op).MadeOf (Sending (Within v.devices (v.probes op))) := by
  cases v with
  | sfp s =>
    exact .bind (keeping_madeOf s (s.serve_within hop fun _ ht ↦ ht)) fun _ ↦ .done _
  | qsfp q => exact .bind (q.perform_within hop) fun _ ↦ .done _
  | subPort p => exact .bind (p.perform_within hop) fun _ ↦ .done _

theorem chain_within (ps : List Packet) :
    (v.chain ps).MadeOf (Sending (Within v.devices [])) := by
  cases v with
  | sfp s => exact s.chain_within ps
  | qsfp q => exact q.chain_within ps
  | subPort p => exact p.inner.chain_within ps

/-- Whatever is answered, all transactions of a driver whose caller names no device go to the
devices of its cage.  Where that is not configured at the standard device of the serial ID there may
be reads of one or two bytes of this device besides, for a page of an SFP module or to tune it. -/
theorem transactions_confined {σ : Type} (env : Environment σ) (s : σ) :
    (∀ op : Operation, op.NamesNoDevice → ∀ t ∈ ((v.perform op).trace env s).transactions,
      t.device ∈ v.devices ∨ v.cage.address ≠ serialDevice ∧ t ∈ v.probes op) ∧
    ∀ ps, ∀ t ∈ ((v.chain ps).trace env s).transactions, t.device ∈ v.devices := by
  constructor
  · intro op hop t ht
    obtain hdevice | hprobe := (v.perform_within hop).forall_transactions env s t ht
    · exact .inl hdevice
    · by_cases haddress : v.cage.address = serialDevice
      -- a cage at the standard device is asked about its own module
      · left
        rw [v.device_of_mem_probes hprobe, ← haddress]
        exact v.address_mem_devices
      · exact .inr ⟨haddress, hprobe⟩
  · intro ps t ht
    exact ((v.chain_within ps).forall_transactions env s t ht).resolve_right nofun

/-- A page of a QSFP module at `0x52` is read without a transaction at the standard device. -/
theorem transactions_confined_qsfp :
    let c : Cage := {
      instanceId := 0, name := "port0", family := .qsfp, portType := .qsfp, address := 0x52
      selector := ⟨none, none⟩, selectDelay := .zero, presence := ⟨⟨"control", 0⟩, 0⟩
      reset := none, resetDelay := .zero, lowPower := none, txControl := none, rxLoss := none
      txFault := none, portLed := none, defaultSpeedMbps := none, channelOffset := 0
      maxPowerMw := 3500 }
    let v : Driver := .qsfp (.ofCage c)
    let b : Bench := ⟨Segment.blank.addQsfpDD 0x52 0x30, fun _ ↦ .ofLevel 1⟩
    let op : Operation := .readGeneric ⟨.auto, .select 2, 128⟩ 1
    op.NamesNoDevice ∧
      ∀ t ∈ ((v.perform op).trace Bench.answer b).transactions, t.device ∈ [0x52, 0x74, 0x56] := by
  intro c v b op
  refine ⟨rfl, fun t ht ↦ ?_⟩
  exact ((v.transactions_confined Bench.answer b).1 op rfl t ht).resolve_right fun h ↦ nomatch h.2

/-- For the page of an SFP module at `0x52` the standard device is asked, and the read fails with a
module that is there and without one at the standard device. -/
theorem not_transactions_confined_options :
    let c : Cage := {
      instanceId := 0, name := "port0", family := .sfp, portType := .sfp, address := 0x52
      selector := ⟨none, none⟩, selectDelay := .zero, presence := ⟨⟨"control", 0⟩, 0⟩
      reset := none, resetDelay := .zero, lowPower := none, txControl := none, rxLoss := none
      txFault := none, portLed := none, defaultSpeedMbps := none, channelOffset := 0
      maxPowerMw := 3500 }
    let v : Driver := .sfp (.ofCage c)
    let b : Bench := ⟨(Segment.blank.addModule 0x52).poke 0x52 0 0 [3], fun _ ↦ .ofLevel 1⟩
    let op : Operation := .readGeneric ⟨.auto, .select 2, 0⟩ 1
    op.NamesNoDevice ∧
      ((v.perform op).trace Bench.answer b).transactions = [.read 0x50 64 1] ∧
      (0x50 : UInt8) ∉ v.devices ∧
      ((v.perform op).value Bench.answer b).1 = .error (.bus 0x50 64 .notAcknowledged) := by
  intro c v b op
  refine ⟨rfl, ?_, by decide, ?_⟩
  · decide +kernel
  · dsimp only [v, b, c, op]
    rfl

end Driver

end Transceiver
