import Transceiver.Driver.Sfp
import Transceiver.Proofs.Conduct.Operation
import Transceiver.Proofs.Conduct.Phy

/-!
# What the driver of an SFP cage does

Every operation of the driver is made of the parts of an operation, and all writes to the module but
the raw ones spare the byte that selects a page.
-/

namespace Transceiver

variable {part : Parts} {A : Action → Prop}

/-! ## Tuning -/

namespace Tuning

variable (m : Selected)

section Query

variable [part.Includes Action.IsQuery]

theorem isTunable_madeOf : (isTunable m).MadeOf part :=
  .bind (Selected.readByte_unpaged_madeOf rfl) fun _ ↦ .pure _

end Query

theorem requirePaged_madeOf (htunable : (isTunable m).MadeOf part)
    (hpaging : m.pagingSupported.MadeOf part) : (requirePaged m).MadeOf part :=
  .bind htunable fun _ ↦ .require <| .bind hpaging fun _ ↦ .ite (.pure ()) (.throw _)

section Diagnostics

variable [part.Includes (Action.ReadsFrom diagnosticDevice)]

theorem readGrid_madeOf : (readGrid m).MadeOf part := by
  refine .bind (Selected.readByte_unpaged_madeOf rfl) fun flags ↦
    .bind (Selected.read_unpaged_madeOf rfl 10) fun block ↦ ?_
  split
  · exact .pure _
  · exact .throw _

theorem awaitSettled_madeOf [part.Includes Action.IsIdle] (t : TuningTiming) (n : Nat) :
    (awaitSettled m t n).MadeOf part := by
  induction n with
  | zero => exact .throw _
  | succ n ih =>
    refine .bind (Selected.readByte_unpaged_madeOf rfl) fun now ↦
      .bind (Selected.readByte_unpaged_madeOf rfl) fun latched ↦ ?_
    dsimp only
    split
    · exact .pure ()
    · split
      · exact .bind (.lift (report_madeOf _ _ _)) fun _ ↦ .bind (.throw _) fun _ ↦
          .bind (.lift (settle_madeOf _)) fun _ ↦ ih
      · exact .bind (.lift (settle_madeOf _)) fun _ ↦ ih

end Diagnostics

theorem request_madeOf [part.Includes (Action.SparesPageOf diagnosticDevice)] (g : Grid Float)
    (nm thz : Float) : (request m g nm thz).MadeOf part :=
  .ite (.bind (Selected.writeWord_unpaged_madeOf rfl (by decide) _) fun _ ↦ .pure _) <|
    .ite (.bind (Selected.writeWord_unpaged_madeOf rfl (by decide) _) fun _ ↦ .pure _) (.throw _)

/-- The module is tuned on a page of the diagnostics. -/
theorem setWavelength_madeOf_onPage (inner : Parts) [inner.Includes Action.IsIdle]
    [inner.Includes (Action.SparesPageOf diagnosticDevice)]
    (hrequire : (requirePaged m).MadeOf part)
    (hpage : ∀ {α : Type} {body : Procedure α}, body.MadeOf inner →
      (Selected.onPage diagnosticDevice SfpMap.Tuning.page body).MadeOf part)
    (t : TuningTiming) (nm : Float) : (setWavelength m t nm).MadeOf part :=
  .refuse <| .bind hrequire fun _ ↦ hpage <| .bind (readGrid_madeOf m) fun g ↦ .require <|
    .bind (request_madeOf m g nm _) fun _ ↦ .bind (.lift (report_madeOf _ _ _)) fun _ ↦
    .bind (awaitSettled_madeOf m t _) fun _ ↦ .pure _

theorem setWavelength_madeOf [(Single A).Includes Action.SparesPage] (t : TuningTiming)
    (nm : Float) : (setWavelength m t nm).MadeOf (SessionPart A) :=
  setWavelength_madeOf_onPage m (Single A)
    (requirePaged_madeOf m (isTunable_madeOf m) m.pagingSupported_madeOf)
    (fun h ↦ Program.MadeOf.part (.onPage _ _ h)) t nm

theorem setTargetWavelength_madeOf [part.Includes (Action.SparesPageOf diagnosticDevice)]
    (htunable : (isTunable m).MadeOf part) (nm : Float) :
    (setTargetWavelength m nm).MadeOf part :=
  .bind htunable fun _ ↦ .require <| Selected.writeWord_unpaged_madeOf rfl (by decide) _

end Tuning

namespace Sfp

/-! ## In a session -/

section Query

variable (m : Selected)

section Serial

variable [part.Includes (Action.ReadsFrom m.address)]

theorem enhancedOptions_madeOf : (enhancedOptions m).MadeOf part := m.lowerByte_madeOf _

theorem requireAlarms_madeOf : (requireAlarms m).MadeOf part :=
  .bind (enhancedOptions_madeOf m) fun _ ↦ .ite (.pure ()) (.throw _)

theorem requireSoftTxDisable_madeOf : (requireSoftTxDisable m).MadeOf part :=
  .bind (enhancedOptions_madeOf m) fun _ ↦ .ite (.pure ()) (.throw _)

theorem calibrationKind_madeOf [part.Includes Action.IsIdle] : (calibrationKind m).MadeOf part :=
  .bind (m.lowerByte_madeOf _) fun _ ↦ .require <| .ite (.pure _) <| .ite (.pure _) <|
    .bind (.lift (report_madeOf _ _ _)) fun _ ↦ .throw _

end Serial

section Diagnostics

variable [part.Includes (Action.ReadsFrom diagnosticDevice)]

theorem linearReading_madeOf {K : Type} [Scalar K] (kind : CalibrationKind) (q : LinearQuantity)
    (w : UInt16) : (linearReading (K := K) m kind q w).MadeOf part := by
  refine .bind ?_ fun _ ↦ .pure _
  cases kind with
  | internal => exact .pure _
  | external => exact .bind (Selected.read_unpaged_madeOf rfl 4) fun _ ↦ .pure _

theorem rxPowerCalibration_madeOf (kind : CalibrationKind) :
    (rxPowerCalibration m kind).MadeOf part := by
  cases kind with
  | internal => exact .pure _
  | external => exact .bind (Selected.read_unpaged_madeOf rfl _) fun _ ↦ .pure _

theorem reading_madeOf (kind : CalibrationKind) (q : Quantity) (w : UInt16) :
    (reading m kind q w).MadeOf part := by
  cases q with
  | temperature => exact linearReading_madeOf m kind _ w
  | voltage => exact linearReading_madeOf m kind _ w
  | txBias => exact linearReading_madeOf m kind _ w
  | txPower => exact .map (linearReading_madeOf m kind _ w)
  | rxPower => exact .bind (rxPowerCalibration_madeOf m kind) fun _ ↦ .pure _

theorem flagByte_madeOf {k : Subject} (flags wanted : Flags k) (offset : UInt8) :
    (flagByte m flags wanted offset).MadeOf part :=
  .ite (Selected.readByte_unpaged_madeOf rfl) (.pure 0)

theorem softStatus_madeOf [part.Includes (Action.ReadsFrom m.address)] :
    (softStatus m).MadeOf part :=
  .bind (enhancedOptions_madeOf m) fun _ ↦ .ite (.pure _) <|
    .bind (Selected.readByte_unpaged_madeOf rfl) fun _ ↦ .pure _

end Diagnostics

end Query

/-! ## Operations -/

instance (s : Sfp) [part.Visits s.cage] : part.Hosts (SessionPart Action.IsQuery) s.eeprom :=
  Parts.Visits.hosts rfl rfl

instance (s : Sfp) : (OperationPart s.cage A).Hosts (SessionPart A) s.eeprom :=
  OperationPart.hosts rfl rfl

theorem condition_madeOf (hline : ∀ l : Line, l.read.MadeOf part) (line : Option Line)
    (soft : SoftStatus) (supportBit stateBit : Bit) :
    (condition line soft supportBit stateBit).MadeOf part := by
  unfold condition
  split
  · exact hline _
  · split
    · exact .ite (.pure _) (.throw _)
    · exact .throw _

theorem flagIf_madeOf (flags flag : ChannelStatus) {holds : Procedure Bool}
    (h : holds.MadeOf part) : (flagIf flags flag holds).MadeOf part :=
  .ite (.bind h fun _ ↦ .ite (.pure _) (.pure _)) (.pure _)

section Operations

variable {inner : Parts} (s : Sfp)

/-- The conditions of the channel are those of lines, or those that the module tells. -/
theorem channelStatus_madeOf_of (hline : ∀ l : Line, l.read.MadeOf part)
    (hsoft : (s.session softStatus).MadeOf part) (channel : UInt8) (flags : ChannelStatus) :
    (s.channelStatus channel flags).MadeOf part := by
  have hcondition (flag : ChannelStatus) (line : Option Line) (soft : SoftStatus)
      (supportBit stateBit : Bit) :
      (flagIf flags flag (condition line soft supportBit stateBit)).MadeOf part :=
    flagIf_madeOf _ _ (condition_madeOf hline _ _ _ _)
  have hrest (soft : SoftStatus) := Procedure.MadeOf.bind
    (hcondition ChannelStatus.txDisable s.cage.txControl soft SfpMap.softTxDisableBit
      SfpMap.txDisableStateBit) fun disabled ↦
    .bind (hcondition ChannelStatus.txFault s.cage.txFault soft SfpMap.softTxFaultBit
      SfpMap.txFaultStateBit) fun fault ↦
    .bind (hcondition ChannelStatus.rxLoss s.cage.rxLoss soft SfpMap.softRxLossBit
      SfpMap.rxLossStateBit) fun loss ↦ .pure (disabled ||| fault ||| loss)
  exact .bind (.liftExcept _) fun _ ↦ .refuse <| .ite (.bind (.pure _) hrest) (.bind hsoft hrest)

theorem ledSet_madeOf [part.Drives] (channel : UInt8) (speed : Speed) :
    (s.ledSet channel speed).MadeOf part := by
  refine .bind (.liftExcept _) fun _ ↦ ?_
  split
  · exact .bind (.liftExcept _) fun _ ↦ .lineWrite _ _
  · exact .throw _

variable [host : part.Hosts inner s.eeprom]
include host

theorem session_madeOf {α : Type} {body : Selected → Procedure α}
    (h : (body s.eeprom.selected).MadeOf inner) : (s.session body).MadeOf part :=
  Parts.Hosts.session h

section Serial

variable [inner.Includes (Action.ReadsFrom s.eeprom.address)]

theorem read_unpaged_madeOf (offset : UInt8) (length : Nat) :
    (s.eeprom.read (.unpaged offset) length).MadeOf part :=
  s.session_madeOf (Selected.read_unpaged_madeOf rfl length)

theorem parameter_madeOf [part.Includes Action.IsIdle] (p : Parameter) :
    (s.parameter p).MadeOf part := by
  dsimp only [parameter]
  split
  · refine .bind (s.read_unpaged_madeOf _ _) fun bytes ↦ ?_
    split
    · exact .pure _
    · exact .throw _
  · exact .bind (.lift (report_madeOf _ _ _)) fun _ ↦ .throw _

theorem vendorInfo_madeOf (v : VendorField) : (s.vendorInfo v).MadeOf part :=
  .bind (s.read_unpaged_madeOf _ _) fun _ ↦ .pure _

theorem transceiverCode_madeOf : s.transceiverCode.MadeOf part :=
  .bind (s.read_unpaged_madeOf _ _) fun _ ↦ .pure _

theorem featureSupport_madeOf : s.featureSupport.MadeOf part :=
  s.session_madeOf <| .bind (enhancedOptions_madeOf _) fun _ ↦
    .bind (Selected.lowerByte_madeOf _ _) fun _ ↦ .pure _

section Diagnostics

variable [inner.Includes (Action.ReadsFrom diagnosticDevice)]

theorem moduleMonitorStatus_madeOf (flags : ModuleStatus) :
    (s.moduleMonitorStatus flags).MadeOf part :=
  s.session_madeOf <| .bind (requireAlarms_madeOf _) fun _ ↦
    .bind (flagByte_madeOf _ _ _ _) fun _ ↦ .bind (flagByte_madeOf _ _ _ _) fun _ ↦ .pure _

theorem channelMonitorStatus_madeOf (channel : UInt8) (flags : ChannelMonitorStatus) :
    (s.channelMonitorStatus channel flags).MadeOf part :=
  .bind (.liftExcept _) fun _ ↦ s.session_madeOf <| .bind (requireAlarms_madeOf _) fun _ ↦
    .bind (flagByte_madeOf _ _ _ _) fun _ ↦ .bind (flagByte_madeOf _ _ _ _) fun _ ↦
    .bind (flagByte_madeOf _ _ _ _) fun _ ↦ .bind (flagByte_madeOf _ _ _ _) fun _ ↦ .pure _

theorem channelStatus_madeOf (channel : UInt8) (flags : ChannelStatus) :
    (s.channelStatus channel flags).MadeOf part :=
  s.channelStatus_madeOf_of (Parts.Hosts.line s.eeprom)
    (s.session_madeOf (softStatus_madeOf _)) channel flags

theorem txControlStatus_madeOf (channel : UInt8) :
    (s.txControlStatus channel).MadeOf part := by
  refine .bind (.liftExcept _) fun _ ↦ ?_
  split
  · exact .bind (Parts.Hosts.line s.eeprom _) fun _ ↦ .pure _
  · exact s.session_madeOf <| .bind (requireSoftTxDisable_madeOf _) fun _ ↦
      .bind (Selected.readByte_unpaged_madeOf rfl) fun _ ↦ .pure _

section Monitors

variable [inner.Includes Action.IsIdle]

theorem measure_madeOf (offset : UInt8) (q : Quantity) :
    (s.measure (.diagnostic offset) fun m kind w ↦ reading m kind q w).MadeOf part :=
  s.session_madeOf <| .bind (calibrationKind_madeOf _) fun kind ↦
    .bind (Selected.readWord_unpaged_madeOf rfl) fun w ↦ reading_madeOf _ kind q w

theorem monitor_madeOf (q : Quantity) : (s.monitor q).MadeOf part := s.measure_madeOf _ q

theorem channelMonitor_madeOf (channel : UInt8) (q : ChannelMonitor) :
    (s.channelMonitor channel q).MadeOf part :=
  .bind (.liftExcept _) fun _ ↦ s.monitor_madeOf _

/-- Thresholds lie in the diagnostics, as monitors do. -/
theorem threshold_madeOf (t : Threshold) : (s.threshold t).MadeOf part := by
  unfold threshold
  split
  · exact .throw _
  · rename_i a ha
    dsimp only [MemoryMap.thresholdAddress?] at ha
    obtain ⟨-, ha⟩ := Option.ite_none_right_eq_some.mp ha
    cases ha
    exact s.measure_madeOf _ _

end Monitors

end Diagnostics

end Serial

theorem txControl_madeOf [part.Drives] [inner.Includes Action.IsIdle]
    [inner.Includes (Action.ReadsFrom s.eeprom.address)]
    [inner.Includes (Action.SparesPageOf diagnosticDevice)] (channel : UInt8) (enable : Bool) :
    (s.txControl channel enable).MadeOf part := by
  refine .bind (.liftExcept _) fun _ ↦ ?_
  split
  · exact .lineWrite _ _
  · exact s.session_madeOf <| .bind (requireSoftTxDisable_madeOf _) fun _ ↦
      .bind (Selected.modify_unpaged_madeOf rfl (by decide) _) fun _ ↦
      .lift (report_madeOf _ _ _)

section Wavelength

variable (htunable : (Tuning.isTunable s.eeprom.selected).MadeOf inner)
  (hpaging : s.eeprom.selected.pagingSupported.MadeOf inner)
  (hset : ∀ nm, (Tuning.setWavelength s.eeprom.selected s.tuning nm).MadeOf inner)

include htunable hpaging hset in
/-- The wavelength is set on a page, or without one where the module has none. -/
theorem wavelengthSet_madeOf [inner.Includes Action.IsIdle]
    [inner.Includes (Action.SparesPageOf diagnosticDevice)] (nm : Float) :
    (s.wavelengthSet nm).MadeOf part :=
  s.session_madeOf <| .bind htunable fun _ ↦ .require <| .bind hpaging fun _ ↦ .ite
    (.bind (hset nm) fun _ ↦ .lift (report_madeOf _ _ _))
    (Tuning.setTargetWavelength_madeOf _ htunable nm)

end Wavelength

theorem chain_madeOf [inner.Includes Action.IsIdle]
    [inner.Includes (Action.SparesPageOf diagnosticDevice)] (ps : List Packet) :
    (s.chain ps).MadeOf part := by
  refine Program.MadeOf.bind
    (s.session_madeOf (.lift (Mailbox.chain_madeOf _ s.phy.timing ps))) fun r ↦ ?_
  cases r with
  | ok r => exact .done _
  | error e => exact .done _

/-- Every operation is made of the parts that host its sessions, if those are that the caller gives
the place of, and the wavelength is set by such parts. -/
theorem serve_madeOf_of [part.Drives] [part.Includes Action.IsIdle] [inner.Includes Action.IsIdle]
    [inner.Includes (Action.SparesPageOf s.eeprom.address)]
    [inner.Includes (Action.SparesPageOf diagnosticDevice)]
    [inner.Includes (Action.SparesPageOf CopperPhy.device)] {op : Operation}
    (hread : ∀ a length, op = .readGeneric a length → (s.eeprom.read a length).MadeOf part)
    (hwriteAt : ∀ a data, op = .writeGeneric a data → (s.eeprom.write a data).MadeOf part)
    (hwrite : ∀ offset data, op = .write offset data →
      (s.eeprom.write (.unpaged offset) data).MadeOf part)
    (hset : ∀ nm, op = .wavelengthSet nm → (s.wavelengthSet nm).MadeOf part) :
    (s.serve op).MadeOf part := by
  cases op with
  | presence => exact Parts.Hosts.line s.eeprom _
  | moduleInit _ | speed | portInfo => exact .pure _
  | moduleMonitorStatus flags => exact s.moduleMonitorStatus_madeOf flags
  | channelMonitorStatus channel flags => exact s.channelMonitorStatus_madeOf channel flags
  | channelStatus channel flags => exact s.channelStatus_madeOf channel flags
  | txControl channel enable => exact s.txControl_madeOf channel enable
  | txControlStatus channel => exact s.txControlStatus_madeOf channel
  | parameter p => exact s.parameter_madeOf p
  | vendorInfo v => exact s.vendorInfo_madeOf v
  | transceiverCode => exact s.transceiverCode_madeOf
  | threshold t => exact s.threshold_madeOf t
  | moduleMonitor q => exact s.monitor_madeOf _
  | channelMonitor channel q => exact s.channelMonitor_madeOf channel q
  | featureSupport => exact s.featureSupport_madeOf
  | readGeneric a length => exact hread a length rfl
  | writeGeneric a data => exact hwriteAt a data rfl
  | read offset length => exact s.read_unpaged_madeOf offset length
  | write offset data => exact hwrite offset data rfl
  | ledSet channel speed => exact s.ledSet_madeOf channel speed
  | wavelengthSet nm => exact hset nm rfl
  | phyAutonegSet _ _ enable => exact s.session_madeOf (CopperPhy.setAutoneg_madeOf enable)
  | phyModeSet _ _ mode => exact s.session_madeOf (CopperPhy.setMode_madeOf mode)
  | phySpeedSet _ _ speed => exact s.session_madeOf (CopperPhy.setSpeed_madeOf speed)
  | phyLinkStatus _ _ => exact s.session_madeOf CopperPhy.linkUp_madeOf
  | phyPowerDown _ _ enable => exact s.session_madeOf (CopperPhy.setPowerDown_madeOf enable)
  | phySerdesControl _ _ enable => exact s.session_madeOf (CopperPhy.setSerdes_madeOf _ enable)
  | mailboxChain ps =>
    exact .bind (.lift (s.chain_madeOf ps)) fun _ ↦ .bind (.liftExcept _) fun _ ↦ .pure _
  | tenGigSetRate speed => exact s.session_madeOf (s.phy.setRate_madeOf _ speed)
  | tenGigTxState => exact s.session_madeOf (s.phy.txEnabled_madeOf _)
  | tenGigSetTxState enable => exact s.session_madeOf (s.phy.setTxEnabled_madeOf _ enable)
  | tenGigSystemStatus => exact s.session_madeOf (s.phy.systemStatus_madeOf _)
  | tenGigLineStatus => exact s.session_madeOf (s.phy.lineStatus_madeOf _)
  | tenGigLinkStatus => exact s.session_madeOf (s.phy.linkUp_madeOf _)
  | cdrSet _ _ | cdrStatus _ | moduleControl _ _ | moduleControlStatus _ | extRateSelect _ _ _
  | adapterKind | moduleInfo => exact .throw _

end Operations

theorem read_madeOf (s : Sfp) [part.Visits s.cage] (a : Address) (length : Nat) :
    (s.eeprom.read a length).MadeOf part := s.session_madeOf (Selected.read_madeOf _ a length)

/-- Every operation of the driver is made of the parts of an operation. -/
theorem serve_madeOf (s : Sfp) (op : Operation) :
    (s.serve op).MadeOf (OperationPart s.cage op.Allows) := by
  refine s.serve_madeOf_of (fun a length _ ↦ s.read_madeOf a length) ?_ ?_ ?_
  · rintro a data rfl
    exact s.session_madeOf (Selected.write_madeOf _ a fun _ ↦ .inr ⟨rfl, rfl⟩)
  · rintro offset data rfl
    exact s.session_madeOf (Selected.write_madeOf _ _ fun _ ↦ .inr ⟨rfl, rfl⟩)
  · exact fun nm _ ↦ s.wavelengthSet_madeOf (Tuning.isTunable_madeOf _)
      (Selected.pagingSupported_madeOf _) (Tuning.setWavelength_madeOf _ _) nm

end Sfp

end Transceiver
