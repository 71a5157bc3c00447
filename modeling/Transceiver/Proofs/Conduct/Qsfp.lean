import Transceiver.Driver.Qsfp
import Transceiver.Proofs.Conduct.Sfp

/-!
# What the driver of a QSFP cage does

Discovery is the one place where a page is selected outside of an access, and then it is page zero.
The controls of a lane lie where the layout of the module has them, which is never at the byte that
selects a page.
-/

namespace Transceiver

variable {part : Parts} {A : Action → Prop}

/-! ## Layouts -/

namespace Layout

/-- The bits that are written to control a lane. -/
def controls (l : Layout) : List ChannelBit := [l.txDisable, l.cdrTx, l.cdrRx]

variable (category : Category) (revision : UInt8)

/-- A layout of a module is one of four. -/
theorem of_cases :
    Layout.of category revision = qsfpLayout ∨
      Layout.of category revision = DoubleDensity.layout1 ∨
      Layout.of category revision = DoubleDensity.layout2 ∨
      Layout.of category revision = DoubleDensity.layout3 := by
  unfold Layout.of
  split
  · split
    · exact .inr (.inr (.inr rfl))
    · split
      · exact .inr (.inr (.inl rfl))
      · exact .inr (.inl rfl)
  · exact .inl rfl

/-- No lane is controlled at the byte that selects a page. -/
theorem controls_of_ne_pageSelect :
    ∀ b ∈ (Layout.of category revision).controls, b.offset ≠ QsfpMap.pageSelect := by
  rcases of_cases category revision with h | h | h | h <;> rw [h] <;> decide

end Layout

/-- A datapath is controlled by a byte that selects no page. -/
theorem DoubleDensity.datapathControl?_ne_pageSelect {revision : UInt8} {a : Address}
    (h : datapathControl? revision = some a) : a.offset ≠ QsfpMap.pageSelect := by
  unfold datapathControl? at h
  split at h
  · cases h
    decide
  · split at h
    · cases h
      decide
    · cases h

namespace Qsfp

instance (q : Qsfp) [part.Visits q.cage] : part.Hosts (SessionPart Action.IsQuery) q.eeprom :=
  Parts.Visits.hosts rfl rfl

instance (q : Qsfp) : (OperationPart q.cage A).Hosts (SessionPart A) q.eeprom :=
  OperationPart.hosts rfl rfl

theorem session_madeOf {inner : Parts} (q : Qsfp) [part.Hosts inner q.eeprom] {α : Type}
    {body : Selected → Procedure α} (h : (body q.eeprom.selected).MadeOf inner) :
    (q.session body).MadeOf part := Parts.Hosts.session h

/-! ## Discovery -/

section Discovery

variable (m : Selected)

section Power

variable [part.Includes (Action.SparesPageOf m.address)]

theorem forcePower_madeOf (high : Bool) : (forcePower m high).MadeOf part :=
  .bind (m.lowerByte_madeOf _) fun _ ↦ .require <|
    .bind (Selected.modify_unpaged_madeOf rfl (by decide) _) fun _ ↦ .pure ()

theorem readMaxPower_madeOf [part.Includes Action.IsIdle] : (readMaxPower m).MadeOf part := by
  refine .bind (m.lowerByte_madeOf _) fun r ↦ ?_
  cases r with
  | error e => exact .bind (report_madeOf _ _ _) fun _ ↦ .done _
  | ok extIdentifier =>
    dsimp only
    split
    · refine .bind (forcePower_madeOf m false) fun r ↦ ?_
      cases r with
      | ok _ => exact .done _
      | error e => exact .bind (report_madeOf _ _ _) fun _ ↦ .done _
    · exact .done _

end Power

/-- A module that has pages goes back to page zero. -/
theorem homePage_madeOf [part.Includes Action.IsIdle] (hpaging : m.pagingSupported.MadeOf part)
    (hselect : (Selected.selectPage m.address 0).MadeOf part) : (homePage m).MadeOf part := by
  refine .bind hpaging fun r ↦ ?_
  cases r with
  | error e => exact report_madeOf _ _ _
  | ok supported =>
    cases supported with
    | false => exact .done ()
    | true =>
      refine .bind hselect fun r ↦ ?_
      cases r with
      | ok _ => exact .done ()
      | error e => exact report_madeOf _ _ _

/-- The control of the datapath is written and read back. -/
theorem powerUpDatapath_madeOf [part.Includes Action.IsIdle] {a : Address}
    (hwrite : (m.writeByte a DoubleDensity.allLanes).MadeOf part)
    (hread : (m.readByte a).MadeOf part) : (powerUpDatapath m a).MadeOf part := by
  refine Program.MadeOf.bind (Procedure.MadeOf.bind hwrite fun _ ↦ hread) fun r ↦ ?_
  cases r with
  | error e => exact report_madeOf _ _ _
  | ok value =>
    dsimp only
    split
    · exact report_madeOf _ _ _
    · exact report_madeOf _ _ _

theorem discover_madeOf_of {inner : Parts} (q : Qsfp) [part.Hosts inner q.eeprom]
    [inner.Includes Action.IsIdle] [inner.Includes (Action.SparesPageOf q.eeprom.address)]
    (hhome : (homePage q.eeprom.selected).MadeOf inner)
    (hpower : ∀ {revision : UInt8}, ∀ a ∈ DoubleDensity.datapathControl? revision,
      (powerUpDatapath q.eeprom.selected a).MadeOf inner) : q.discover.MadeOf part := by
  refine q.session_madeOf <| .bind (Selected.lowerByte_madeOf _ _) fun id ↦ .ite (.pure _) <|
    .bind (.lift hhome) fun _ ↦ .bind (Selected.lowerByte_madeOf _ _) fun revision ↦ ?_
  dsimp only
  split
  · split
    · exact .bind (.lift (hpower _ ‹_›)) fun _ ↦ .pure _
    · exact .pure _
  · exact .bind (.lift (readMaxPower_madeOf _)) fun _ ↦ .pure _

theorem moduleInit_madeOf_of [part.Includes Action.IsIdle] {q : Qsfp}
    (h : q.discover.MadeOf part) (present : Bool) : (q.moduleInit present).MadeOf part := by
  unfold moduleInit
  split
  · refine Program.MadeOf.bind h fun r ↦ ?_
    cases r with
    | error e => exact .done _
    | ok found => exact .bind (report_madeOf _ _ _) fun _ ↦ .done _
  · dsimp only
    split
    · exact .bind (report_madeOf _ _ _) fun _ ↦ .done _
    · exact .done _

theorem moduleInit_madeOf [(Single A).Includes Action.SparesPage] (q : Qsfp) (present : Bool) :
    (q.moduleInit present).MadeOf (OperationPart q.cage A) := by
  refine moduleInit_madeOf_of (q.discover_madeOf_of ?_ fun a ha ↦ ?_) present
  · exact homePage_madeOf _ (Selected.pagingSupported_madeOf _) (.part (.home q.eeprom.address))
  · have hoffset := DoubleDensity.datapathControl?_ne_pageSelect ha
    refine powerUpDatapath_madeOf _ ?_ (Selected.readByte_madeOf _ a)
    refine .bind (.liftExcept _) fun _ ↦ Selected.paged_madeOf _ a fun device ↦ ?_
    exact Bus.write_madeOf (Parts.single Action.SparesPage (mt covers_one.mp hoffset))

end Discovery

/-! ## In a session -/

section Query

variable (m : Selected) [part.Includes (Action.ReadsFrom m.address)]

theorem laneFlag_madeOf (channel : UInt8) (offset : Option UInt8) :
    (laneFlag m channel offset).MadeOf part := by
  unfold laneFlag
  split
  · exact .bind (m.lowerByte_madeOf _) fun _ ↦ .pure _
  · exact .pure false

theorem laneLevels_madeOf {n : UInt8} (flags : ChannelFlags) (rxPower : Bool) (lane : Lane n) :
    (laneLevels m flags rxPower lane).MadeOf part := by
  cases flags with
  | nibbles rx tx => exact .bind (m.lowerByte_madeOf _) fun _ ↦ .pure _
  | lanes rx tx =>
    exact .bind (laneFlag_madeOf m _ _) fun _ ↦ .bind (laneFlag_madeOf m _ _) fun _ ↦
      .bind (laneFlag_madeOf m _ _) fun _ ↦ .bind (laneFlag_madeOf m _ _) fun _ ↦ .pure _

theorem laneBit_madeOf {n : UInt8} (bit : ChannelBit) (lane : Lane n) :
    (laneBit m bit lane).MadeOf part :=
  .bind (m.lowerByte_madeOf _) fun _ ↦ .pure _

theorem anyLaneBit_madeOf {n : UInt8} (lane : Lane n) (bits : List ChannelBit) :
    (anyLaneBit m lane bits).MadeOf part := by
  induction bits with
  | nil => exact .pure false
  | cons bit bits ih => exact .bind (laneBit_madeOf m bit lane) fun _ ↦ .bind ih fun _ ↦ .pure _

theorem cdrBits_madeOf (q : Qsfp) : (q.cdrBits m).MadeOf part :=
  .bind (m.lowerByte_madeOf _) fun _ ↦ .refuse (.pure _)

theorem lengthCoded_madeOf (q : Qsfp) : (q.lengthCoded m).MadeOf part :=
  .ite (.bind (m.lowerByte_madeOf _) fun _ ↦ .pure _) (.pure false)

theorem parameterValue_madeOf (q : Qsfp) (p : Parameter) (raw : UInt32) :
    (q.parameterValue m p raw).MadeOf part := by
  unfold parameterValue
  split
  · exact .pure _
  · exact .pure _
  · exact .pure _
  · exact .bind (lengthCoded_madeOf m q) fun _ ↦ .ite (.pure _) (.pure _)
  · exact .pure _

end Query

/-- Switching bits of a lane spares the byte that selects a page if no bit lies there. -/
theorem setLaneBits_madeOf (m : Selected) [part.Includes (Action.SparesPageOf m.address)]
    {n : UInt8} (lane : Lane n) (on : Bool) {bits : List ChannelBit}
    (h : ∀ b ∈ bits, b.offset ≠ QsfpMap.pageSelect) :
    (setLaneBits m lane on bits).MadeOf part := by
  induction bits with
  | nil => exact .pure ()
  | cons bit bits ih =>
    have hbit : (Address.unpaged bit.offset).offset ≠ QsfpMap.pageSelect :=
      h bit (List.mem_cons_self ..)
    exact .bind (Selected.modify_unpaged_madeOf rfl hbit _) fun _ ↦
      ih fun b hb ↦ h b (List.mem_cons_of_mem _ hb)

/-- The clock recovery of a lane is switched by controls of the lane. -/
theorem switchCdr_madeOf (q : Qsfp) (m : Selected) [part.Includes (Action.SparesPageOf m.address)]
    {n : UInt8} (lane : Lane n) (on : Bool) :
    Procedure.MadeOf part (do let bits ← q.cdrBits m; setLaneBits m lane on bits) := by
  dsimp only [cdrBits]
  rw [bind_assoc]
  refine .bind (m.lowerByte_madeOf _) fun options ↦ ?_
  split
  · exact .throw _
  · have hbits : ∀ b ∈ (if hasBit options QsfpMap.txCdrBit then [q.layout.cdrTx] else []) ++
        (if hasBit options QsfpMap.rxCdrBit then [q.layout.cdrRx] else []),
        b ∈ q.layout.controls := by
      unfold Layout.controls
      grind
    exact setLaneBits_madeOf m lane on fun b hb ↦
      Layout.controls_of_ne_pageSelect _ _ b (hbits b hb)

/-- The transmitter of a lane is not switched where a page is selected. -/
theorem txDisable_ne_pageSelect (q : Qsfp) :
    (Address.unpaged q.layout.txDisable.offset).offset ≠ QsfpMap.pageSelect :=
  Layout.controls_of_ne_pageSelect _ _ _ (.head _)

/-! ## Operations -/

section Operations

variable {inner : Parts} (q : Qsfp)

theorem driveControl_madeOf [part.Drives] (control : ModuleControl) (enable : Bool) :
    (q.driveControl control enable).MadeOf part := by
  unfold driveControl
  split
  · exact .lineWrite _ _
  · exact .throw _

variable [host : part.Hosts inner q.eeprom]
include host

theorem moduleControlStatus_madeOf (control : ModuleControl) :
    (q.moduleControlStatus control).MadeOf part := by
  unfold moduleControlStatus
  split
  · exact Parts.Hosts.line q.eeprom _
  · exact .throw _

section Query

variable [inner.Includes (Action.ReadsFrom q.eeprom.address)]

theorem read_unpaged_madeOf (offset : UInt8) (length : Nat) :
    (q.eeprom.read (.unpaged offset) length).MadeOf part :=
  q.session_madeOf (Selected.read_unpaged_madeOf rfl length)

theorem moduleMonitorStatus_madeOf (flags : ModuleStatus) :
    (q.moduleMonitorStatus flags).MadeOf part := by
  have hbyte (offset : UInt8) : (q.eeprom.selected.lowerByte offset).MadeOf inner :=
    Selected.lowerByte_madeOf _ _
  refine q.session_madeOf ?_
  dsimp only
  exact .bind (.ite (.bind (hbyte _) fun _ ↦ .pure _) (.pure _)) fun _ ↦
    .bind (.ite (.bind (hbyte _) fun _ ↦ .pure _) (.pure _)) fun _ ↦ .pure _

theorem channelMonitorStatus_madeOf (channel : UInt8) (flags : ChannelMonitorStatus) :
    (q.channelMonitorStatus channel flags).MadeOf part := by
  refine .bind (.liftExcept _) fun lane ↦ q.session_madeOf ?_
  dsimp only
  exact .bind (.ite (.bind (laneLevels_madeOf _ _ _ _) fun _ ↦ .pure _) (.pure _)) fun _ ↦
    .bind (.ite (.bind (laneLevels_madeOf _ _ _ _) fun _ ↦ .pure _) (.pure _)) fun _ ↦ .pure _

theorem channelStatus_madeOf (channel : UInt8) (flags : ChannelStatus) :
    (q.channelStatus channel flags).MadeOf part := by
  refine .bind (.liftExcept _) fun lane ↦ q.session_madeOf ?_
  have hflag (flag : ChannelStatus) (bit : ChannelBit) :
      (Sfp.flagIf flags flag (laneBit q.eeprom.selected bit lane)).MadeOf inner :=
    Sfp.flagIf_madeOf _ _ (laneBit_madeOf _ bit lane)
  exact .bind (hflag _ _) fun _ ↦ .bind (hflag _ _) fun _ ↦ .bind (hflag _ _) fun _ ↦
    .bind (hflag _ _) fun _ ↦ .pure _

theorem txControlStatus_madeOf (channel : UInt8) :
    (q.txControlStatus channel).MadeOf part :=
  .bind (.liftExcept _) fun lane ↦
    .bind (q.session_madeOf (laneBit_madeOf _ _ lane)) fun _ ↦ .pure _

theorem cdrStatus_madeOf (channel : UInt8) : (q.cdrStatus channel).MadeOf part :=
  .bind (.liftExcept _) fun lane ↦ q.session_madeOf <| .bind (cdrBits_madeOf _ q) fun _ ↦
    anyLaneBit_madeOf _ lane _

theorem vendorInfo_madeOf (v : VendorField) : (q.vendorInfo v).MadeOf part :=
  .bind (q.read_unpaged_madeOf _ _) fun _ ↦ .pure _

theorem transceiverCode_madeOf : q.transceiverCode.MadeOf part :=
  .bind (q.read_unpaged_madeOf _ _) fun _ ↦ .pure _

theorem featureSupport_madeOf (hpaging : q.eeprom.selected.pagingSupported.MadeOf inner) :
    q.featureSupport.MadeOf part :=
  q.session_madeOf <| .bind (Selected.lowerByte_madeOf _ _) fun _ ↦ .bind hpaging fun _ ↦
    .bind (Selected.lowerByte_madeOf _ _) fun _ ↦ .pure _

theorem monitor_madeOf (offset : UInt8) (quantity : Quantity) :
    (q.monitor offset quantity).MadeOf part :=
  .bind (q.session_madeOf (Selected.readWord_unpaged_madeOf rfl)) fun _ ↦ .pure _

theorem moduleMonitor_madeOf (monitor : ModuleMonitor) :
    (q.moduleMonitor monitor).MadeOf part := by
  cases monitor with
  | temperature => exact q.monitor_madeOf _ _
  | voltage => exact q.monitor_madeOf _ _

theorem channelMonitor_madeOf (channel : UInt8) (monitor : ChannelMonitor) :
    (q.channelMonitor channel monitor).MadeOf part := by
  refine .bind (.liftExcept _) fun lane ↦ ?_
  split
  · exact q.monitor_madeOf _ _
  · exact .throw _

section Idle

variable [part.Includes Action.IsIdle]

theorem parameter_madeOf (p : Parameter) : (q.parameter p).MadeOf part := by
  dsimp only [parameter]
  split
  · refine q.session_madeOf <| .bind (Selected.read_unpaged_madeOf rfl _) fun bytes ↦ ?_
    split
    · exact parameterValue_madeOf _ q p _
    · exact .throw _
  · exact .bind (.lift (report_madeOf _ _ _)) fun _ ↦ .throw _

theorem readAdapter_madeOf : q.readAdapter.MadeOf part := by
  refine Program.MadeOf.bind (q.read_unpaged_madeOf _ _) fun r ↦ ?_
  cases r with
  | ok oui => exact .done _
  | error e => exact .bind (report_madeOf _ _ _) fun _ ↦ .done _

theorem adapterKind_madeOf [part.Drives] : q.adapterKind.MadeOf part := by
  dsimp only [adapterKind]
  split
  · split
    · exact .bind (.lineWrite _ _) fun _ ↦ .bind (.lift (settle_madeOf _)) fun _ ↦
        .bind (.lift q.readAdapter_madeOf) fun _ ↦ .bind (.lineWrite _ _) fun _ ↦ .pure _
    · exact .throw _
  · exact .pure _

end Idle

end Query

theorem threshold_madeOf (hpaging : q.eeprom.selected.pagingSupported.MadeOf inner)
    {t : Threshold} (hread : ∀ a ∈ q.layout.map.thresholdAddress? t,
      (q.eeprom.selected.readWord a).MadeOf inner) : (q.threshold t).MadeOf part := by
  unfold threshold
  split
  · exact q.session_madeOf <| .bind hpaging fun _ ↦ .require <|
      .bind (hread _ ‹_›) fun _ ↦ .pure _
  · exact .throw _

section Writes

variable [inner.Includes (Action.SparesPageOf q.eeprom.address)]

theorem forcePowerMode_madeOf (high : Bool) : (q.forcePowerMode high).MadeOf part :=
  q.session_madeOf (forcePower_madeOf _ high)

theorem cdrSet_madeOf (channel : UInt8) (enable : Bool) :
    (q.cdrSet channel enable).MadeOf part :=
  .bind (.liftExcept _) fun lane ↦ q.session_madeOf (q.switchCdr_madeOf _ lane enable)

theorem extRateSelect_madeOf (channel : UInt8) (revision : FirmwareRevision) (cdrEnable : Bool) :
    (q.extRateSelect channel revision cdrEnable).MadeOf part :=
  .bind (.liftExcept _) fun _ ↦ q.session_madeOf <|
    .bind (Selected.modify_unpaged_madeOf rfl (by decide) _) fun _ ↦
    .bind (Selected.modify_unpaged_madeOf rfl (by decide) _) fun _ ↦ .pure ()

variable [part.Includes Action.IsIdle]

theorem txControl_madeOf (channel : UInt8) (enable : Bool) :
    (q.txControl channel enable).MadeOf part :=
  .bind (.liftExcept _) fun _ ↦
    .bind (q.session_madeOf <| .bind (Selected.lowerByte_madeOf _ _) fun _ ↦ .require <|
      .bind (Selected.modify_unpaged_madeOf rfl q.txDisable_ne_pageSelect _) fun _ ↦
      .pure ()) fun _ ↦
    .bind (.lift (settle_madeOf _)) fun _ ↦ .lift (report_madeOf _ _ _)

theorem setPowerClass_madeOf (power : MaxPower) (high : Bool) :
    (q.setPowerClass power high).MadeOf part := by
  unfold setPowerClass
  split
  · refine .bind (q.forcePowerMode_madeOf high) fun r ↦ ?_
    cases r with
    | ok _ => exact report_madeOf _ _ _
    | error e =>
      dsimp only
      split
      · exact .done ()
      · exact report_madeOf _ _ _
  · exact .done ()

theorem moduleControl_madeOf [part.Drives] (control : ModuleControl) (enable : Bool) :
    (q.moduleControl control enable).MadeOf part := by
  have hdrive : (q.driveControl control enable).MadeOf part := q.driveControl_madeOf control enable
  dsimp only [moduleControl]
  split
  · split
    · rename_i power _
      have hbudget : (q.checkBudget power !enable).MadeOf part :=
        .ite (.bind (.lift (report_madeOf _ _ _)) fun _ ↦ .throw _) (.pure ())
      exact .bind hbudget fun _ ↦ .bind (.lift (q.setPowerClass_madeOf power _)) fun _ ↦ hdrive
    · exact hdrive
  · exact hdrive

end Writes

theorem breakout_madeOf [inner.Includes (Action.SparesPageOf CopperPhy.breakoutMux)] {α : Type}
    (channel : UInt8) (media : MediaType) {body : Procedure α} (h : body.MadeOf inner) :
    (q.breakout channel media body).MadeOf part :=
  .refuse <| q.session_madeOf <| .bind (CopperPhy.selectBreakout_madeOf channel) fun _ ↦ h

/-- Every operation that goes to the cage is made of the parts that host its sessions, if those are
that the caller gives the place of. -/
theorem serveCage_madeOf_of [part.Drives] [part.Includes Action.IsIdle]
    [inner.Includes Action.IsIdle] [inner.Includes (Action.SparesPageOf q.eeprom.address)]
    {op : Operation}
    (hphy : op.route = .adapted → inner.Includes (Action.SparesPageOf CopperPhy.breakoutMux) ∧
      inner.Includes (Action.SparesPageOf CopperPhy.device))
    (hpaging : q.eeprom.selected.pagingSupported.MadeOf inner)
    (hthreshold : ∀ t, ∀ a ∈ q.layout.map.thresholdAddress? t,
      (q.eeprom.selected.readWord a).MadeOf inner)
    (hread : ∀ a length, op = .readGeneric a length → (q.eeprom.read a length).MadeOf part)
    (hwriteAt : ∀ a data, op = .writeGeneric a data → (q.eeprom.write a data).MadeOf part)
    (hwrite : ∀ offset data, op = .write offset data →
      (q.eeprom.write (.unpaged offset) data).MadeOf part) : (q.serveCage op).MadeOf part := by
  cases op with
  | presence => exact Parts.Hosts.line q.eeprom _
  | moduleMonitorStatus flags => exact q.moduleMonitorStatus_madeOf flags
  | channelMonitorStatus channel flags => exact q.channelMonitorStatus_madeOf channel flags
  | channelStatus channel flags => exact q.channelStatus_madeOf channel flags
  | txControl channel enable => exact q.txControl_madeOf channel enable
  | txControlStatus channel => exact q.txControlStatus_madeOf channel
  | cdrSet channel enable => exact q.cdrSet_madeOf channel enable
  | cdrStatus channel => exact q.cdrStatus_madeOf channel
  | parameter p => exact q.parameter_madeOf p
  | vendorInfo v => exact q.vendorInfo_madeOf v
  | transceiverCode => exact q.transceiverCode_madeOf
  | threshold t => exact q.threshold_madeOf hpaging (hthreshold t)
  | moduleControl control enable => exact q.moduleControl_madeOf control enable
  | moduleControlStatus control => exact q.moduleControlStatus_madeOf control
  | moduleMonitor monitor => exact q.moduleMonitor_madeOf monitor
  | channelMonitor channel monitor => exact q.channelMonitor_madeOf channel monitor
  | featureSupport => exact q.featureSupport_madeOf hpaging
  | readGeneric a length => exact hread a length rfl
  | writeGeneric a data => exact hwriteAt a data rfl
  | read offset length => exact q.read_unpaged_madeOf offset length
  | write offset data => exact hwrite offset data rfl
  | extRateSelect channel revision cdrEnable =>
    exact q.extRateSelect_madeOf channel revision cdrEnable
  | adapterKind => exact q.adapterKind_madeOf
  | speed | portInfo | moduleInfo => exact .pure _
  | phyAutonegSet channel media enable =>
    obtain ⟨_, _⟩ := hphy rfl
    exact q.breakout_madeOf channel media (CopperPhy.setAutoneg_madeOf enable)
  | phyModeSet channel media mode =>
    obtain ⟨_, _⟩ := hphy rfl
    exact q.breakout_madeOf channel media (CopperPhy.setMode_madeOf mode)
  | phySpeedSet channel media speed =>
    obtain ⟨_, _⟩ := hphy rfl
    exact q.breakout_madeOf channel media (CopperPhy.setSpeed_madeOf speed)
  | moduleInit _ | ledSet _ _ | wavelengthSet _ | phyLinkStatus _ _ | phyPowerDown _ _ _
  | phySerdesControl _ _ _ | mailboxChain _ | tenGigSetRate _ | tenGigTxState
  | tenGigSetTxState _ | tenGigSystemStatus | tenGigLineStatus | tenGigLinkStatus =>
    exact .throw _

end Operations

theorem read_madeOf (q : Qsfp) [part.Visits q.cage] (a : Address) (length : Nat) :
    (q.eeprom.read a length).MadeOf part := q.session_madeOf (Selected.read_madeOf _ a length)

/-- Every operation that goes to the cage is made of the parts of an operation. -/
theorem serveCage_madeOf (q : Qsfp) (op : Operation) :
    (q.serveCage op).MadeOf (OperationPart q.cage op.Allows) := by
  refine q.serveCage_madeOf_of (fun _ ↦ ⟨inferInstance, inferInstance⟩)
    (Selected.pagingSupported_madeOf _) (fun _ a _ ↦ Selected.readWord_madeOf _ a)
    (fun a length _ ↦ q.read_madeOf a length) ?_ ?_
  · rintro a data rfl
    exact q.session_madeOf (Selected.write_madeOf _ a fun _ ↦ .inr ⟨rfl, rfl⟩)
  · rintro offset data rfl
    exact q.session_madeOf (Selected.write_madeOf _ _ fun _ ↦ .inr ⟨rfl, rfl⟩)

/-! ## With an adapter -/

/-- The module in an adapter is selected as the one in the cage. -/
theorem adapter?_eq_some {q : Qsfp} {s : Sfp} (h : q.adapter? = some s) :
    s = .ofCage q.cage.adapted := by
  unfold adapter? at h
  split at h
  · exact (Option.some.inj h).symm
  · cases h

theorem adapted_of_adapter? {q : Qsfp} {s : Sfp} (h : q.adapter? = some s) :
    q.found.adapted = true := by
  unfold adapter? at h
  split at h
  · assumption
  · cases h

theorem not_adapted_of_adapter? {q : Qsfp} (h : q.adapter? = none) : q.found.adapted = false := by
  unfold adapter? at h
  split at h
  · cases h
  · exact Bool.eq_false_iff.mpr ‹_›

/-- What is done for the module in an adapter is made of parts of an operation on the cage. -/
theorem OperationPart.of_adapted {c : Cage} {α : Type} {p : Program α}
    (h : OperationPart c.adapted A α p) : OperationPart c A α p := by
  cases h with
  | idle action ha => exact .idle action ha
  | read l => exact .read l
  | write l on => exact .write l on
  | session e hs hp hbody => exact .session e hs hp hbody

theorem serve_madeOf (q : Qsfp) (op : Operation) :
    (q.serve op).MadeOf (OperationPart q.cage op.Allows) := by
  unfold serve
  split
  · rename_i s hs _
    cases adapter?_eq_some hs
    exact (Sfp.serve_madeOf _ op).imp fun _ _ hp ↦ OperationPart.of_adapted hp
  · exact .throw _
  · exact q.serveCage_madeOf op

theorem chain_madeOf [(Single A).Includes Action.SparesPage] (q : Qsfp) (ps : List Packet) :
    (q.chain ps).MadeOf (OperationPart q.cage A) := by
  unfold chain
  split
  · rename_i s hs
    cases adapter?_eq_some hs
    have hchain (s : Sfp) : (s.chain ps).MadeOf (OperationPart s.cage A) := s.chain_madeOf ps
    exact (hchain _).imp fun _ _ hp ↦ OperationPart.of_adapted hp
  · exact .done _

end Qsfp

end Transceiver
