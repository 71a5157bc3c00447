import Transceiver.Proofs.Conduct.Qsfp
import Transceiver.Proofs.Failures
import Transceiver.Resource

/-!
# What operations fail with

Main statements: whatever the surroundings answer, an operation of a driver fails with what others
are to blame for, or because it is not supported, and nothing else.  Only to tune a module may also
fail because the module tells of a range that ends before it starts.

So no decoder of a driver refuses what it is handed, and no selector or packet that a driver makes
up is invalid.  The numbers in the fields of the memory maps are the one place where a decoder
could: such a field has one to four bytes.
-/

namespace Transceiver

variable {α β : Type}

/-! ## Outcomes -/

namespace Error

/-- What an operation may fail with. -/
def IsOutcome (e : Error) : Prop := e.IsForeign ∨ e = .notSupported

/-- What tuning may fail with. -/
def IsTuningOutcome (e : Error) : Prop :=
  e.IsOutcome ∨ ∃ min max, e = .decode (.invalidCapability min max)

instance : HasRefusal IsOutcome where
  foreign := .inl
  refusal := .inr rfl

instance : HasRefusal IsTuningOutcome where
  foreign h := .inl (.inl h)
  refusal := .inl (.inr rfl)

end Error

/-- What an operation may fail with: only tuning finds out about capabilities. -/
def Operation.Outcome : Operation → Error → Prop
  | .wavelengthSet _ => Error.IsTuningOutcome
  | _ => Error.IsOutcome

instance (op : Operation) : Error.HasRefusal op.Outcome := by
  cases op with
  | wavelengthSet _ => exact inferInstanceAs (Error.HasRefusal Error.IsTuningOutcome)
  | _ => exact inferInstanceAs (Error.HasRefusal Error.IsOutcome)

theorem Procedure.FailsBy.keeping {E : Error → Prop} {p : Procedure α} {δ : Type} {d : δ}
    (h : p.FailsBy E) : (keeping d p).Returns fun x ↦ Transceiver.FailsBy E x.1 :=
  Program.Returns.bind h fun _ hr ↦ .done hr

/-! ## Tuning -/

namespace Tuning

variable {E : Error → Prop} (m : Selected)

section Access

variable [Error.HasForeign E]

theorem isTunable_failsBy : (isTunable m).FailsBy E :=
  .bind (m.readByte_failsBy _) fun _ ↦ .pure _

theorem awaitSettled_failsBy (t : TuningTiming) (n : Nat) : (awaitSettled m t n).FailsBy E := by
  induction n with
  | zero => exact .foreign trivial
  | succ n ih =>
    refine .bind (m.readByte_failsBy _) fun now ↦ .bind (m.readByte_failsBy _) fun latched ↦
      .ite (.pure _) ?_
    exact .ite (.bind (.lift _) fun _ ↦ .bind (.foreign trivial) fun _ ↦ .bind (.lift _) fun _ ↦ ih)
      (.bind (.lift _) fun _ ↦ ih)

end Access

section Refusal

variable [Error.HasRefusal E]

theorem requirePaged_failsBy : (requirePaged m).FailsBy E :=
  .bind (isTunable_failsBy m) fun _ ↦ .require <|
    .bind m.pagingSupported_failsBy fun _ ↦ .ite (.pure ()) .refusal

theorem request_failsBy (g : Grid Float) (nm thz : Float) : (request m g nm thz).FailsBy E :=
  .ite (.bind (m.write_failsBy _ _) fun _ ↦ .pure _) <|
    .ite (.bind (m.write_failsBy _ _) fun _ ↦ .pure _) .refusal

theorem setTargetWavelength_failsBy (nm : Float) : (setTargetWavelength m nm).FailsBy E :=
  .bind (isTunable_failsBy m) fun _ ↦ .require (m.write_failsBy _ _)

end Refusal

/-- Only the range of a module may make no sense. -/
theorem readGrid_failsBy : (readGrid m).FailsBy Error.IsTuningOutcome := by
  refine .bind (m.readByte_failsBy _) fun flags ↦ .bind (m.read_failsBy _ 10) fun block ↦ ?_
  split
  · exact .pure _
  · exact .throw (.inr ⟨_, _, rfl⟩)

theorem setWavelength_failsBy (t : TuningTiming) (nm : Float) :
    (setWavelength m t nm).FailsBy Error.IsTuningOutcome := by
  refine .refuse (.inl (.inl trivial)) <| .bind (requirePaged_failsBy m) fun _ ↦
    Selected.onPage_failsBy _ _ <| .bind (readGrid_failsBy m) fun g ↦ ?_
  have htuned (thz : Float) : Procedure.FailsBy Error.IsTuningOutcome (do
      let r ← request m g nm thz
      report .debug "tuning requested"
        [("frequency_thz", Decimal.shortest thz), ("request", r.text)]
      awaitSettled m t t.polls
      return (⟨thz, r⟩ : Tuned)) :=
    .bind (request_failsBy m g nm thz) fun r ↦ .bind (.lift _) fun _ ↦
      .bind (awaitSettled_failsBy m t _) fun _ ↦ .pure _
  exact .ite (htuned _) (.bind (.throw (.inl (.inl trivial))) fun _ ↦ htuned _)

end Tuning

/-! ## Numbers in fields -/

/-- A field that holds a number: a parameter that exists has one to four bytes. -/
def Field.HoldsNumber (f : Field) : Prop := f.isSupported = true → 0 < f.size ∧ f.size ≤ 4

instance : DecidablePred Field.HoldsNumber := fun _ ↦ inferInstanceAs (Decidable (_ → _))

theorem sfpMap_holdsNumber (p : Parameter) : (sfpMap.param p).HoldsNumber := by
  cases p <;> decide

theorem Layout.of_holdsNumber (category : Category) (revision : UInt8) (p : Parameter) :
    ((Layout.of category revision).map.param p).HoldsNumber := by
  rcases Layout.of_cases category revision with h | h | h | h <;> rw [h] <;> cases p <;> decide

/-- The bytes of such a field are a number. -/
theorem Field.HoldsNumber.number {f : Field} (h : f.HoldsNumber) (hf : f.isSupported = true)
    (bytes : Vector UInt8 f.size.toNat) :
    Checked.number bytes.toList = .ok (bigEndian bytes.toList) := by
  obtain ⟨hpos, hle⟩ := h hf
  have hlength : bytes.toList.length = f.size.toNat := bytes.length_toList
  have hpos : 0 < f.size.toNat := hpos
  have hle : f.size.toNat ≤ 4 := hle
  unfold Checked.number
  rw [if_neg]
  rw [List.isEmpty_iff_length_eq_zero]
  omega

/-! ## SFP cages -/

namespace Sfp

section Session

variable {E : Error → Prop} [Error.HasRefusal E] (m : Selected)

theorem requireAlarms_failsBy : (requireAlarms m).FailsBy E :=
  .bind (m.readByte_failsBy _) fun _ ↦ .ite (.pure ()) .refusal

theorem requireSoftTxDisable_failsBy : (requireSoftTxDisable m).FailsBy E :=
  .bind (m.readByte_failsBy _) fun _ ↦ .ite (.pure ()) .refusal

theorem calibrationKind_failsBy : (calibrationKind m).FailsBy E :=
  .bind (m.readByte_failsBy _) fun _ ↦ .require <| .ite (.pure _) <| .ite (.pure _) <|
    .bind (.lift _) fun _ ↦ .refusal

theorem linearReading_failsBy {K : Type} [Scalar K] (kind : CalibrationKind) (q : LinearQuantity)
    (w : UInt16) : (linearReading (K := K) m kind q w).FailsBy E := by
  refine .bind ?_ fun _ ↦ .pure _
  cases kind with
  | internal => exact .pure _
  | external => exact .bind (m.read_failsBy _ 4) fun _ ↦ .pure _

theorem reading_failsBy (kind : CalibrationKind) (q : Quantity) (w : UInt16) :
    (reading m kind q w).FailsBy E := by
  cases q with
  | temperature => exact linearReading_failsBy m kind _ w
  | voltage => exact linearReading_failsBy m kind _ w
  | txBias => exact linearReading_failsBy m kind _ w
  | txPower => exact .map (linearReading_failsBy m kind _ w)
  | rxPower =>
    refine .bind ?_ fun _ ↦ .pure _
    cases kind with
    | internal => exact .pure _
    | external => exact .bind (m.read_failsBy _ _) fun _ ↦ .pure _

theorem flagByte_failsBy {k : Subject} (flags wanted : Flags k) (offset : UInt8) :
    (flagByte m flags wanted offset).FailsBy E := .ite (m.readByte_failsBy _) (.pure 0)

theorem softStatus_failsBy : (softStatus m).FailsBy E :=
  .bind (m.readByte_failsBy _) fun _ ↦ .ite (.pure _) <|
    .bind (m.readByte_failsBy _) fun _ ↦ .pure _

/-- A condition has a line, or the module tells of it, or it is not supported. -/
theorem flagIf_failsBy (flags flag : ChannelStatus) (line : Option Line) (soft : SoftStatus)
    (supportBit stateBit : Bit) :
    (flagIf flags flag (condition line soft supportBit stateBit)).FailsBy E := by
  have hcondition : (condition line soft supportBit stateBit).FailsBy E := by
    unfold condition
    split
    · exact Line.read_failsBy _
    · split
      · exact .ite (.pure _) .refusal
      · exact .refusal
  exact .ite (.bind hcondition fun _ ↦ .ite (.pure _) (.pure _)) (.pure _)

end Session

section Access

variable {E : Error → Prop} [Error.HasForeign E] (s : Sfp)

theorem session_failsBy {body : Selected → Procedure α} (h : ∀ m, (body m).FailsBy E) :
    (s.session body).FailsBy E := s.eeprom.session_failsBy h

theorem read_failsBy (a : Address) (length : Nat) : (s.eeprom.read a length).FailsBy E :=
  s.session_failsBy fun m ↦ m.read_failsBy a length

theorem write_failsBy (a : Address) (data : List UInt8) : (s.eeprom.write a data).FailsBy E :=
  s.session_failsBy fun m ↦ m.write_failsBy a data

end Access

section Operations

variable {E : Error → Prop} [Error.HasRefusal E] (s : Sfp)

theorem measure_failsBy (a : Address) (q : Quantity) :
    (s.measure a fun m kind w ↦ reading m kind q w).FailsBy E :=
  s.session_failsBy fun m ↦ .bind (calibrationKind_failsBy m) fun kind ↦
    .bind (m.readWord_failsBy a) fun w ↦ reading_failsBy m kind q w

theorem channelMonitor_failsBy (channel : UInt8) (q : ChannelMonitor) :
    (s.channelMonitor channel q).FailsBy E :=
  .bind (.liftExcept (Lane.check_failsBy _ _)) fun _ ↦ s.measure_failsBy _ _

theorem threshold_failsBy (t : Threshold) : (s.threshold t).FailsBy E := by
  unfold threshold
  split
  · exact .refusal
  · exact s.measure_failsBy _ _

theorem moduleMonitorStatus_failsBy (flags : ModuleStatus) :
    (s.moduleMonitorStatus flags).FailsBy E :=
  s.session_failsBy fun m ↦ .bind (requireAlarms_failsBy m) fun _ ↦
    .bind (flagByte_failsBy m _ _ _) fun _ ↦ .bind (flagByte_failsBy m _ _ _) fun _ ↦ .pure _

theorem channelMonitorStatus_failsBy (channel : UInt8) (flags : ChannelMonitorStatus) :
    (s.channelMonitorStatus channel flags).FailsBy E :=
  .bind (.liftExcept (Lane.check_failsBy _ _)) fun _ ↦ s.session_failsBy fun m ↦
    .bind (requireAlarms_failsBy m) fun _ ↦
    .bind (flagByte_failsBy m _ _ _) fun _ ↦ .bind (flagByte_failsBy m _ _ _) fun _ ↦
    .bind (flagByte_failsBy m _ _ _) fun _ ↦ .bind (flagByte_failsBy m _ _ _) fun _ ↦ .pure _

theorem channelStatus_failsBy (channel : UInt8) (flags : ChannelStatus) :
    (s.channelStatus channel flags).FailsBy E := by
  have hrest (soft : SoftStatus) := Procedure.FailsBy.bind
    (flagIf_failsBy (E := E) flags ChannelStatus.txDisable s.cage.txControl soft
      SfpMap.softTxDisableBit SfpMap.txDisableStateBit) fun disabled ↦
    .bind (flagIf_failsBy flags ChannelStatus.txFault s.cage.txFault soft
      SfpMap.softTxFaultBit SfpMap.txFaultStateBit) fun fault ↦
    .bind (flagIf_failsBy flags ChannelStatus.rxLoss s.cage.rxLoss soft
      SfpMap.softRxLossBit SfpMap.rxLossStateBit) fun loss ↦ .pure (disabled ||| fault ||| loss)
  have hsoft : (s.session softStatus).FailsBy E := s.session_failsBy softStatus_failsBy
  exact .bind (.liftExcept (Lane.check_failsBy _ _)) fun _ ↦
    .refuse Error.HasRefusal.refusal <| .ite (.bind (.pure _) hrest) (.bind hsoft hrest)

theorem txControl_failsBy (channel : UInt8) (enable : Bool) :
    (s.txControl channel enable).FailsBy E := by
  refine .bind (.liftExcept (Lane.check_failsBy _ _)) fun _ ↦ ?_
  split
  · exact Line.write_failsBy _ _
  · exact s.session_failsBy fun m ↦ .bind (requireSoftTxDisable_failsBy m) fun _ ↦
      .bind (m.modify_failsBy _ _) fun _ ↦ .lift _

theorem txControlStatus_failsBy (channel : UInt8) : (s.txControlStatus channel).FailsBy E := by
  refine .bind (.liftExcept (Lane.check_failsBy _ _)) fun _ ↦ ?_
  split
  · exact .bind (Line.read_failsBy _) fun _ ↦ .pure _
  · exact s.session_failsBy fun m ↦ .bind (requireSoftTxDisable_failsBy m) fun _ ↦
      .bind (m.readByte_failsBy _) fun _ ↦ .pure _

theorem parameter_failsBy (p : Parameter) : (s.parameter p).FailsBy E := by
  dsimp only [parameter]
  split
  · rename_i hf
    refine .bind (s.read_failsBy _ _) fun bytes ↦ ?_
    rw [(sfpMap_holdsNumber p).number hf bytes]
    exact .pure _
  · exact .bind (.lift _) fun _ ↦ .refusal

theorem ledSet_failsBy (channel : UInt8) (speed : Speed) : (s.ledSet channel speed).FailsBy E := by
  refine .bind (.liftExcept (Lane.check_failsBy _ _)) fun _ ↦ ?_
  split
  · rename_i led _
    have hlevel : FailsBy E (ledLevel led speed) := by
      unfold ledLevel
      split
      · trivial
      · trivial
      · exact Error.HasForeign.foreign trivial
    exact .bind (.liftExcept hlevel) fun _ ↦ Line.write_failsBy _ _
  · exact .refusal

theorem featureSupport_failsBy : s.featureSupport.FailsBy E :=
  s.session_failsBy fun m ↦ .bind (m.readByte_failsBy _) fun _ ↦
    .bind (m.readByte_failsBy _) fun _ ↦ .pure _

end Operations

theorem wavelengthSet_failsBy (s : Sfp) (nm : Float) :
    (s.wavelengthSet nm).FailsBy Error.IsTuningOutcome :=
  s.session_failsBy fun m ↦ .bind (Tuning.isTunable_failsBy m) fun _ ↦ .require <|
    .bind m.pagingSupported_failsBy fun _ ↦
      .ite (.bind (Tuning.setWavelength_failsBy m _ nm) fun _ ↦ .lift _)
        (Tuning.setTargetWavelength_failsBy m nm)

/-- A chain fails where a packet does, or where no session could be opened. -/
theorem chain_returns_foreign (s : Sfp) (ps : List Packet) :
    (s.chain ps).Returns fun r ↦ FailsBy Error.IsForeign r.2 := by
  have hsession : (s.session fun m ↦ liftM (Mailbox.chain m s.phy.timing ps)).run.Returns
      fun r ↦ FailsBy Error.IsForeign (r >>= Prod.snd) :=
    s.eeprom.session_returns (fun _ h ↦ h) fun m ↦
      Program.Returns.bind (Mailbox.chain_returns_foreign m _ ps) fun _ h ↦ .done h
  refine Program.Returns.bind hsession fun r hr ↦ ?_
  cases r with
  | ok x => exact .done hr
  | error e => exact .done hr

/-- What an operation of an SFP cage fails with. -/
theorem serve_failsBy (s : Sfp) (op : Operation) : (s.serve op).FailsBy op.Outcome := by
  cases op with
  | presence => exact s.cage.presence.read_failsBy
  | moduleInit _ | speed | portInfo => exact .pure _
  | moduleMonitorStatus flags => exact s.moduleMonitorStatus_failsBy flags
  | channelMonitorStatus channel flags => exact s.channelMonitorStatus_failsBy channel flags
  | channelStatus channel flags => exact s.channelStatus_failsBy channel flags
  | txControl channel enable => exact s.txControl_failsBy channel enable
  | txControlStatus channel => exact s.txControlStatus_failsBy channel
  | parameter p => exact s.parameter_failsBy p
  | vendorInfo v => exact .bind (s.read_failsBy _ _) fun _ ↦ .pure _
  | transceiverCode => exact .bind (s.read_failsBy _ _) fun _ ↦ .pure _
  | threshold t => exact s.threshold_failsBy t
  | moduleMonitor q => exact s.measure_failsBy _ _
  | channelMonitor channel q => exact s.channelMonitor_failsBy channel q
  | featureSupport => exact s.featureSupport_failsBy
  | readGeneric a length => exact s.read_failsBy a length
  | writeGeneric a data => exact s.write_failsBy a data
  | read offset length => exact s.read_failsBy _ length
  | write offset data => exact s.write_failsBy _ data
  | ledSet channel speed => exact s.ledSet_failsBy channel speed
  | wavelengthSet nm => exact s.wavelengthSet_failsBy nm
  | phyAutonegSet _ _ enable => exact s.session_failsBy fun _ ↦ CopperPhy.setAutoneg_failsBy enable
  | phyModeSet _ _ mode => exact s.session_failsBy fun _ ↦ CopperPhy.setMode_failsBy mode
  | phySpeedSet _ _ speed => exact s.session_failsBy fun _ ↦ CopperPhy.setSpeed_failsBy speed
  | phyLinkStatus _ _ => exact s.session_failsBy fun _ ↦ CopperPhy.linkUp_failsBy
  | phyPowerDown _ _ enable => exact s.session_failsBy fun _ ↦ CopperPhy.setPowerDown_failsBy enable
  | phySerdesControl _ _ enable =>
    exact s.session_failsBy fun _ ↦ CopperPhy.setSerdes_failsBy _ enable
  | mailboxChain ps =>
    exact .bind_lift (s.chain_returns_foreign ps) fun _ hr ↦
      .bind (.liftExcept hr.of_foreign) fun _ ↦ .pure _
  | tenGigSetRate speed => exact s.session_failsBy fun m ↦ s.phy.setRate_failsBy m speed
  | tenGigTxState => exact s.session_failsBy fun m ↦ s.phy.txEnabled_failsBy m
  | tenGigSetTxState enable => exact s.session_failsBy fun m ↦ s.phy.setTxEnabled_failsBy m enable
  | tenGigSystemStatus => exact s.session_failsBy fun m ↦ s.phy.systemStatus_failsBy m
  | tenGigLineStatus => exact s.session_failsBy fun m ↦ s.phy.lineStatus_failsBy m
  | tenGigLinkStatus => exact s.session_failsBy fun m ↦ s.phy.linkUp_failsBy m
  | cdrSet _ _ | cdrStatus _ | moduleControl _ _ | moduleControlStatus _ | extRateSelect _ _ _
  | adapterKind | moduleInfo => exact .refusal

end Sfp

/-! ## QSFP cages -/

namespace Qsfp

section Session

variable {E : Error → Prop} [Error.HasForeign E] (m : Selected)

theorem laneFlag_failsBy (channel : UInt8) (offset : Option UInt8) :
    (laneFlag m channel offset).FailsBy E := by
  unfold laneFlag
  split
  · exact .bind (m.readByte_failsBy _) fun _ ↦ .pure _
  · exact .pure _

theorem laneLevels_failsBy {n : UInt8} (flags : ChannelFlags) (rxPower : Bool) (lane : Lane n) :
    (laneLevels m flags rxPower lane).FailsBy E := by
  cases flags with
  | nibbles rx tx => exact .bind (m.readByte_failsBy _) fun _ ↦ .pure _
  | lanes rx tx =>
    exact .bind (laneFlag_failsBy m _ _) fun _ ↦ .bind (laneFlag_failsBy m _ _) fun _ ↦
      .bind (laneFlag_failsBy m _ _) fun _ ↦ .bind (laneFlag_failsBy m _ _) fun _ ↦ .pure _

theorem laneBit_failsBy {n : UInt8} (bit : ChannelBit) (lane : Lane n) :
    (laneBit m bit lane).FailsBy E := .bind (m.readByte_failsBy _) fun _ ↦ .pure _

theorem setLaneBits_failsBy {n : UInt8} (lane : Lane n) (on : Bool) (bits : List ChannelBit) :
    (setLaneBits m lane on bits).FailsBy E := by
  induction bits with
  | nil => exact .pure ()
  | cons bit bits ih => exact .bind (m.modify_failsBy _ _) fun _ ↦ ih

theorem anyLaneBit_failsBy {n : UInt8} (lane : Lane n) (bits : List ChannelBit) :
    (anyLaneBit m lane bits).FailsBy E := by
  induction bits with
  | nil => exact .pure false
  | cons bit bits ih => exact .bind (laneBit_failsBy m bit lane) fun _ ↦ .bind ih fun _ ↦ .pure _

theorem cdrBits_failsBy {E : Error → Prop} [Error.HasRefusal E] (q : Qsfp) :
    (q.cdrBits m).FailsBy E :=
  .bind (m.readByte_failsBy _) fun _ ↦ .refuse Error.HasRefusal.refusal (.pure _)

theorem parameterValue_failsBy (q : Qsfp) (p : Parameter) (raw : UInt32) :
    (q.parameterValue m p raw).FailsBy E := by
  have hcoded : (q.lengthCoded m).FailsBy E :=
    .ite (.bind (m.readByte_failsBy _) fun _ ↦ .pure _) (.pure _)
  cases p with
  | lengthCableAssembly => exact .bind hcoded fun _ ↦ .ite (.pure _) (.pure _)
  | _ => exact .pure _

end Session

section Access

variable {E : Error → Prop} [Error.HasForeign E] (q : Qsfp)

theorem session_failsBy {body : Selected → Procedure α} (h : ∀ m, (body m).FailsBy E) :
    (q.session body).FailsBy E := q.eeprom.session_failsBy h

theorem lane_failsBy (channel : UInt8) : FailsBy E (q.lane channel) := Lane.check_failsBy _ _

/-- What a module lacks does not keep it from being found. -/
theorem discover_failsBy : q.discover.FailsBy E := by
  refine q.session_failsBy fun m ↦ .bind (m.readByte_failsBy _) fun id ↦ .ite (.pure _) <|
    .bind (.lift _) fun _ ↦ .bind (m.readByte_failsBy _) fun revision ↦ ?_
  refine .ite ?_ (.bind (.lift _) fun _ ↦ .pure _)
  split
  · exact .bind (.lift _) fun _ ↦ .pure _
  · exact .pure _

theorem moduleInit_failsBy (present : Bool) :
    (q.moduleInit present).Returns fun x ↦ FailsBy E x.1 := by
  unfold moduleInit
  split
  · have hdiscover : q.discover.FailsBy E := q.discover_failsBy
    refine Program.Returns.bind hdiscover fun r hr ↦ ?_
    cases r with
    | error e => exact .done hr
    | ok found => exact .ask fun _ ↦ .done trivial
  · dsimp only
    split
    · exact .ask fun _ ↦ .done trivial
    · exact .done trivial

theorem breakout_failsBy (channel : UInt8) (media : MediaType) {body : Procedure α}
    (h : body.FailsBy E) : (q.breakout channel media body).FailsBy E :=
  .refuse (Error.HasForeign.foreign trivial) <| q.session_failsBy fun _ ↦
    .bind (CopperPhy.selectBreakout_failsBy channel) fun _ ↦ h

end Access

section Operations

variable {E : Error → Prop} [Error.HasRefusal E] (q : Qsfp)

theorem moduleMonitorStatus_failsBy (flags : ModuleStatus) :
    (q.moduleMonitorStatus flags).FailsBy E := by
  have hlevels (m : Selected) (quad : FlagQuad .module) (offset : UInt8) :
      Procedure.FailsBy E (do
        if flags.intersects quad.all then
          return (Levels.ofNibble ((← m.lowerByte offset) >>> 4)).reduce quad
        return .empty) :=
    .ite (.bind (m.readByte_failsBy _) fun _ ↦ .pure _) (.pure _)
  exact q.session_failsBy fun m ↦ .bind (hlevels m _ _) fun _ ↦ .bind (hlevels m _ _) fun _ ↦
    .pure _

theorem channelMonitorStatus_failsBy (channel : UInt8) (flags : ChannelMonitorStatus) :
    (q.channelMonitorStatus channel flags).FailsBy E := by
  have hlevels (m : Selected) (lane : Lane q.layout.channels) (quad : FlagQuad .channelMonitor)
      (rxPower : Bool) : Procedure.FailsBy E (do
        if flags.intersects quad.all then
          return (← laneLevels m q.layout.channelFlags rxPower lane).reduce quad
        return .empty) :=
    .ite (.bind (laneLevels_failsBy m _ _ _) fun _ ↦ .pure _) (.pure _)
  exact .bind (.liftExcept (q.lane_failsBy channel)) fun lane ↦ q.session_failsBy fun m ↦
    .bind (hlevels m lane _ _) fun _ ↦ .bind (hlevels m lane _ _) fun _ ↦ .pure _

theorem channelStatus_failsBy (channel : UInt8) (flags : ChannelStatus) :
    (q.channelStatus channel flags).FailsBy E := by
  have hflag (m : Selected) (lane : Lane q.layout.channels) (flag : ChannelStatus)
      (bit : ChannelBit) : (Sfp.flagIf flags flag (laneBit m bit lane)).FailsBy E :=
    .ite (.bind (laneBit_failsBy m _ _) fun _ ↦ .ite (.pure _) (.pure _)) (.pure _)
  exact .bind (.liftExcept (q.lane_failsBy channel)) fun lane ↦ q.session_failsBy fun m ↦
    .bind (hflag m lane _ _) fun _ ↦ .bind (hflag m lane _ _) fun _ ↦
    .bind (hflag m lane _ _) fun _ ↦ .bind (hflag m lane _ _) fun _ ↦ .pure _

theorem txControl_failsBy (channel : UInt8) (enable : Bool) :
    (q.txControl channel enable).FailsBy E :=
  .bind (.liftExcept (q.lane_failsBy channel)) fun _ ↦
    .bind (q.session_failsBy fun m ↦ .bind (m.readByte_failsBy _) fun _ ↦ .require <|
      .bind (m.modify_failsBy _ _) fun _ ↦ .pure _) fun _ ↦
    .bind (.lift _) fun _ ↦ .lift _

theorem txControlStatus_failsBy (channel : UInt8) : (q.txControlStatus channel).FailsBy E :=
  .bind (.liftExcept (q.lane_failsBy channel)) fun lane ↦
    .bind (q.session_failsBy fun m ↦ laneBit_failsBy m _ lane) fun _ ↦ .pure _

theorem cdrSet_failsBy (channel : UInt8) (enable : Bool) : (q.cdrSet channel enable).FailsBy E :=
  .bind (.liftExcept (q.lane_failsBy channel)) fun lane ↦ q.session_failsBy fun m ↦
    .bind (cdrBits_failsBy m q) fun bits ↦ setLaneBits_failsBy m lane enable bits

theorem cdrStatus_failsBy (channel : UInt8) : (q.cdrStatus channel).FailsBy E :=
  .bind (.liftExcept (q.lane_failsBy channel)) fun lane ↦ q.session_failsBy fun m ↦
    .bind (cdrBits_failsBy m q) fun bits ↦ anyLaneBit_failsBy m lane bits

theorem extRateSelect_failsBy (channel : UInt8) (revision : FirmwareRevision) (cdrEnable : Bool) :
    (q.extRateSelect channel revision cdrEnable).FailsBy E :=
  .bind (.liftExcept (q.lane_failsBy channel)) fun _ ↦ q.session_failsBy fun m ↦
    .bind (m.modify_failsBy _ _) fun _ ↦
    .bind (m.modify_failsBy _ _) fun _ ↦ .pure ()

theorem read_failsBy (a : Address) (length : Nat) : (q.eeprom.read a length).FailsBy E :=
  q.session_failsBy fun m ↦ m.read_failsBy a length

theorem write_failsBy (a : Address) (data : List UInt8) : (q.eeprom.write a data).FailsBy E :=
  q.session_failsBy fun m ↦ m.write_failsBy a data

theorem parameter_failsBy (p : Parameter) : (q.parameter p).FailsBy E := by
  dsimp only [parameter]
  split
  · rename_i hf
    refine q.session_failsBy fun m ↦ .bind (m.read_failsBy _ _) fun bytes ↦ ?_
    have hnumber : Checked.number bytes.toList = .ok (bigEndian bytes.toList) :=
      (Layout.of_holdsNumber _ _ p).number hf bytes
    rw [hnumber]
    exact parameterValue_failsBy m q p _
  · exact .bind (.lift _) fun _ ↦ .refusal

theorem featureSupport_failsBy : q.featureSupport.FailsBy E :=
  q.session_failsBy fun m ↦ .bind (m.readByte_failsBy _) fun _ ↦
    .bind m.pagingSupported_failsBy fun _ ↦ .bind (m.readByte_failsBy _) fun _ ↦ .pure _

theorem monitor_failsBy (offset : UInt8) (quantity : Quantity) :
    (q.monitor offset quantity).FailsBy E :=
  .bind (q.session_failsBy fun m ↦ m.readWord_failsBy _) fun _ ↦ .pure _

theorem channelMonitor_failsBy (channel : UInt8) (monitor : ChannelMonitor) :
    (q.channelMonitor channel monitor).FailsBy E := by
  refine .bind (.liftExcept (q.lane_failsBy channel)) fun lane ↦ ?_
  split
  · exact q.monitor_failsBy _ _
  · exact .refusal

theorem threshold_failsBy (t : Threshold) : (q.threshold t).FailsBy E := by
  unfold threshold
  split
  · exact q.session_failsBy fun m ↦ .bind m.pagingSupported_failsBy fun _ ↦ .require <|
      .bind (m.readWord_failsBy _) fun _ ↦ .pure _
  · exact .refusal

theorem driveControl_failsBy (control : ModuleControl) (enable : Bool) :
    (q.driveControl control enable).FailsBy E := by
  unfold driveControl
  split
  · exact Line.write_failsBy _ _
  · exact .refusal

theorem moduleControl_failsBy (control : ModuleControl) (enable : Bool) :
    (q.moduleControl control enable).FailsBy E := by
  dsimp only [moduleControl]
  split
  · split
    · rename_i power _
      have hbudget : (q.checkBudget power !enable).FailsBy E :=
        .ite (.bind (.lift _) fun _ ↦ .refusal) (.pure ())
      exact .bind hbudget fun _ ↦ .bind (.lift _) fun _ ↦ q.driveControl_failsBy _ _
    · exact q.driveControl_failsBy _ _
  · exact q.driveControl_failsBy _ _

theorem moduleControlStatus_failsBy (control : ModuleControl) :
    (q.moduleControlStatus control).FailsBy E := by
  unfold moduleControlStatus
  split
  · exact Line.read_failsBy _
  · exact .refusal

theorem adapterKind_failsBy : q.adapterKind.FailsBy E := by
  dsimp only [adapterKind]
  split
  · split
    · exact .bind (Line.write_failsBy _ _) fun _ ↦ .bind (.lift _) fun _ ↦
        .bind (.lift _) fun _ ↦ .bind (Line.write_failsBy _ _) fun _ ↦ .pure _
    · exact .refusal
  · exact .pure _

/-- What an operation that goes to the cage fails with. -/
theorem serveCage_failsBy (op : Operation) : (q.serveCage op).FailsBy E := by
  cases op with
  | presence => exact q.cage.presence.read_failsBy
  | moduleMonitorStatus flags => exact q.moduleMonitorStatus_failsBy flags
  | channelMonitorStatus channel flags => exact q.channelMonitorStatus_failsBy channel flags
  | channelStatus channel flags => exact q.channelStatus_failsBy channel flags
  | txControl channel enable => exact q.txControl_failsBy channel enable
  | txControlStatus channel => exact q.txControlStatus_failsBy channel
  | cdrSet channel enable => exact q.cdrSet_failsBy channel enable
  | cdrStatus channel => exact q.cdrStatus_failsBy channel
  | parameter p => exact q.parameter_failsBy p
  | vendorInfo v => exact .bind (q.read_failsBy _ _) fun _ ↦ .pure _
  | transceiverCode => exact .bind (q.read_failsBy _ _) fun _ ↦ .pure _
  | threshold t => exact q.threshold_failsBy t
  | moduleControl control enable => exact q.moduleControl_failsBy control enable
  | moduleControlStatus control => exact q.moduleControlStatus_failsBy control
  | moduleMonitor monitor => cases monitor <;> exact q.monitor_failsBy _ _
  | channelMonitor channel monitor => exact q.channelMonitor_failsBy channel monitor
  | featureSupport => exact q.featureSupport_failsBy
  | readGeneric a length => exact q.read_failsBy a length
  | writeGeneric a data => exact q.write_failsBy a data
  | read offset length => exact q.read_failsBy _ length
  | write offset data => exact q.write_failsBy _ data
  | extRateSelect channel revision cdrEnable =>
    exact q.extRateSelect_failsBy channel revision cdrEnable
  | adapterKind => exact q.adapterKind_failsBy
  | speed | portInfo | moduleInfo => exact .pure _
  | phyAutonegSet channel media enable =>
    exact q.breakout_failsBy channel media (CopperPhy.setAutoneg_failsBy enable)
  | phyModeSet channel media mode =>
    exact q.breakout_failsBy channel media (CopperPhy.setMode_failsBy mode)
  | phySpeedSet channel media speed =>
    exact q.breakout_failsBy channel media (CopperPhy.setSpeed_failsBy speed)
  | moduleInit _ | ledSet _ _ | wavelengthSet _ | phyLinkStatus _ _ | phyPowerDown _ _ _
  | phySerdesControl _ _ _ | mailboxChain _ | tenGigSetRate _ | tenGigTxState
  | tenGigSetTxState _ | tenGigSystemStatus | tenGigLineStatus | tenGigLinkStatus =>
    exact .refusal

theorem serve_failsBy (op : Operation) : (q.serve op).FailsBy op.Outcome := by
  unfold serve
  split
  · exact Sfp.serve_failsBy _ op
  · exact .refusal
  · exact q.serveCage_failsBy op

theorem chain_returns_outcome (ps : List Packet) :
    (q.chain ps).Returns fun r ↦ FailsBy Error.IsOutcome r.2 := by
  unfold chain
  split
  · rename_i s _
    exact fun σ env b ↦ (s.chain_returns_foreign ps σ env b).of_foreign
  · exact .done (.inr rfl)

theorem perform_failsBy (op : Operation) :
    (q.perform op).Returns fun x ↦ FailsBy op.Outcome x.1 := by
  cases op with
  | moduleInit present => exact q.moduleInit_failsBy present
  | _ => exact (q.serve_failsBy _).keeping

end Operations

end Qsfp

/-! ## Logical ports -/

namespace SubPort

variable (p : SubPort)

theorem channel_failsBy {E : Error → Prop} [Error.HasForeign E] (c : UInt8) :
    FailsBy E (p.channel c) := by
  unfold channel
  split
  · trivial
  · exact Error.HasForeign.foreign trivial

theorem presence_failsBy {E : Error → Prop} [Error.HasForeign E] : p.presence.FailsBy E := by
  refine .bind (Line.read_failsBy _) fun present ↦ ?_
  split
  · split
    · exact .lift _
    · exact .pure _
  · exact .pure _

theorem serve_failsBy (op : Operation) : (p.serve op).FailsBy op.Outcome := by
  cases op with
  | presence => exact p.presence_failsBy
  | channelMonitorStatus c _ | channelStatus c _ | txControl c _ | txControlStatus c
  | cdrSet c _ | cdrStatus c | channelMonitor c _ | extRateSelect c _ _ | phyAutonegSet c _ _
  | phyModeSet c _ _ | phySpeedSet c _ _ | phyLinkStatus c _ | phyPowerDown c _ _
  | phySerdesControl c _ _ =>
    exact .bind (.liftExcept (p.channel_failsBy c)) fun _ ↦ p.inner.serve_failsBy _
  | _ => exact p.inner.serve_failsBy _

theorem perform_failsBy (op : Operation) :
    (p.perform op).Returns fun x ↦ FailsBy op.Outcome x.1 := by
  cases op with
  | moduleInit present =>
    exact Program.Returns.bind (p.inner.moduleInit_failsBy present) fun _ h ↦ .done h
  | _ => exact (p.serve_failsBy _).keeping

end SubPort

namespace Driver

variable (v : Driver)

/-- Whatever the surroundings answer, an operation fails with nothing but an outcome of it. -/
theorem perform_failsBy (op : Operation) :
    (v.perform op).Returns fun x ↦ FailsBy op.Outcome x.1 := by
  cases v with
  | sfp d => exact Program.Returns.bind (d.serve_failsBy op).keeping fun _ h ↦ .done h
  | qsfp d => exact Program.Returns.bind (d.perform_failsBy op) fun _ h ↦ .done h
  | subPort d => exact Program.Returns.bind (d.perform_failsBy op) fun _ h ↦ .done h

theorem chain_returns_outcome (ps : List Packet) :
    (v.chain ps).Returns fun r ↦ FailsBy Error.IsOutcome r.2 := by
  cases v with
  | sfp d => exact fun σ env b ↦ (d.chain_returns_foreign ps σ env b).of_foreign
  | qsfp d => exact d.chain_returns_outcome ps
  | subPort d => exact d.inner.chain_returns_outcome ps

end Driver

end Transceiver
