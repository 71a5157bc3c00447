import Transceiver.Proofs.Conduct.Driver
import Transceiver.Proofs.Session

/-!
# What a query does

A query looks at lines and at bytes, one after the other up to the first look that fails.  It does
so in sessions and on pages that are left again, and after those there is nothing more on the bus.

Main statement: every operation that asks for something is a query, of the lines of its cage and of
bytes before the last one of a device, but for the bytes that it was asked for by their place.
-/

namespace Transceiver

variable {α β : Type}

/-! ## Looking -/

/-- What a query may look at, and how it gets there. -/
structure Scope where
  selector : Selector
  presence : Line
  line : Line → Prop
  /-- The bytes of a device from an offset on, by their number. -/
  bytes : UInt8 → UInt8 → Nat → Prop

namespace Scope

/-- Nothing on the bus. -/
def offBus (S : Scope) : Scope := { S with bytes := fun _ _ _ ↦ False }

/-- The bytes of every device but for the last one, where a module has the state of its mailbox. -/
def Reads (S : Scope) : Prop :=
  ∀ device {offset : UInt8} {length : Nat}, offset.toNat + length ≤ 255 →
    S.bytes device offset length

end Scope

namespace Procedure

/-- Looks at lines and bytes, up to the first look that fails. -/
inductive Looks (S : Scope) : {α : Type} → Procedure α → Prop
  | pure {α : Type} (a : α) : Looks S (Pure.pure a : Procedure α)
  | throw {α : Type} (e : Error) : Looks S (MonadExcept.throw e : Procedure α)
  | idle {α : Type} {p : Program α} :
      p.MadeOf (Single Action.IsIdle) → Looks S (liftM p : Procedure α)
  | line (l : Line) : S.line l → Looks S l.read
  | bytes (device offset : UInt8) (length : Nat) :
      S.bytes device offset length → Looks S (Bus.read device offset length)
  | bind {α β : Type} {p : Procedure α} {f : α → Procedure β} :
      Looks S p → (∀ a, Looks S (f a)) → Looks S (p >>= f)

/-- Looks at lines, and at a module in a session or on a page.  Once that is left there are only
lines to look at. -/
inductive Queries (S : Scope) : {α : Type} → Procedure α → Prop
  | looks {α : Type} {p : Procedure α} : p.Looks S → Queries S p
  | onPage (device page : UInt8) {α : Type} {body : Procedure α} :
      body.Looks S → Queries S (Selected.onPage device page body)
  | session (e : Eeprom) {α : Type} {body : Selected → Procedure α} :
      e.selector = S.selector → e.presence = some S.presence → Queries S (body e.selected) →
      Queries S (e.session body)
  | after {α β : Type} {p : Procedure α} {f : α → Procedure β} :
      p.Looks S → (∀ a, Queries S (f a)) → Queries S (p >>= f)
  | before {α β : Type} {p : Procedure α} {f : α → Procedure β} :
      Queries S p → (∀ a, (f a).Looks S.offBus) → Queries S (p >>= f)

variable {S : Scope} {p q : Procedure α} {f : α → Procedure β}

namespace Looks

theorem liftExcept (r : Except Error α) : Looks S (liftM r : Procedure α) := by
  cases r with
  | ok a => exact .pure a
  | error e => exact .throw e

theorem map {f : α → β} (h : p.Looks S) : Looks S (f <$> p) := by
  rw [map_eq_pure_bind]
  exact h.bind fun a ↦ .pure (f a)

theorem ite {c : Prop} [Decidable c] (hp : p.Looks S) (hq : q.Looks S) :
    Looks S (if c then p else q) := by
  split
  · exact hp
  · exact hq

/-- A procedure that goes on only if a condition holds. -/
theorem require {c : Prop} [Decidable c] {e : Error} (h : p.Looks S) :
    Looks S (if c then p else (do MonadExcept.throw e; p)) :=
  .ite h (.bind (.throw e) fun _ ↦ h)

theorem report (severity : Severity) (message : String) (fields : List (String × String)) :
    Looks S (liftM (Transceiver.report severity message fields) : Procedure Unit) :=
  .idle (report_madeOf _ _ _)

end Looks

namespace Queries

theorem pure (a : α) : Queries S (Pure.pure a : Procedure α) := .looks (.pure a)

theorem throw (e : Error) : Queries S (MonadExcept.throw e : Procedure α) := .looks (.throw e)

theorem ite {c : Prop} [Decidable c] (hp : p.Queries S) (hq : q.Queries S) :
    Queries S (if c then p else q) := by
  split
  · exact hp
  · exact hq

/-- A procedure that goes on only if a condition holds. -/
theorem require {c : Prop} [Decidable c] {e : Error} (h : p.Queries S) :
    Queries S (if c then p else (do MonadExcept.throw e; p)) :=
  .ite h (.after (.throw e) fun _ ↦ h)

/-- A procedure that goes on only if a condition fails. -/
theorem refuse {c : Prop} [Decidable c] {e : Error} (h : p.Queries S) :
    Queries S (if c then (do MonadExcept.throw e; p) else p) :=
  .ite (.after (.throw e) fun _ ↦ h) h

end Queries

end Procedure

/-! ## The memory of a module -/

section Memory

variable {S : Scope} {m : Selected} {a : Address}

namespace Bus

variable {device offset : UInt8}

theorem readByte_looks (h : S.bytes device offset 1) : (readByte device offset).Looks S :=
  .bind (.bytes _ _ _ h) fun b ↦ .pure (byteIn b)

theorem readWord_looks (h : S.bytes device offset 2) : (readWord device offset).Looks S :=
  .bind (.bytes _ _ _ h) fun b ↦ .pure (wordIn b)

end Bus

namespace Selected

theorem read_looks (ha : a.page = .ignore) {length : Nat}
    (h : S.bytes (a.device.resolve m.address) a.offset length) : (m.read a length).Looks S := by
  refine .bind (.liftExcept _) fun _ ↦ ?_
  rw [paged_unpaged ha]
  exact .bytes _ _ _ h

variable (hS : S.Reads)
include hS

theorem pagingSupported_looks (m : Selected) : m.pagingSupported.Looks S := by
  unfold pagingSupported
  split
  · exact .bind (Bus.readByte_looks (hS _ (by decide))) fun status ↦ .pure _
  · exact .bind (Bus.readByte_looks (hS _ (by decide))) fun options ↦ .pure _
  · exact .pure false

theorem readByte_looks (ha : a.page = .ignore) (h : a.offset.toNat + 1 ≤ 255) :
    (m.readByte a).Looks S := .bind (read_looks ha (hS _ h)) fun b ↦ .pure (byteIn b)

theorem readWord_looks (ha : a.page = .ignore) (h : a.offset.toNat + 2 ≤ 255) :
    (m.readWord a).Looks S := .bind (read_looks ha (hS _ h)) fun b ↦ .pure (wordIn b)

theorem lowerByte_looks (m : Selected) {offset : UInt8} (h : offset.toNat + 1 ≤ 255) :
    (m.lowerByte offset).Looks S := readByte_looks hS rfl h

theorem read_queries {length : Nat} (h : S.bytes (a.device.resolve m.address) a.offset length) :
    (m.read a length).Queries S := by
  refine .after (.liftExcept _) fun _ ↦ ?_
  unfold paged
  split
  · exact .looks (.bytes _ _ _ h)
  · exact .after (m.pagingSupported_looks hS) fun supported ↦ .ite
      (.onPage _ _ (.bytes _ _ _ h))
      (.after (.report _ _ _) fun _ ↦ .looks (.bytes _ _ _ h))

theorem readWord_queries (h : a.offset.toNat + 2 ≤ 255) : (m.readWord a).Queries S :=
  .before (m.read_queries hS (hS _ h)) fun b ↦ .pure (wordIn b)

end Selected

end Memory

/-! ## Cages -/

/-- The lines that are wired to a cage. -/
def Cage.lines (c : Cage) : List Line :=
  c.presence :: (c.reset.toList ++ c.lowPower.toList ++ c.txControl.toList ++ c.rxLoss.toList ++
    c.txFault.toList ++ (c.portLed.map PortLed.line).toList)

/-- The scope takes in the lines of a cage and the memory of its module. -/
structure Scope.Admits (S : Scope) (c : Cage) : Prop where
  selector : c.selector = S.selector
  presence : c.presence = S.presence
  line : ∀ l ∈ c.lines, S.line l
  reads : S.Reads

/-- The module in an adapter is looked at as the one in the cage. -/
theorem Scope.Admits.adapted {S : Scope} {c : Cage} (hS : S.Admits c) : S.Admits c.adapted :=
  ⟨hS.selector, hS.presence, fun l hl ↦ hS.line l (by simp_all [Cage.lines, Cage.adapted]),
    hS.reads⟩

/-- An operation asks for some bytes by their place. -/
def Operation.Peeks (op : Operation) (address device offset : UInt8) (length : Nat) : Prop :=
  match op with
  | .readGeneric a n => device = a.device.resolve address ∧ offset = a.offset ∧ length = n
  | .read o n => device = address ∧ offset = o ∧ length = n
  | _ => False

/-- An operation that only asks for something. -/
def Operation.IsQuery : Operation → Prop
  | .presence | .moduleMonitorStatus _ | .channelMonitorStatus _ _ | .channelStatus _ _
  | .txControlStatus _ | .cdrStatus _ | .speed | .parameter _ | .vendorInfo _ | .transceiverCode
  | .threshold _ | .moduleControlStatus _ | .moduleMonitor _ | .channelMonitor _ _
  | .featureSupport | .readGeneric _ _ | .read _ _ | .portInfo | .moduleInfo
  | .phyLinkStatus _ _ => True
  | _ => False

/-! ## SFP cages -/

namespace Sfp

section Memory

variable {S : Scope} (hS : S.Reads) (m : Selected)
include hS

theorem enhancedOptions_looks : (enhancedOptions m).Looks S := m.lowerByte_looks hS (by decide)

theorem requireAlarms_looks : (requireAlarms m).Looks S :=
  .bind (enhancedOptions_looks hS m) fun _ ↦ .ite (.pure ()) (.throw _)

theorem requireSoftTxDisable_looks : (requireSoftTxDisable m).Looks S :=
  .bind (enhancedOptions_looks hS m) fun _ ↦ .ite (.pure ()) (.throw _)

theorem calibrationKind_looks : (calibrationKind m).Looks S :=
  .bind (m.lowerByte_looks hS (by decide)) fun _ ↦ .require <| .ite (.pure _) <|
    .ite (.pure _) <| .bind (.report _ _ _) fun _ ↦ .throw _

theorem linearReading_looks {K : Type} [Scalar K] (kind : CalibrationKind) (q : LinearQuantity)
    (w : UInt16) : (linearReading (K := K) m kind q w).Looks S := by
  refine .bind ?_ fun _ ↦ .pure _
  cases kind with
  | internal => exact .pure _
  | external =>
    have hrange : q.calibrationOffset.toNat + 4 ≤ 255 := by cases q <;> decide
    exact .bind (Selected.read_looks rfl (hS _ hrange)) fun _ ↦ .pure _

theorem reading_looks (kind : CalibrationKind) (q : Quantity) (w : UInt16) :
    (reading m kind q w).Looks S := by
  cases q with
  | temperature => exact linearReading_looks hS m kind _ w
  | voltage => exact linearReading_looks hS m kind _ w
  | txBias => exact linearReading_looks hS m kind _ w
  | txPower => exact .map (linearReading_looks hS m kind _ w)
  | rxPower =>
    refine .bind ?_ fun _ ↦ .pure _
    cases kind with
    | internal => exact .pure _
    | external => exact .bind (Selected.read_looks rfl (hS _ (by decide))) fun _ ↦ .pure _

theorem flagByte_looks {k : Subject} (flags wanted : Flags k) {offset : UInt8}
    (h : offset.toNat + 1 ≤ 255) : (flagByte m flags wanted offset).Looks S :=
  .ite (Selected.readByte_looks hS rfl h) (.pure 0)

theorem softStatus_looks : (softStatus m).Looks S :=
  .bind (enhancedOptions_looks hS m) fun _ ↦ .ite (.pure _) <|
    .bind (Selected.readByte_looks hS rfl (by decide)) fun _ ↦ .pure _

end Memory

section Operations

variable {S : Scope} (s : Sfp) (hS : S.Admits s.cage)
include hS

theorem session_queries {body : Selected → Procedure α} (h : (body s.eeprom.selected).Queries S) :
    (s.session body).Queries S :=
  .session s.eeprom hS.selector (congrArg some hS.presence) h

/-- In a session an SFP module is looked at straight on. -/
theorem session_looks {body : Selected → Procedure α} (h : (body s.eeprom.selected).Looks S) :
    (s.session body).Queries S := s.session_queries hS (.looks h)

theorem measure_queries {a : Address} (ha : a.page = .ignore) (hrange : a.offset.toNat + 2 ≤ 255)
    {interpret : Selected → CalibrationKind → UInt16 → Procedure α}
    (h : ∀ m kind w, (interpret m kind w).Looks S) : (s.measure a interpret).Queries S :=
  s.session_looks hS <| .bind (calibrationKind_looks hS.reads _) fun kind ↦
    .bind (Selected.readWord_looks hS.reads ha hrange) fun w ↦ h _ kind w

theorem monitor_queries (q : Quantity) : (s.monitor q).Queries S :=
  s.measure_queries hS rfl (by cases q <;> decide) fun m kind w ↦ reading_looks hS.reads m kind q w

theorem threshold_queries (t : Threshold) : (s.threshold t).Queries S := by
  unfold threshold
  split
  · exact .throw _
  · rename_i a ha
    dsimp only [MemoryMap.thresholdAddress?] at ha
    obtain ⟨-, ha⟩ := Option.ite_none_right_eq_some.mp ha
    cases ha
    have hrange : (sfpMap.threshold t).offset.toNat + 2 ≤ 255 := by
      obtain ⟨quantity, limit⟩ := t
      cases quantity <;> cases limit <;> decide
    exact s.measure_queries hS rfl hrange fun m kind w ↦ reading_looks hS.reads m kind _ w

theorem moduleMonitorStatus_queries (flags : ModuleStatus) :
    (s.moduleMonitorStatus flags).Queries S :=
  s.session_looks hS <| .bind (requireAlarms_looks hS.reads _) fun _ ↦
    .bind (flagByte_looks hS.reads _ _ _ (by decide)) fun _ ↦
    .bind (flagByte_looks hS.reads _ _ _ (by decide)) fun _ ↦ .pure _

theorem channelMonitorStatus_queries (channel : UInt8) (flags : ChannelMonitorStatus) :
    (s.channelMonitorStatus channel flags).Queries S :=
  .after (.liftExcept _) fun _ ↦ s.session_looks hS <|
    .bind (requireAlarms_looks hS.reads _) fun _ ↦
    .bind (flagByte_looks hS.reads _ _ _ (by decide)) fun _ ↦
    .bind (flagByte_looks hS.reads _ _ _ (by decide)) fun _ ↦
    .bind (flagByte_looks hS.reads _ _ _ (by decide)) fun _ ↦
    .bind (flagByte_looks hS.reads _ _ _ (by decide)) fun _ ↦ .pure _

omit hS in
/-- A condition is looked at on its line, if it has one. -/
theorem flagIf_looks (flags flag : ChannelStatus) {line : Option Line}
    (h : ∀ l ∈ line, S.line l) (soft : SoftStatus) (supportBit stateBit : Bit) :
    (flagIf flags flag (condition line soft supportBit stateBit)).Looks S := by
  have hcondition : (condition line soft supportBit stateBit).Looks S := by
    unfold condition
    split
    · exact .line _ (h _ rfl)
    · split
      · exact .ite (.pure _) (.throw _)
      · exact .throw _
  exact .ite (.bind hcondition fun _ ↦ .ite (.pure _) (.pure _)) (.pure _)

theorem channelStatus_queries (channel : UInt8) (flags : ChannelStatus) :
    (s.channelStatus channel flags).Queries S := by
  have hline {line : Option Line} (h : ∀ l ∈ line, l ∈ s.cage.lines) (flag : ChannelStatus)
      (soft : SoftStatus) (supportBit stateBit : Bit) :
      (flagIf flags flag (condition line soft supportBit stateBit)).Looks S.offBus :=
    flagIf_looks (S := S.offBus) flags flag (fun l hl ↦ hS.line l (h l hl)) soft _ _
  have rest : ∀ soft : SoftStatus, Procedure.Looks S.offBus (do
      let disabled ← flagIf flags ChannelStatus.txDisable
        (condition s.cage.txControl soft SfpMap.softTxDisableBit SfpMap.txDisableStateBit)
      let fault ← flagIf flags ChannelStatus.txFault
        (condition s.cage.txFault soft SfpMap.softTxFaultBit SfpMap.txFaultStateBit)
      let loss ← flagIf flags ChannelStatus.rxLoss
        (condition s.cage.rxLoss soft SfpMap.softRxLossBit SfpMap.rxLossStateBit)
      return disabled ||| fault ||| loss) := fun soft ↦
    .bind (hline (by simp_all [Cage.lines]) _ _ _ _) fun _ ↦
      .bind (hline (by simp_all [Cage.lines]) _ _ _ _) fun _ ↦
      .bind (hline (by simp_all [Cage.lines]) _ _ _ _) fun _ ↦ .pure _
  exact .after (.liftExcept _) fun _ ↦ .refuse <| .ite (.before (.pure _) rest)
    (.before (s.session_looks hS (softStatus_looks hS.reads _)) rest)

theorem txControlStatus_queries (channel : UInt8) : (s.txControlStatus channel).Queries S := by
  refine .after (.liftExcept _) fun _ ↦ ?_
  split
  · rename_i line hline
    exact .looks (.bind (.line _ (hS.line _ (by simp [Cage.lines, hline]))) fun _ ↦ .pure _)
  · exact s.session_looks hS <| .bind (requireSoftTxDisable_looks hS.reads _) fun _ ↦
      .bind (Selected.readByte_looks hS.reads rfl (by decide)) fun _ ↦ .pure _

theorem read_queries {a : Address} {length : Nat}
    (h : S.bytes (a.device.resolve s.cage.address) a.offset length) :
    (s.eeprom.read a length).Queries S :=
  s.session_queries hS (Selected.read_queries hS.reads h)

theorem parameter_queries (p : Parameter) : (s.parameter p).Queries S := by
  have hrange : (sfpMap.param p).offset.toNat + (sfpMap.param p).size.toNat ≤ 255 := by
    cases p <;> decide
  dsimp only [parameter]
  split
  · refine .before (s.read_queries hS (hS.reads _ hrange)) fun bytes ↦ ?_
    split
    · exact .pure _
    · exact .throw _
  · exact .after (.report _ _ _) fun _ ↦ .throw _

theorem vendorInfo_queries (v : VendorField) : (s.vendorInfo v).Queries S := by
  have hrange : (sfpMap.vendor v).offset.toNat + (sfpMap.vendor v).vendorLength ≤ 255 := by
    cases v <;> decide
  exact .before (s.read_queries hS (hS.reads _ hrange)) fun _ ↦ .pure _

theorem transceiverCode_queries : s.transceiverCode.Queries S :=
  .before (s.read_queries hS (hS.reads _ (by decide))) fun _ ↦ .pure _

theorem featureSupport_queries : s.featureSupport.Queries S :=
  s.session_looks hS <| .bind (enhancedOptions_looks hS.reads _) fun _ ↦
    .bind (Selected.lowerByte_looks hS.reads _ (by decide)) fun _ ↦ .pure _

theorem linkUp_queries : (s.session fun _ ↦ CopperPhy.linkUp).Queries S := by
  have hread : (CopperPhy.read CopperPhy.linkStatus).Looks S :=
    .bind (Bus.readWord_looks (hS.reads _ (by decide))) fun _ ↦
      .bind (.report _ _ _) fun _ ↦ .pure _
  exact s.session_looks hS (.bind hread fun _ ↦ .pure _)

/-- Every operation that asks for something is a query. -/
theorem serve_queries {op : Operation} (hop : op.IsQuery)
    (hpeeks : ∀ device offset length, op.Peeks s.cage.address device offset length →
      S.bytes device offset length) : (s.serve op).Queries S := by
  cases op with
  | presence => exact .looks (.line _ (hS.line _ (by simp [Cage.lines])))
  | moduleMonitorStatus flags => exact s.moduleMonitorStatus_queries hS flags
  | channelMonitorStatus channel flags => exact s.channelMonitorStatus_queries hS channel flags
  | channelStatus channel flags => exact s.channelStatus_queries hS channel flags
  | txControlStatus channel => exact s.txControlStatus_queries hS channel
  | parameter p => exact s.parameter_queries hS p
  | vendorInfo v => exact s.vendorInfo_queries hS v
  | transceiverCode => exact s.transceiverCode_queries hS
  | threshold t => exact s.threshold_queries hS t
  | moduleMonitor q => exact s.monitor_queries hS _
  | channelMonitor channel q =>
    exact .after (.liftExcept _) fun _ ↦ s.monitor_queries hS _
  | featureSupport => exact s.featureSupport_queries hS
  | readGeneric a length => exact s.read_queries hS (hpeeks _ _ _ ⟨rfl, rfl, rfl⟩)
  | read offset length => exact s.read_queries hS (hpeeks _ _ _ ⟨rfl, rfl, rfl⟩)
  | phyLinkStatus _ _ => exact s.linkUp_queries hS
  | speed | portInfo => exact .pure _
  | cdrStatus _ | moduleControlStatus _ | moduleInfo => exact .throw _
  | moduleInit _ | txControl _ _ | cdrSet _ _ | moduleControl _ _ | writeGeneric _ _ | write _ _
  | ledSet _ _ | extRateSelect _ _ _ | wavelengthSet _ | adapterKind | phyAutonegSet _ _ _
  | phyModeSet _ _ _ | phySpeedSet _ _ _ | phyPowerDown _ _ _ | phySerdesControl _ _ _
  | mailboxChain _ | tenGigSetRate _ | tenGigTxState | tenGigSetTxState _ | tenGigSystemStatus
  | tenGigLineStatus | tenGigLinkStatus => exact hop.elim

end Operations

end Sfp

/-! ## QSFP cages -/

namespace Layout

/-- Bytes and words of a layout lie before the last byte of a device. -/
structure InMemory (l : Layout) : Prop where
  monitors : l.temperature.toNat + 2 ≤ 255 ∧ l.voltage.toNat + 2 ≤ 255
  flags : l.temperatureFlags.toNat + 1 ≤ 255 ∧ l.voltageFlags.toNat + 1 ≤ 255
  bits : ∀ b ∈ [l.txLoss, l.rxLoss, l.txFault, l.txDisable, l.cdrTx, l.cdrRx],
    b.offset.toNat + 1 ≤ 255
  lanes : l.channels.toNat ≤ 8
  words : ∀ monitor, ∀ base ∈ Qsfp.monitorBase? l monitor, base.toNat ≤ 66
  nibbles : ∀ rx tx, l.channelFlags = .nibbles rx tx → rx.toNat ≤ 11 ∧ tx.toNat ≤ 11
  laneFlags : ∀ rx tx, l.channelFlags = .lanes rx tx → ∀ flags ∈ [rx, tx],
    ∀ o ∈ [flags.highAlarm, flags.lowAlarm, flags.highWarning, flags.lowWarning],
    ∀ offset ∈ o, offset.toNat + 1 ≤ 255
  param : ∀ p, (l.map.param p).offset.toNat + (l.map.param p).size.toNat ≤ 255
  vendor : ∀ v, (l.map.vendor v).offset.toNat + (l.map.vendor v).vendorLength ≤ 255
  threshold : ∀ t, (l.map.threshold t).offset.toNat + 2 ≤ 255

theorem inMemory (category : Category) (revision : UInt8) :
    (Layout.of category revision).InMemory := by
  rcases of_cases category revision with h | h | h | h <;> rw [h]
  all_goals
    refine ⟨by decide, by decide, by decide, by decide, ?_, ?_, ?_, ?_, ?_, ?_⟩
    · intro monitor base h
      cases monitor <;> cases h <;> decide
    · rintro _ _ ⟨⟩ <;> decide
    · rintro _ _ ⟨⟩ <;> decide +kernel
    · intro p
      cases p <;> decide
    · intro v
      cases v <;> decide
    · rintro ⟨quantity, limit⟩
      cases quantity <;> cases limit <;> decide

end Layout

namespace Qsfp

theorem layout_inMemory (q : Qsfp) : q.layout.InMemory := Layout.inMemory _ _

section Memory

variable {S : Scope} (hS : S.Reads) (m : Selected)
include hS

theorem laneFlag_looks (channel : UInt8) {offset : Option UInt8}
    (h : ∀ o ∈ offset, o.toNat + 1 ≤ 255) : (laneFlag m channel offset).Looks S := by
  unfold laneFlag
  split
  · exact .bind (m.lowerByte_looks hS (h _ rfl)) fun _ ↦ .pure _
  · exact .pure false

theorem laneLevels_looks {l : Layout} (hl : l.InMemory) (rxPower : Bool)
    (lane : Lane l.channels) : (laneLevels m l.channelFlags rxPower lane).Looks S := by
  unfold laneLevels
  split
  · rename_i rx tx heq
    have hflags := hl.nibbles rx tx heq
    have hlane : lane.channel.toNat < l.channels.toNat := lane.lt
    have hlanes := hl.lanes
    have hrange : ((if rxPower then rx else tx) + lane.channel / 2).toNat + 1 ≤ 255 := by
      have : (if rxPower then rx else tx).toNat ≤ 11 := by
        cases rxPower
        · exact hflags.2
        · exact hflags.1
      rw [UInt8.toNat_add, UInt8.toNat_div]
      change (_ + _ / 2) % 256 + 1 ≤ 255
      omega
    exact .bind (m.lowerByte_looks hS hrange) fun _ ↦ .pure _
  · rename_i rx tx heq
    have hflags := hl.laneFlags rx tx heq
    have hoffsets : ∀ o ∈ [(if rxPower then rx else tx).highAlarm,
        (if rxPower then rx else tx).lowAlarm, (if rxPower then rx else tx).highWarning,
        (if rxPower then rx else tx).lowWarning], ∀ offset ∈ o, offset.toNat + 1 ≤ 255 := by
      cases rxPower
      · exact hflags tx (.tail _ (.head _))
      · exact hflags rx (.head _)
    exact .bind (laneFlag_looks hS m _ (hoffsets _ (.head _))) fun _ ↦
      .bind (laneFlag_looks hS m _ (hoffsets _ (.tail _ (.head _)))) fun _ ↦
      .bind (laneFlag_looks hS m _ (hoffsets _ (.tail _ (.tail _ (.head _))))) fun _ ↦
      .bind (laneFlag_looks hS m _ (hoffsets _ (.tail _ (.tail _ (.tail _ (.head _)))))) fun _ ↦
      .pure _

theorem laneBit_looks {n : UInt8} {bit : ChannelBit} (h : bit.offset.toNat + 1 ≤ 255)
    (lane : Lane n) : (laneBit m bit lane).Looks S :=
  .bind (m.lowerByte_looks hS h) fun _ ↦ .pure _

theorem anyLaneBit_looks {n : UInt8} (lane : Lane n) {bits : List ChannelBit}
    (h : ∀ b ∈ bits, b.offset.toNat + 1 ≤ 255) : (anyLaneBit m lane bits).Looks S := by
  induction bits with
  | nil => exact .pure false
  | cons bit bits ih =>
    exact .bind (laneBit_looks hS m (h bit (.head _)) lane) fun _ ↦
      .bind (ih fun b hb ↦ h b (.tail _ hb)) fun _ ↦ .pure _

theorem parameterValue_looks (q : Qsfp) (p : Parameter) (raw : UInt32) :
    (q.parameterValue m p raw).Looks S := by
  unfold parameterValue
  split
  · exact .pure _
  · exact .pure _
  · exact .pure _
  · exact .bind (.ite (.bind (m.lowerByte_looks hS (by decide)) fun _ ↦ .pure _) (.pure false))
      fun _ ↦ .ite (.pure _) (.pure _)
  · exact .pure _

end Memory

section Operations

variable {S : Scope} (q : Qsfp) (hS : S.Admits q.cage)
include hS

theorem session_queries {body : Selected → Procedure α} (h : (body q.eeprom.selected).Queries S) :
    (q.session body).Queries S :=
  .session q.eeprom hS.selector (congrArg some hS.presence) h

theorem session_looks {body : Selected → Procedure α} (h : (body q.eeprom.selected).Looks S) :
    (q.session body).Queries S := q.session_queries hS (.looks h)

theorem read_queries {a : Address} {length : Nat}
    (h : S.bytes (a.device.resolve q.cage.address) a.offset length) :
    (q.eeprom.read a length).Queries S :=
  q.session_queries hS (Selected.read_queries hS.reads h)

theorem moduleMonitorStatus_queries (flags : ModuleStatus) :
    (q.moduleMonitorStatus flags).Queries S := by
  have hflags := q.layout_inMemory.flags
  refine q.session_looks hS ?_
  dsimp only
  exact .bind (.ite (.bind (Selected.lowerByte_looks hS.reads _ hflags.1) fun _ ↦ .pure _)
    (.pure _)) fun _ ↦
    .bind (.ite (.bind (Selected.lowerByte_looks hS.reads _ hflags.2) fun _ ↦ .pure _)
      (.pure _)) fun _ ↦ .pure _

theorem channelMonitorStatus_queries (channel : UInt8) (flags : ChannelMonitorStatus) :
    (q.channelMonitorStatus channel flags).Queries S := by
  refine .after (.liftExcept _) fun lane ↦ q.session_looks hS ?_
  have hlevels (rxPower : Bool) :
      (laneLevels q.eeprom.selected q.layout.channelFlags rxPower lane).Looks S :=
    laneLevels_looks hS.reads _ q.layout_inMemory rxPower lane
  dsimp only
  exact .bind (.ite (.bind (hlevels true) fun _ ↦ .pure _) (.pure _)) fun _ ↦
    .bind (.ite (.bind (hlevels false) fun _ ↦ .pure _) (.pure _)) fun _ ↦ .pure _

theorem channelStatus_queries (channel : UInt8) (flags : ChannelStatus) :
    (q.channelStatus channel flags).Queries S := by
  refine .after (.liftExcept _) fun lane ↦ q.session_looks hS ?_
  have hflag {bit : ChannelBit} (hbit : bit ∈ [q.layout.txLoss, q.layout.rxLoss,
      q.layout.txFault, q.layout.txDisable, q.layout.cdrTx, q.layout.cdrRx])
      (flag : ChannelStatus) :
      (Sfp.flagIf flags flag (laneBit q.eeprom.selected bit lane)).Looks S :=
    .ite (.bind (laneBit_looks hS.reads _ (q.layout_inMemory.bits bit hbit) lane) fun _ ↦
      .ite (.pure _) (.pure _)) (.pure _)
  dsimp only
  exact .bind (hflag (by simp) _) fun _ ↦ .bind (hflag (by simp) _) fun _ ↦
    .bind (hflag (by simp) _) fun _ ↦ .bind (hflag (by simp) _) fun _ ↦ .pure _

theorem txControlStatus_queries (channel : UInt8) : (q.txControlStatus channel).Queries S :=
  .after (.liftExcept _) fun lane ↦ .before (q.session_looks hS
    (laneBit_looks hS.reads _ (q.layout_inMemory.bits _ (by simp)) lane)) fun _ ↦ .pure _

theorem cdrStatus_queries (channel : UInt8) : (q.cdrStatus channel).Queries S := by
  refine .after (.liftExcept _) fun lane ↦ q.session_looks hS ?_
  dsimp only [cdrBits]
  rw [bind_assoc]
  refine .bind (Selected.lowerByte_looks hS.reads _ (by decide)) fun options ↦ ?_
  split
  · exact (Procedure.Looks.throw _ : Procedure.Looks S (MonadExcept.throw _ : Procedure Bool))
  · refine anyLaneBit_looks hS.reads _ lane fun b hb ↦ q.layout_inMemory.bits b ?_
    grind

theorem parameter_queries (p : Parameter) : (q.parameter p).Queries S := by
  dsimp only [parameter]
  split
  · refine q.session_looks hS <| .bind
      (Selected.read_looks rfl (hS.reads _ (q.layout_inMemory.param p))) fun bytes ↦ ?_
    split
    · exact parameterValue_looks hS.reads _ q p _
    · exact .throw _
  · exact .after (.report _ _ _) fun _ ↦ .throw _

theorem vendorInfo_queries (v : VendorField) : (q.vendorInfo v).Queries S :=
  .before (q.read_queries hS (hS.reads _ (q.layout_inMemory.vendor v))) fun _ ↦ .pure _

theorem transceiverCode_queries : q.transceiverCode.Queries S :=
  .before (q.read_queries hS (hS.reads _ (by decide))) fun _ ↦ .pure _

theorem featureSupport_queries : q.featureSupport.Queries S :=
  q.session_looks hS <| .bind (Selected.lowerByte_looks hS.reads _ (by decide)) fun _ ↦
    .bind (Selected.pagingSupported_looks hS.reads _) fun _ ↦
    .bind (Selected.lowerByte_looks hS.reads _ (by decide)) fun _ ↦ .pure _

theorem monitor_queries {offset : UInt8} (h : offset.toNat + 2 ≤ 255) (quantity : Quantity) :
    (q.monitor offset quantity).Queries S :=
  .before (q.session_looks hS (Selected.readWord_looks hS.reads rfl h)) fun _ ↦ .pure _

theorem moduleMonitor_queries (monitor : ModuleMonitor) : (q.moduleMonitor monitor).Queries S := by
  cases monitor with
  | temperature => exact q.monitor_queries hS q.layout_inMemory.monitors.1 _
  | voltage => exact q.monitor_queries hS q.layout_inMemory.monitors.2 _

theorem channelMonitor_queries (channel : UInt8) (monitor : ChannelMonitor) :
    (q.channelMonitor channel monitor).Queries S := by
  refine .after (.liftExcept _) fun lane ↦ ?_
  split
  · rename_i base hbase
    have hlane : lane.channel.toNat < q.layout.channels.toNat := lane.lt
    have hlanes := q.layout_inMemory.lanes
    have hword := q.layout_inMemory.words monitor base hbase
    refine q.monitor_queries hS ?_ _
    unfold channelWord
    rw [UInt8.toNat_add, UInt8.toNat_mul]
    change (_ + 2 * _ % 256) % 256 + 2 ≤ 255
    omega
  · exact .throw _

theorem threshold_queries (t : Threshold) : (q.threshold t).Queries S := by
  unfold threshold
  split
  · rename_i a ha
    dsimp only [MemoryMap.thresholdAddress?] at ha
    obtain ⟨-, ha⟩ := Option.ite_none_right_eq_some.mp ha
    cases ha
    exact q.session_queries hS <| .after (Selected.pagingSupported_looks hS.reads _) fun _ ↦
      .require <| .before (Selected.readWord_queries hS.reads (q.layout_inMemory.threshold t))
        fun _ ↦ .pure _
  · exact .throw _

theorem moduleControlStatus_queries (control : ModuleControl) :
    (q.moduleControlStatus control).Queries S := by
  unfold moduleControlStatus
  split
  · rename_i line hline
    refine .looks (.line line (hS.line line ?_))
    cases control <;> simp_all [Cage.lines, controlLine]
  · exact .throw _

/-- Every operation on the cage that asks for something is a query. -/
theorem serveCage_queries {op : Operation} (hop : op.IsQuery)
    (hpeeks : ∀ device offset length, op.Peeks q.cage.address device offset length →
      S.bytes device offset length) : (q.serveCage op).Queries S := by
  cases op with
  | presence => exact .looks (.line _ (hS.line _ (by simp [Cage.lines])))
  | moduleMonitorStatus flags => exact q.moduleMonitorStatus_queries hS flags
  | channelMonitorStatus channel flags => exact q.channelMonitorStatus_queries hS channel flags
  | channelStatus channel flags => exact q.channelStatus_queries hS channel flags
  | txControlStatus channel => exact q.txControlStatus_queries hS channel
  | cdrStatus channel => exact q.cdrStatus_queries hS channel
  | parameter p => exact q.parameter_queries hS p
  | vendorInfo v => exact q.vendorInfo_queries hS v
  | transceiverCode => exact q.transceiverCode_queries hS
  | threshold t => exact q.threshold_queries hS t
  | moduleControlStatus control => exact q.moduleControlStatus_queries hS control
  | moduleMonitor monitor => exact q.moduleMonitor_queries hS monitor
  | channelMonitor channel monitor => exact q.channelMonitor_queries hS channel monitor
  | featureSupport => exact q.featureSupport_queries hS
  | readGeneric a length => exact q.read_queries hS (hpeeks _ _ _ ⟨rfl, rfl, rfl⟩)
  | read offset length => exact q.read_queries hS (hpeeks _ _ _ ⟨rfl, rfl, rfl⟩)
  | speed | portInfo | moduleInfo => exact .pure _
  | phyLinkStatus _ _ => exact .throw _
  | moduleInit _ | txControl _ _ | cdrSet _ _ | moduleControl _ _ | writeGeneric _ _ | write _ _
  | ledSet _ _ | extRateSelect _ _ _ | wavelengthSet _ | adapterKind | phyAutonegSet _ _ _
  | phyModeSet _ _ _ | phySpeedSet _ _ _ | phyPowerDown _ _ _ | phySerdesControl _ _ _
  | mailboxChain _ | tenGigSetRate _ | tenGigTxState | tenGigSetTxState _ | tenGigSystemStatus
  | tenGigLineStatus | tenGigLinkStatus => exact hop.elim

theorem serve_queries {op : Operation} (hop : op.IsQuery)
    (hpeeks : ∀ device offset length, op.Peeks q.cage.address device offset length →
      S.bytes device offset length) : (q.serve op).Queries S := by
  unfold serve
  split
  · rename_i s hs _
    cases adapter?_eq_some hs
    exact Sfp.serve_queries _ hS.adapted hop hpeeks
  · exact .throw _
  · exact q.serveCage_queries hS hop hpeeks

end Operations

end Qsfp

/-! ## Logical ports -/

namespace SubPort

variable {S : Scope} (p : SubPort) (hS : S.Admits p.inner.cage)
include hS

/-- Every operation of a logical port that asks for something is a query, but for the presence of a
second port, which goes on after a session that failed. -/
theorem serve_queries {op : Operation} (hop : op.IsQuery)
    (hsecond : op = .presence → p.isSecondary = false)
    (hpeeks : ∀ device offset length, op.Peeks p.inner.cage.address device offset length →
      S.bytes device offset length) : (p.serve op).Queries S := by
  cases op with
  | presence =>
    dsimp only [serve, presence]
    rw [hsecond rfl]
    exact .after (.line _ (hS.line _ (by simp [Cage.lines]))) fun _ ↦ .ite (.pure _) (.pure _)
  | channelMonitorStatus _ _ | channelStatus _ _ | txControlStatus _ | cdrStatus _
  | channelMonitor _ _ | phyLinkStatus _ _ =>
    exact .after (.liftExcept _) fun c ↦ p.inner.serve_queries hS trivial nofun
  | _ => first | exact p.inner.serve_queries hS hop hpeeks | exact hop.elim

end SubPort

end Transceiver
