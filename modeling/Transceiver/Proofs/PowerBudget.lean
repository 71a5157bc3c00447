import Transceiver.Proofs.Adapter
import Transceiver.Proofs.ByteAccess
import Transceiver.Proofs.Observer
import Transceiver.Proofs.PageRestore

/-!
# The power budget of a port

A module gets into the high power classes in two ways: the low-power line of its cage is released,
or the power control byte of the module overrides the line.  Main statement: a driver that found a
module beyond the budget of its port lets neither of them happen, whatever it is asked for and
whatever goes wrong, and for a module within the budget the line and the byte move together.

The bus is guarded write by write.  A level of a pin group is judged by the level that was read
before it, which an observer keeps.
-/

namespace Transceiver

variable {part : Parts} {α : Type}

/-! ## Writes that keep the power class low -/

namespace Action

/-- A write that sets the bit of the high classes in the power control byte. -/
def RaisesPower : Action → Prop
  | .write _ offset data => ∃ i b, data[i]? = some b ∧
      offset.toNat + i = QsfpMap.powerControl.toNat ∧ hasBit b PowerControl.highClassBit = true
  | _ => False

/-- What leaves the pin groups alone and does not set the bit of the high classes. -/
def IsModest (a : Action) : Prop := a.IsOffPins ∧ ¬ a.RaisesPower

theorem IsQuery.isModest {a : Action} (h : a.IsQuery) : a.IsModest := by
  cases a <;> first | exact ⟨trivial, id⟩ | exact h.elim

/-- A write that does not reach the power control byte. -/
theorem isModest_of_not_covers {device offset : UInt8} {data : List UInt8}
    (h : ¬ Covers offset data.length QsfpMap.powerControl) :
    IsModest (.write device offset data) := by
  refine ⟨trivial, ?_⟩
  rintro ⟨i, b, hi, hoffset, -⟩
  have hlt : i < data.length := (List.getElem?_eq_some_iff.mp hi).1
  exact h ⟨by omega, by omega⟩

/-- A write of one byte. -/
theorem isModest_byte {device offset value : UInt8} (h : offset = QsfpMap.powerControl →
    hasBit value PowerControl.highClassBit = false) : IsModest (.write device offset [value]) := by
  refine ⟨trivial, ?_⟩
  rintro ⟨i, b, hi, hoffset, hb⟩
  obtain ⟨rfl, rfl⟩ : i = 0 ∧ value = b := by simpa [List.getElem?_singleton] using hi
  rw [h (UInt8.toNat_inj.mp hoffset)] at hb
  cases hb

theorem IsOffBus.not_raisesPower {a : Action} (h : a.IsOffBus) : ¬ a.RaisesPower := by
  cases a <;> first | exact id | cases h

end Action

instance [part.Includes Action.IsModest] : part.Includes Action.IsQuery where
  part_of_kind action h := Parts.Includes.part_of_kind action h.isModest

/-- A byte that forces low power has the bit of the high classes clear. -/
theorem PowerControl.highClass_force (control : UInt8) :
    hasBit (force control false) highClassBit = false := by
  simp [force, highClassBit, lowPowerBit, overrideBit]

/-- No lane is controlled at the power control byte. -/
theorem Layout.controls_of_ne_powerControl (category : Category) (revision : UInt8) :
    ∀ b ∈ (Layout.of category revision).controls, b.offset ≠ QsfpMap.powerControl := by
  rcases of_cases category revision with h | h | h | h <;> rw [h] <;> decide

section Session

variable [part.Includes Action.IsModest]

theorem Bus.write_modest {device offset : UInt8} {data : List UInt8}
    (h : Action.IsModest (.write device offset data)) :
    (Bus.write device offset data).MadeOf part :=
  Bus.write_madeOf (Parts.single Action.IsModest h)

/-- A change of a byte is modest if all that it may write is. -/
theorem Selected.modify_modest (m : Selected) (offset : UInt8) (f : UInt8 → UInt8)
    (h : offset = QsfpMap.powerControl → ∀ old, hasBit (f old) PowerControl.highClassBit = false) :
    (m.modify (.unpaged offset) fun b ↦ .ok (f b)).MadeOf part := by
  refine .bind (m.lowerByte_madeOf offset) fun old ↦ ?_
  have hwrite : (m.writeByte (.unpaged offset) (f old)).MadeOf part := by
    refine .bind (.liftExcept _) fun _ ↦ ?_
    rw [paged_unpaged rfl]
    exact Bus.write_modest (Action.isModest_byte fun ho ↦ h ho old)
  change Procedure.MadeOf part (do
    if f old ≠ old then m.writeByte (.unpaged offset) (f old)
    return f old)
  exact .ite (.bind hwrite fun _ ↦ .pure _) (.pure _)

namespace CopperPhy

theorem write_modest {register : UInt8} (h : ¬ Covers register 2 QsfpMap.powerControl)
    (value : UInt16) : (write register value).MadeOf part :=
  .bind (.lift (report_madeOf _ _ _)) fun _ ↦ Bus.write_modest (Action.isModest_of_not_covers h)

theorem update_modest {register : UInt8} (h : ¬ Covers register 2 QsfpMap.powerControl)
    (f : UInt16 → UInt16) : (update register f).MadeOf part :=
  .bind (read_madeOf register) fun _ ↦ write_modest h _

theorem apply_modest : apply.MadeOf part := by
  refine .bind (read_madeOf control) fun value ↦ ?_
  split
  · exact update_modest (by decide) _
  · exact .lift (report_madeOf _ _ _)

theorem setAutoneg_modest (enable : Bool) : (setAutoneg enable).MadeOf part :=
  .bind (update_modest (by decide) _) fun _ ↦ apply_modest

theorem setMode_modest (mode : PhyMode) : (setMode mode).MadeOf part :=
  .bind (update_modest (by decide) _) fun _ ↦ apply_modest

theorem setSpeed_modest (speed : Speed) : (setSpeed speed).MadeOf part := by
  unfold setSpeed
  split
  · exact .bind (update_modest (by decide) _) fun _ ↦ update_modest (by decide) _
  · exact .throw _

theorem selectBreakout_modest (channel : UInt8) : (selectBreakout channel).MadeOf part :=
  .bind (.liftExcept _) fun _ ↦ Bus.write_modest (Action.isModest_byte fun h ↦ nomatch h)

end CopperPhy

namespace Qsfp

theorem forcePower_modest (m : Selected) : (forcePower m false).MadeOf part :=
  .bind (m.lowerByte_madeOf _) fun _ ↦ .require <|
    .bind (m.modify_modest _ _ fun _ old ↦ PowerControl.highClass_force old) fun _ ↦ .pure ()

theorem setLaneBits_modest (m : Selected) {n : UInt8} (lane : Lane n) (on : Bool)
    {bits : List ChannelBit} (h : ∀ b ∈ bits, b.offset ≠ QsfpMap.powerControl) :
    (setLaneBits m lane on bits).MadeOf part := by
  induction bits with
  | nil => exact .pure ()
  | cons bit bits ih =>
    have hbit : bit.offset ≠ QsfpMap.powerControl := h bit List.mem_cons_self
    exact .bind (m.modify_modest bit.offset _ fun ho ↦ absurd ho hbit) fun _ ↦
      ih fun b hb ↦ h b (List.mem_cons_of_mem _ hb)

theorem switchCdr_modest (q : Qsfp) (m : Selected) {n : UInt8} (lane : Lane n) (on : Bool) :
    Procedure.MadeOf part (do let bits ← q.cdrBits m; setLaneBits m lane on bits) := by
  dsimp only [cdrBits]
  rw [bind_assoc]
  refine .bind (m.lowerByte_madeOf _) fun options ↦ ?_
  split
  · exact .throw _
  · have hbits : ∀ b ∈ (if hasBit options QsfpMap.txCdrBit then [q.layout.cdrTx] else []) ++
        (if hasBit options QsfpMap.rxCdrBit then [q.layout.cdrRx] else []),
        b ∈ q.layout.controls := by
      unfold Layout.controls
      grind
    exact setLaneBits_modest m lane on fun b hb ↦
      Layout.controls_of_ne_powerControl _ _ b (hbits b hb)

end Qsfp

end Session

/-! ## Operations of a cage without an adapter -/

/-- The operation neither looks for a module nor asks for a raw write. -/
def Operation.LeavesPower : Operation → Prop
  | .moduleInit _ | .writeGeneric _ _ | .write _ _ => False
  | _ => True

namespace Qsfp

/-- What an operation is made of while high power is refused: besides queries and modest sessions
there are the two lines of a cage, and the low-power line is only set. -/
inductive CarefulPart (q : Qsfp) : Parts
  | idle (action : Action) : action.IsIdle → CarefulPart q _ (Transceiver.perform action)
  | read (l : Line) : CarefulPart q _ l.read.run
  | reset {l : Line} (on : Bool) : q.cage.reset = some l → CarefulPart q _ (l.write on).run
  | lower {l : Line} : q.cage.lowPower = some l → CarefulPart q _ (l.write true).run
  | session (e : Eeprom) {α : Type} {body : Selected → Procedure α} :
      e.selector = q.cage.selector → (∀ m, (body m).MadeOf (SessionPart Action.IsModest)) →
      CarefulPart q _ (e.session body).run

section Careful

variable (q : Qsfp)

instance : q.CarefulPart.Visits q.cage where
  part_of_visit h := by
    cases h with
    | idle action ha => exact .idle action ha
    | read l => exact .read l
    | session e hs _ hbody =>
      exact .session e hs fun m ↦ (hbody m).imp fun _ _ hq ↦ hq.of_includes

theorem session_careful {body : Selected → Procedure α}
    (h : ∀ m, (body m).MadeOf (SessionPart Action.IsModest)) :
    (q.session body).MadeOf q.CarefulPart := .part (.session _ rfl h)

theorem txControl_careful (channel : UInt8) (enable : Bool) :
    (q.txControl channel enable).MadeOf q.CarefulPart := by
  have hoffset : q.layout.txDisable.offset ≠ QsfpMap.powerControl :=
    Layout.controls_of_ne_powerControl _ _ _ (.head _)
  exact .bind (.liftExcept _) fun _ ↦
    .bind (q.session_careful fun m ↦ .bind (m.lowerByte_madeOf _) fun _ ↦ .require <|
      .bind (m.modify_modest _ _ fun ho ↦ absurd ho hoffset) fun _ ↦ .pure ()) fun _ ↦
    .bind (.lift (settle_madeOf _)) fun _ ↦ .lift (report_madeOf _ _ _)

theorem cdrSet_careful (channel : UInt8) (enable : Bool) :
    (q.cdrSet channel enable).MadeOf q.CarefulPart :=
  .bind (.liftExcept _) fun lane ↦ q.session_careful fun m ↦ q.switchCdr_modest m lane enable

theorem extRateSelect_careful (channel : UInt8) (revision : FirmwareRevision) (cdrEnable : Bool) :
    (q.extRateSelect channel revision cdrEnable).MadeOf q.CarefulPart :=
  .bind (.liftExcept _) fun _ ↦ q.session_careful fun m ↦
    .bind (m.modify_modest _ _ fun ho ↦ nomatch ho) fun _ ↦
    .bind (m.modify_modest _ _ fun ho ↦ nomatch ho) fun _ ↦ .pure ()

theorem setPowerClass_careful (power : MaxPower) :
    (q.setPowerClass power false).MadeOf q.CarefulPart := by
  unfold setPowerClass
  split
  · refine .bind (q.session_careful fun m ↦ forcePower_modest m) fun r ↦ ?_
    cases r with
    | ok _ => exact report_madeOf _ _ _
    | error e =>
      dsimp only
      split
      · exact .done ()
      · exact report_madeOf _ _ _
  · exact .done ()

theorem breakout_careful (channel : UInt8) (media : MediaType) {body : Procedure α}
    (h : body.MadeOf (SessionPart Action.IsModest)) :
    (q.breakout channel media body).MadeOf q.CarefulPart :=
  .refuse <| q.session_careful fun _ ↦ .bind (CopperPhy.selectBreakout_modest channel) fun _ ↦ h

variable {q} {power : MaxPower} (hpower : q.found.maxPower = some power)
  (hbudget : q.cage.maxPowerMw < power.milliwatts)
include hpower hbudget

/-- High power is refused before anything is done. -/
theorem moduleControl_highPower_eq : q.moduleControl .lowPowerMode false = (do
    report .error "module power exceeds port budget, refusing high power"
      [("module_mw", toString power.milliwatts), ("port_mw", toString q.cage.maxPowerMw)]
    throw .notSupported) := by
  unfold moduleControl
  rw [hpower]
  dsimp only
  unfold checkBudget
  rw [if_pos (by simp [hbudget])]
  rfl

theorem moduleControl_careful (control : ModuleControl) (enable : Bool) :
    (q.moduleControl control enable).MadeOf q.CarefulPart := by
  cases control with
  | reset =>
    dsimp only [moduleControl, driveControl, controlLine]
    split
    · exact .part (.reset _ ‹_›)
    · exact .throw _
  | lowPowerMode =>
    cases enable with
    | false =>
      rw [moduleControl_highPower_eq hpower hbudget]
      exact .bind (.lift (report_madeOf _ _ _)) fun _ ↦ .throw _
    | true =>
      have hdrive : (q.driveControl .lowPowerMode true).MadeOf q.CarefulPart := by
        dsimp only [driveControl, controlLine]
        split
        · exact .part (.lower ‹_›)
        · exact .throw _
      unfold moduleControl
      rw [hpower]
      exact .bind (.pure ()) fun _ ↦ .bind (.lift (q.setPowerClass_careful power)) fun _ ↦ hdrive

theorem serveCage_careful (hadapted : q.found.adapted = false) {op : Operation}
    (hop : op.LeavesPower) : (q.serveCage op).MadeOf q.CarefulPart := by
  cases op with
  | moduleInit _ | writeGeneric _ _ | write _ _ => exact hop.elim
  | presence => exact Parts.Hosts.line q.eeprom _
  | moduleMonitorStatus flags => exact q.moduleMonitorStatus_madeOf flags
  | channelMonitorStatus channel flags => exact q.channelMonitorStatus_madeOf channel flags
  | channelStatus channel flags => exact q.channelStatus_madeOf channel flags
  | txControl channel enable => exact q.txControl_careful channel enable
  | txControlStatus channel => exact q.txControlStatus_madeOf channel
  | cdrSet channel enable => exact q.cdrSet_careful channel enable
  | cdrStatus channel => exact q.cdrStatus_madeOf channel
  | parameter p => exact q.parameter_madeOf p
  | vendorInfo v => exact q.vendorInfo_madeOf v
  | transceiverCode => exact q.transceiverCode_madeOf
  | threshold t =>
    exact q.threshold_madeOf (Selected.pagingSupported_madeOf _) fun a _ ↦
      Selected.readWord_madeOf _ a
  | moduleControl control enable => exact moduleControl_careful hpower hbudget control enable
  | moduleControlStatus control => exact q.moduleControlStatus_madeOf control
  | moduleMonitor monitor => exact q.moduleMonitor_madeOf monitor
  | channelMonitor channel monitor => exact q.channelMonitor_madeOf channel monitor
  | featureSupport => exact q.featureSupport_madeOf (Selected.pagingSupported_madeOf _)
  | readGeneric a length => exact q.read_madeOf a length
  | read offset length => exact q.read_unpaged_madeOf offset length
  | extRateSelect channel revision cdrEnable =>
    exact q.extRateSelect_careful channel revision cdrEnable
  | adapterKind =>
    unfold serveCage adapterKind
    rw [hadapted]
    exact .pure _
  | speed | portInfo | moduleInfo => exact .pure _
  | phyAutonegSet channel media enable =>
    exact q.breakout_careful channel media (CopperPhy.setAutoneg_modest enable)
  | phyModeSet channel media mode =>
    exact q.breakout_careful channel media (CopperPhy.setMode_modest mode)
  | phySpeedSet channel media speed =>
    exact q.breakout_careful channel media (CopperPhy.setSpeed_modest speed)
  | _ => exact .throw _

theorem perform_careful (hadapted : q.found.adapted = false) {op : Operation}
    (hop : op.LeavesPower) : (q.perform op).MadeOf q.CarefulPart := by
  have hserve : (q.serve op).MadeOf q.CarefulPart := by
    have hnone : q.adapter? = none := by simp [adapter?, hadapted]
    unfold serve
    rw [hnone]
    exact serveCage_careful hpower hbudget hadapted hop
  cases op with
  | moduleInit _ => exact hop.elim
  | _ => exact keeping_madeOf q hserve

end Careful

end Qsfp

/-! ## The bus -/

/-- A modest session changes pages, and they are not selected at the power control byte. -/
theorem SessionPart.madeOf_isModest {p : Program α} (h : SessionPart Action.IsModest α p) :
    p.MadeOf (Single Action.IsModest) := by
  have hpage (device page : UInt8) :
      (Selected.selectPage device page).MadeOf (Single Action.IsModest) :=
    Bus.write_modest (Action.isModest_byte fun h ↦ nomatch h)
  cases h with
  | single action ha => exact .part (.perform _ ha)
  | home device => exact hpage device 0
  | onPage device page hbody =>
    refine Program.MadeOf.bind (hpage device page) fun r ↦ ?_
    cases r with
    | error e => exact .done _
    | ok _ =>
      refine .bind hbody fun r ↦ .bind (hpage device 0) fun r' ↦ ?_
      cases r' with
      | ok _ => exact .done _
      | error e => exact .bind (report_madeOf _ _ _) fun _ ↦ .done _

/-- What is done with care does not set the bit of the high classes. -/
theorem Qsfp.CarefulPart.madeOf_not_raisesPower {q : Qsfp} {p : Program α}
    (h : q.CarefulPart α p) : p.MadeOf (Single fun a ↦ ¬ a.RaisesPower) := by
  have hoff : (Single fun a ↦ ¬ a.RaisesPower).Includes Action.IsOffBus :=
    ⟨fun _ ha ↦ .perform _ ha.not_raisesPower⟩
  cases h with
  | idle action ha => exact .part (.perform _ ha.isOffBus.not_raisesPower)
  | read l => exact l.read_madeOf
  | reset on _ => exact Line.write_madeOf _ on
  | lower _ => exact Line.write_madeOf _ true
  | session e _ hbody =>
    refine e.session_madeOf_offBus ((hbody _).trans fun _ _ hq ↦ hq.madeOf_isModest.imp ?_)
    rintro _ _ ⟨action, ha⟩
    exact .perform action ha.2

/-! ## The low-power line -/

namespace Line

/-- Whether a level of its group sets the line. -/
def isSet (l : Line) (level : UInt32) : Bool := l.bit < 32 && level &&& l.word != 0

/-- The level written clears the line. -/
def ClearedBy (l : Line) (b : Bench) : Action → Prop
  | .writeLevel g level =>
    g.id = l.group.id ∧ l.isSet (b.pin g.id).level = true ∧ l.isSet level = false
  | _ => False

/-- The level of the group of a line since it was last read, if nothing was written since then.  No
level is written that was not read before, or that clears the line. -/
def guarding (l : Line) : Observer (Option UInt32)
  | noted, ⟨.readLevel g, .ok level⟩ => some (if g.id = l.group.id then some level else noted)
  | noted, ⟨.writeLevel g level, _⟩ =>
    if g.id = l.group.id then
      noted.bind fun old ↦ if l.isSet old && !l.isSet level then none else some none
    else some noted
  | noted, _ => some noted

/-- Whatever is noted, the program is let pass. -/
abbrev Guarded (l : Line) : Parts := fun _ p ↦ p.Preserves l.guarding fun _ ↦ True

/-- What sets no level of the group of a line. -/
def Spares (l : Line) : Action → Prop
  | .writeLevel g _ => g.id ≠ l.group.id
  | _ => True

variable {l l' : Line}

theorem guarded_of_spares {action : Action} (h : l.Spares action) :
    l.Guarded _ (Transceiver.perform action) := by
  refine Program.preserves_perform fun reply noted _ ↦ ?_
  cases action with
  | readLevel g => cases reply <;> exact ⟨_, rfl, trivial⟩
  | writeLevel g level => exact ⟨_, if_neg h, trivial⟩
  | _ => exact ⟨_, rfl, trivial⟩

instance : l.Guarded.Includes l.Spares := ⟨fun _ h ↦ guarded_of_spares h⟩

/-- A line that was set or cleared is so. -/
theorem isSet_assigned (h : l.bit < 32) (on : Bool) (level : UInt32) :
    l.isSet (l.assigned on level) = on := by
  unfold isSet
  rw [assigned_and_word]
  cases on <;> simp [h, word_ne_zero h]

/-- Other lines stay as they are. -/
theorem isSet_assigned_of_ne (h' : l'.bit < 32) (hne : l'.bit ≠ l.bit) (on : Bool)
    (level : UInt32) : l.isSet (l'.assigned on level) = l.isSet level := by
  unfold isSet
  by_cases h : l.bit < 32
  · rw [assigned_and on level (word_and_word h' h hne)]
  · simp [h]

/-- A level is noted, and then one is written that does not clear the line. -/
theorem assign_guarded {on : Bool} (h : l'.group.id = l.group.id → l'.bit = l.bit → on = true) :
    l.Guarded _ (l'.assign on).run := by
  intro noted _
  unfold assign mask
  split
  · rename_i hbit
    intro reply
    cases reply with
    | error fault => exact ⟨noted, rfl, trivial⟩
    | ok level =>
      refine ⟨_, rfl, fun reply ↦ ?_⟩
      by_cases hid : l'.group.id = l.group.id
      · have hkeeps : l.isSet level = true → l.isSet (l'.assigned on level) = true := by
          intro hset
          by_cases hsame : l'.bit = l.bit
          · obtain rfl := h hid hsame
            have hword : l'.word = l.word := congrArg (1 <<< UInt8.toUInt32 ·) hsame
            have hassigned : l'.assigned true level = l.assigned true level := by
              simp [assigned, hword]
            rw [hassigned]
            exact isSet_assigned (hsame ▸ hbit) true level
          · rw [isSet_assigned_of_ne hbit hsame]
            exact hset
        have hpass : (l.isSet level && !l.isSet (l'.assigned on level)) = false := by
          cases hset : l.isSet level with
          | true => simp [hkeeps hset]
          | false => rfl
        refine ⟨none, ?_, ?_⟩
        · rw [if_pos hid]
          refine (if_pos hid).trans ?_
          exact if_neg (Bool.eq_false_iff.mp hpass)
        · cases reply <;> trivial
      · refine ⟨_, if_neg hid, ?_⟩
        cases reply <;> trivial
  · exact trivial

/-- A line is written with care if that does not clear the one that is guarded. -/
theorem write_guarded {on : Bool} (h : l'.group.id = l.group.id → l'.bit = l.bit → on = true) :
    (l'.write on).MadeOf l.Guarded :=
  l'.group.hold_madeOf (Parts.single l.Spares trivial) (Parts.single l.Spares trivial)
    (.part (assign_guarded h))

/-- What leaves the pin groups alone sets no level. -/
theorem includes_isOffPins (l : Line) [part.Includes l.Spares] :
    part.Includes Action.IsOffPins := by
  refine ⟨fun action ha ↦ ?_⟩
  have hspares : l.Spares action := by cases action <;> trivial
  exact Parts.Includes.part_of_kind action hspares

/-- To read a line sets no level. -/
theorem read_spares (l l' : Line) [part.Includes l.Spares] : l'.read.MadeOf part :=
  l'.group.hold_madeOf (Parts.single l.Spares trivial) (Parts.single l.Spares trivial)
    (l'.get_madeOf (Parts.single l.Spares trivial))

end Line

/-- The line is on none of the groups that select the module, and no other line of the cage is. -/
structure Cage.Alone (c : Cage) (l : Line) : Prop where
  selector : ∀ t ∈ c.selector.targets, t.group.id ≠ l.group.id
  reset : ∀ r ∈ c.reset, r.group.id = l.group.id → r.bit ≠ l.bit

section Guarded

variable {l : Line}

section Spares

variable [part.Includes l.Spares] {body : Procedure α}

theorem SelectTarget.during_spares {t : SelectTarget} (ht : t.group.id ≠ l.group.id)
    (h : body.MadeOf part) : (t.during body).MadeOf part := by
  have hgroup : part.Includes t.group.Accesses := by
    refine ⟨fun action ha ↦ ?_⟩
    have hspares : l.Spares action := by
      cases action with
      | writeLevel g _ =>
        cases ha
        exact ht
      | _ => trivial
    exact Parts.Includes.part_of_kind action hspares
  exact t.group.hold_madeOf (Parts.single l.Spares trivial) (Parts.single l.Spares trivial) <|
    .bind (t.group.writeLevel_madeOf _) fun _ ↦ h

theorem Selector.under_spares {t? : Option SelectTarget}
    (ht : ∀ t ∈ t?, t.group.id ≠ l.group.id) (h : body.MadeOf part) :
    (under t? body).MadeOf part := by
  cases t? with
  | none => exact h
  | some t => exact SelectTarget.during_spares (ht t rfl) h

/-- A module is selected without its line being set or cleared if that is on no group that selects
it. -/
theorem Selector.during_spares {s : Selector} (hs : ∀ t ∈ s.targets, t.group.id ≠ l.group.id)
    (h : body.MadeOf part) : (s.during body).MadeOf part :=
  under_spares (fun t ht ↦ hs t (List.mem_append_left _ (Option.mem_toList.mpr ht))) <|
    under_spares (fun t ht ↦ hs t (List.mem_append_right _ (Option.mem_toList.mpr ht))) h

end Spares

/-- What is done with care does not clear a line that is alone. -/
theorem Qsfp.CarefulPart.guarded {q : Qsfp} (hc : q.cage.Alone l) {p : Program α}
    (h : q.CarefulPart α p) : p.MadeOf l.Guarded := by
  have hoff : l.Guarded.Includes Action.IsOffPins := l.includes_isOffPins
  cases h with
  | idle action ha => exact Parts.single Action.IsIdle ha
  | read l' => exact l.read_spares l'
  | reset on hr => exact Line.write_guarded fun hid hbit ↦ absurd hbit (hc.reset _ hr hid)
  | lower _ => exact Line.write_guarded fun _ _ ↦ rfl
  | session e hs hbody =>
    refine e.session_madeOf (fun l' ↦ l.read_spares l') ?_
    rw [hs]
    refine Selector.during_spares hc.selector <| .bind (.lift (settle_madeOf _)) fun _ ↦ ?_
    refine (hbody _).trans fun _ _ hq ↦ ?_
    refine (hq.madeOf_isOffPins fun _ ha ↦ ha.1).imp ?_
    rintro _ _ ⟨action, ha⟩
    exact Parts.Includes.part_of_kind action ha

/-- What is noted of the group of the line is its level. -/
def Line.Noted (l : Line) (noted : Option UInt32) (b : Bench) : Prop :=
  ∀ level, noted = some level → (b.pin l.group.id).level = level

/-- What is noted stays true. -/
theorem Line.Noted.step {noted noted' : Option UInt32} {b : Bench} (h : l.Noted noted b)
    (action : Action)
    (hstep : l.guarding noted ⟨action, (Bench.answer action b).1⟩ = some noted') :
    l.Noted noted' (Bench.answer action b).2 := by
  cases action with
  | readLevel g =>
    change l.Noted noted' b
    cases hread : (b.pin g.id).read with
    | error fault =>
      have hanswer : (Bench.answer (.readLevel g) b).1 = .error fault := hread
      rw [hanswer] at hstep
      cases hstep
      exact h
    | ok level =>
      have hanswer : (Bench.answer (.readLevel g) b).1 = .ok level := hread
      have hlevel : (b.pin g.id).level = level := by
        unfold Pin.read at hread
        split at hread
        · cases hread
        · exact Except.ok.inj hread
      rw [hanswer] at hstep
      cases hstep
      split
      · rename_i hid
        rintro _ ⟨⟩
        rw [← hid]
        exact hlevel
      · exact h
  | writeLevel g level =>
    unfold guarding at hstep
    dsimp only at hstep
    split at hstep
    · obtain ⟨old, -, hstep⟩ := Option.bind_eq_some_iff.mp hstep
      obtain ⟨-, hstep⟩ := Option.ite_none_left_eq_some.mp hstep
      cases hstep
      exact nofun
    · rename_i hid
      cases hstep
      intro old hold
      have hpin : (Bench.answer (.writeLevel g level) b).2.pin l.group.id = b.pin l.group.id :=
        if_neg fun h ↦ hid h.symm
      rw [hpin]
      exact h old hold
  | _ =>
    cases hstep
    exact h

/-- Along a run that is let pass no level clears the line. -/
theorem Program.MadeOf.not_clearedBy {p : Program α} (h : p.MadeOf l.Guarded) {b : Bench}
    {past future : Trace} {e : Event} (hsplit : p.trace Bench.answer b = past ++ e :: future) :
    ¬ l.ClearedBy (past.replay Bench.answer b) e.action := by
  have hpasses := h.preserves (fun _ _ hq ↦ hq) none trivial
  obtain ⟨_, hwatch, -⟩ := hpasses.watch_trace Bench.answer b
  have hanswered := p.answered_trace Bench.answer b
  rw [hsplit] at hwatch hanswered
  obtain ⟨noted, noted', hpast, hstep⟩ := Trace.watch_split hwatch
  have hnone : l.Noted none b := nofun
  have hnoted : l.Noted noted _ := Trace.watch_keeps
    (fun _ _ h action _ hstep ↦ h.step action hstep) hnone hanswered.of_append hpast
  obtain ⟨action, reply⟩ := e
  cases action with
  | writeLevel g level =>
    rintro ⟨hid, hold, hnew⟩
    obtain ⟨old, hsome, hstep⟩ := Option.bind_eq_some_iff.mp ((if_pos hid).symm.trans hstep)
    obtain ⟨hpass, -⟩ := Option.ite_none_left_eq_some.mp hstep
    rw [hid, hnoted old hsome] at hold
    exact hpass (by simp [hold, hnew])
  | _ => exact id

end Guarded

/-! ## Within the budget -/

/-- The classes under software control are those that an extended identifier advertises. -/
theorem MaxPower.softwareControlled_ofExtIdentifier (extIdentifier : UInt8) :
    (ofExtIdentifier extIdentifier).softwareControlled = softwarePowerSupported extIdentifier := by
  unfold ofExtIdentifier softwarePowerSupported
  split
  · rename_i h
    rw [h]
    split <;> rfl
  · rename_i h
    rw [h]
    rfl
  · rename_i h
    rw [h]
    rfl
  · rename_i h _ _
    simpa using h

/-- Forcing low or high power changes three bits of the control. -/
theorem PowerControl.hasBit_force (control : UInt8) (high : Bool) (i : Bit) :
    hasBit (force control high) i =
      if i = .b0 then true
      else if i = .b1 then !high
      else if i = .b2 then high
      else hasBit control i := by
  cases i <;> simp [force, overrideBit, lowPowerBit, highClassBit]

namespace Qsfp

variable {q : Qsfp} {b : Bench} {mem : ModuleMemory}

/-- On a bench where nothing goes wrong, low or high power is forced on a module that lets it be. -/
theorem forcePower_runsTo {m : Selected} (hf : b.segment.Faultless)
    (hm : b.segment.device? m.address = some (.memory mem)) (hpage : mem.currentPage = 0)
    (hsoftware : softwarePowerSupported (mem.get 0 QsfpMap.extIdentifier) = true) (high : Bool) :
    (forcePower m high).RunsTo Bench.answer b (.ok ())
      (b.withModule m.address (mem.set 0 QsfpMap.powerControl
        (PowerControl.force (mem.get 0 QsfpMap.powerControl) high))) := by
  have hkept : b.segment.discards m.address QsfpMap.powerControl = false := by
    rw [hf.discards_eq]
  have hext : (m.lowerByte QsfpMap.extIdentifier).RunsTo Bench.answer b
      (.ok (mem.get 0 QsfpMap.extIdentifier)) b :=
    (Selected.lowerByte_runsTo_iff hm (by decide) (by decide)).mpr
      ⟨hf.touches_reads _ _ _, by rw [hpage], rfl⟩
  refine hext.bind ?_
  rw [hsoftware]
  exact ((Selected.modify_runsTo_iff rfl hm (by decide) (by decide) hkept _).mpr
    ⟨hf.touches_reads _ _ _, .inr (hf.touches_writes _ _ _), rfl, rfl⟩).bind (.pure _ _)

/-- The power class of a module that is there is set before anything is done to the lines. -/
theorem final_setPowerClass (hopens : q.eeprom.Opens b) (hf : b.segment.Faultless)
    (hm : b.segment.device? q.cage.address = some (.memory mem)) (hpage : mem.currentPage = 0)
    {power : MaxPower} (hpower : power = .ofExtIdentifier (mem.get 0 QsfpMap.extIdentifier))
    (hsoftware : power.softwareControlled = true) (high : Bool) :
    (q.setPowerClass power high).final Bench.answer b =
      (q.cage.selector.applied b).withModule q.cage.address (mem.set 0 QsfpMap.powerControl
        (PowerControl.force (mem.get 0 QsfpMap.powerControl) high)) := by
  have hsupported : softwarePowerSupported (mem.get 0 QsfpMap.extIdentifier) = true := by
    rw [← MaxPower.softwareControlled_ofExtIdentifier, ← hpower]
    exact hsoftware
  have happlied : (q.cage.selector.applied b).segment = b.segment := Selector.segment_applied _ b
  have hforce := forcePower_runsTo (m := q.eeprom.selected) (happlied ▸ hf) (happlied ▸ hm) hpage
    hsupported high
  have hsession := hopens.sameRun fun m ↦ forcePower m high
  unfold setPowerClass
  rw [if_pos hsoftware]
  change ((q.forcePowerMode high).run.bind _).final Bench.answer b = _
  have hvalue : (q.forcePowerMode high).run.value Bench.answer b = .ok () :=
    hsession.value.trans hforce.value
  rw [Program.final_bind, hvalue]
  exact hsession.final.trans hforce.final

/-- Where a module within the budget is left when its power mode is set. -/
def poweredTo (q : Qsfp) (mem : ModuleMemory) (l : Line) (enable : Bool) (b : Bench) : Bench :=
  let forced := (q.cage.selector.applied b).withModule q.cage.address
    (mem.set 0 QsfpMap.powerControl
      (PowerControl.force (mem.get 0 QsfpMap.powerControl) !enable))
  forced.withLevel l.group.id (l.assigned enable (forced.pin l.group.id).level)

theorem moduleControl_runsTo (hopens : q.eeprom.Opens b) (hf : b.segment.Faultless)
    (hm : b.segment.device? q.cage.address = some (.memory mem)) (hpage : mem.currentPage = 0)
    {power : MaxPower} (hfound : q.found.maxPower = some power)
    (hpower : power = .ofExtIdentifier (mem.get 0 QsfpMap.extIdentifier))
    (hsoftware : power.softwareControlled = true) (hbudget : power.milliwatts ≤ q.cage.maxPowerMw)
    {l : Line} (hl : q.cage.lowPower = some l) (hworks : l.Works b) (enable : Bool) :
    (q.moduleControl .lowPowerMode enable).RunsTo Bench.answer b (.ok ())
      (q.poweredTo mem l enable b) := by
  have hclass := final_setPowerClass hopens hf hm hpage hpower hsoftware (!enable)
  have hcheck : q.checkBudget power (!enable) = pure () := by
    unfold checkBudget
    rw [if_neg]
    simpa using fun _ ↦ hbudget
  unfold moduleControl
  rw [hfound]
  dsimp only
  rw [hcheck]
  refine (Procedure.RunsTo.pure _ _).bind ((Procedure.RunsTo.lift _ _).bind ?_)
  rw [hclass]
  unfold driveControl controlLine
  dsimp only
  rw [hl]
  have hworks : l.Works ((q.cage.selector.applied b).withModule q.cage.address
      (mem.set 0 QsfpMap.powerControl
        (PowerControl.force (mem.get 0 QsfpMap.powerControl) !enable))) := by
    refine ⟨?_, hworks.2⟩
    change ((q.cage.selector.applied b).pin l.group.id).Works
    simp [Selector.applied, hworks.1]
  exact Line.access_runsTo hworks (PinGroup.writeLevel_runsTo _ hworks.1)

end Qsfp

/-! ## Main statement -/

/-- What is on the way of an operation on the cage of a module beyond the budget. -/
structure Cage.Frugal (c : Cage) (b : Bench) (t : Trace) : Prop where
  /-- No write sets the bit of the high classes, whatever becomes of it. -/
  bus : ∀ e ∈ t, ¬ e.action.RaisesPower
  /-- No level clears the low-power line, if that is alone. -/
  line : ∀ l ∈ c.lowPower, c.Alone l → ∀ (past : Trace) e future, t = past ++ e :: future →
    ¬ l.ClearedBy (past.replay Bench.answer b) e.action

theorem Qsfp.CarefulPart.frugal {q : Qsfp} {p : Program α} (h : p.MadeOf q.CarefulPart)
    (b : Bench) : q.cage.Frugal b (p.trace Bench.answer b) where
  bus := (h.trans fun _ _ hq ↦ hq.madeOf_not_raisesPower).forall_trace Bench.answer b
  line _ _ hc _ _ _ hsplit := (h.trans fun _ _ hq ↦ hq.guarded hc).not_clearedBy hsplit

namespace Host

/-- What happens during a turn. -/
def traceOf (h : Host) (t : Turn) : Trace :=
  ((h.driver t.port).perform t.op).trace Bench.answer (h.during t)

variable {h : Host} {port : Nat} {q : Qsfp}

/-- A driver that is not asked to look for a module stays as it is. -/
theorem driver_turn (hq : h.driver port = .qsfp q) {t : Turn}
    (ht : t.port = port → t.op.LeavesPower) : (h.turn t).driver port = .qsfp q := by
  unfold turn
  dsimp only
  split
  · rename_i hport
    rw [← hport, hq]
    have hkept : ((q.perform t.op).value Bench.answer (h.during t)).2 = q := by
      refine q.perform_of_not_moduleInit fun present hinit ↦ ?_
      have hop := ht hport.symm
      rw [hinit] at hop
      exact hop.elim
    dsimp only [Driver.perform]
    rw [Program.bind_eq, Program.value_bind]
    exact congrArg Driver.qsfp hkept
  · exact hq

theorem driver_run (hq : h.driver port = .qsfp q) {ts : List Turn}
    (hts : ∀ t ∈ ts, t.port = port → t.op.LeavesPower) : (h.run ts).driver port = .qsfp q := by
  induction ts generalizing h with
  | nil => exact hq
  | cons t ts ih =>
    exact ih (driver_turn hq (hts t List.mem_cons_self)) fun t' ht' ↦
      hts t' (List.mem_cons_of_mem _ ht')

/-- A turn of the driver of a module beyond the budget is frugal. -/
theorem frugal_traceOf (hq : h.driver port = .qsfp q) (hadapted : q.found.adapted = false)
    {power : MaxPower} (hfound : q.found.maxPower = some power)
    (hbudget : q.cage.maxPowerMw < power.milliwatts) {t : Turn} (hport : t.port = port)
    (hop : t.op.LeavesPower) : q.cage.Frugal (h.during t) (h.traceOf t) := by
  unfold traceOf
  rw [hport, hq]
  refine Qsfp.CarefulPart.frugal (q := q) ?_ (h.during t)
  exact .bind (Qsfp.perform_careful hfound hbudget hadapted hop) fun _ ↦ .done _

end Host

/-- To a module beyond the budget of its port no operation lends high power, by its line or by its
control byte, and asking for it is refused before anything is done.  For one within the budget the
line and the byte go to the mode that is asked for. -/
theorem Qsfp.budget_guards_power {q : Qsfp} (hadapted : q.found.adapted = false)
    {power : MaxPower} (hfound : q.found.maxPower = some power) :
    (q.cage.maxPowerMw < power.milliwatts →
      (∀ (σ : Type) (env : Environment σ) (s : σ),
        (q.perform (.moduleControl .lowPowerMode false)).value env s = (.error .notSupported, q) ∧
          ∀ e ∈ (q.perform (.moduleControl .lowPowerMode false)).trace env s,
            ∃ record, e.action = .log record) ∧
      ∀ (h : Host) (port : Nat) (ts : List Turn), h.driver port = .qsfp q →
        (∀ t ∈ ts, t.port = port → t.op.LeavesPower) →
        ∀ done t rest, ts = done ++ t :: rest → t.port = port →
          q.cage.Frugal ((h.run done).during t) ((h.run done).traceOf t)) ∧
    (power.milliwatts ≤ q.cage.maxPowerMw → ∀ (b : Bench) (mem : ModuleMemory) (l : Line)
      (enable : Bool), power.softwareControlled = true → q.eeprom.Opens b → b.segment.Faultless →
      b.segment.device? q.cage.address = some (.memory mem) → mem.currentPage = 0 →
      power = .ofExtIdentifier (mem.get 0 QsfpMap.extIdentifier) → q.cage.lowPower = some l →
      l.Works b →
      let p := q.perform (.moduleControl .lowPowerMode enable)
      (p.value Bench.answer b).1 = .ok () ∧
        l.isSet ((p.final Bench.answer b).pin l.group.id).level = enable ∧
        ∃ control, (p.final Bench.answer b).segment = b.segment.setDevice q.cage.address
            (some (.memory (mem.set 0 QsfpMap.powerControl control))) ∧
          ∀ i, hasBit control i =
            if i = .b0 then true
            else if i = .b1 then enable
            else if i = .b2 then !enable
            else hasBit (mem.get 0 QsfpMap.powerControl) i) := by
  have hserve (enable : Bool) : q.serve (.moduleControl .lowPowerMode enable) =
      q.moduleControl .lowPowerMode enable := by
    have hnone : q.adapter? = none := by simp [adapter?, hadapted]
    unfold serve
    rw [hnone]
    rfl
  refine ⟨fun hbudget ↦ ⟨fun σ env s ↦ ?_, ?_⟩, ?_⟩
  · dsimp only [perform]
    rw [hserve, moduleControl_highPower_eq hfound hbudget]
    refine ⟨rfl, fun e he ↦ ?_⟩
    obtain rfl := List.mem_singleton.mp he
    exact ⟨_, rfl⟩
  · rintro h port _ hq hts done t rest rfl hport
    have hdone := Host.driver_run hq fun t ht ↦ hts t (List.mem_append_left _ ht)
    have hop := hts t (List.mem_append_right _ List.mem_cons_self) hport
    exact Host.frugal_traceOf hdone hadapted hfound hbudget hport hop
  · intro hbudget b mem l enable hsoftware hopens hf hm hpage hpower hl hworks p
    have hrun := moduleControl_runsTo hopens hf hm hpage hfound hpower hsoftware hbudget hl hworks
      enable
    have hvalue : (p.value Bench.answer b).1 = .ok () := by
      refine (value_keeping q _ _ _).trans ?_
      rw [hserve]
      exact hrun.value
    have hfinal : p.final Bench.answer b = q.poweredTo mem l enable b := by
      refine (final_keeping q _ _ _).trans ?_
      rw [hserve]
      exact hrun.final
    rw [hfinal]
    refine ⟨hvalue, ?_, PowerControl.force (mem.get 0 QsfpMap.powerControl) !enable, ?_, ?_⟩
    · have hlevel (b : Bench) (level : UInt32) :
          ((b.withLevel l.group.id level).pin l.group.id).level = level := by
        simp [Bench.withLevel, Bench.setPin]
      unfold poweredTo
      rw [hlevel]
      exact Line.isSet_assigned hworks.2 enable _
    · have happlied : (q.cage.selector.applied b).segment = b.segment :=
        Selector.segment_applied _ b
      rw [← happlied]
      rfl
    · intro i
      rw [PowerControl.hasBit_force, Bool.not_not]

/-- A module of the highest class, in a cage that has too little for it and in one that has
enough. -/
theorem Qsfp.budget_guards_power_class7 :
    let low : Line := ⟨⟨"lines", 0⟩, 3⟩
    let c : Cage := {
      instanceId := 0, name := "port0", family := .qsfp, portType := .qsfp28, address := 0x50
      selector := ⟨none, some ⟨⟨"modsel", 1⟩, 2⟩⟩, selectDelay := .zero
      presence := ⟨⟨"lines", 0⟩, 0⟩, reset := some ⟨⟨"lines", 0⟩, 1⟩, resetDelay := .zero
      lowPower := some low, txControl := none, rxLoss := none, txFault := none, portLed := none
      defaultSpeedMbps := none, channelOffset := 0, maxPowerMw := 4500 }
    let power : MaxPower := ⟨5000, true⟩
    let q : Qsfp := { Qsfp.ofCage c with found := ⟨.qsfp, 0, some power, false⟩ }
    let ample : Qsfp := { q with cage := { c with maxPowerMw := 7000 } }
    let b : Bench := ⟨(Segment.blank.addModule 0x50).poke 0x50 0 129 [0x03], fun _ ↦ .ofLevel 9⟩
    let high : Turn := ⟨⟨[], [], []⟩, fun _ ↦ .ofLevel 9, 0, .moduleControl .lowPowerMode false⟩
    let lit : Turn := ⟨⟨[], [⟨0x50, 86⟩], []⟩, fun _ ↦ .ofLevel 9, 0, .txControl 1 true⟩
    let host : Host := ⟨b, fun _ ↦ .qsfp q⟩
    q.cage.maxPowerMw < power.milliwatts ∧ power.milliwatts ≤ ample.cage.maxPowerMw ∧
      q.cage.Alone low ∧
      ((q.perform high.op).value Bench.answer b).1 = .error .notSupported ∧
      q.cage.Frugal ((host.run [high]).during lit) ((host.run [high]).traceOf lit) ∧
      ((ample.perform high.op).value Bench.answer b).1 = .ok () ∧
      low.isSet (((ample.perform high.op).final Bench.answer b).pin 0).level = false := by
  intro low c power q ample b high lit host
  have hshort : q.cage.maxPowerMw < power.milliwatts := by decide
  have henough : power.milliwatts ≤ ample.cage.maxPowerMw := by decide
  have halone : q.cage.Alone low := by
    constructor
    · rintro t (_ | ⟨_, ⟨⟩⟩)
      decide
    · rintro r ⟨⟩ _
      decide
  obtain ⟨hrefused, hruns⟩ := (budget_guards_power (q := q) rfl rfl).1 hshort
  have hopens : ample.eeprom.Opens b := by
    constructor
    · rintro l ⟨⟩
      have hset : ((9 : UInt32) &&& 1 <<< (0 : UInt8).toUInt32 != 0) = true := by decide
      rw [Line.value_read ⟨rfl, rfl⟩ (by decide)]
      exact congrArg Except.ok hset
    · rintro t (_ | ⟨_, ⟨⟩⟩)
      exact ⟨rfl, rfl⟩
  have hwithin := (budget_guards_power (q := ample) rfl rfl).2 henough b _ low false rfl hopens rfl
    rfl rfl rfl rfl ⟨⟨rfl, rfl⟩, by decide⟩
  refine ⟨hshort, henough, halone, ?_, ?_, hwithin.1, hwithin.2.1⟩
  · exact congrArg Prod.fst (hrefused Bench Bench.answer b).1
  · refine hruns host 0 [high, lit] rfl ?_ [high] lit [] rfl rfl
    rintro t (_ | ⟨_, _ | ⟨_, ⟨⟩⟩⟩) _ <;> trivial

end Transceiver
