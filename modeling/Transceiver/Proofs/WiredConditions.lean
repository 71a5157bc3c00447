import Transceiver.Proofs.LaneLocality

/-!
# Conditions of an SFP channel

A condition of the channel is told by its line where a cage wires it, and otherwise by the soft
status of the module, if that has it.  Main statement: the conditions that are asked for are
reported as their lines and the soft status tell, and refused together if one of them is told by
neither.

The soft status is looked at before any line unless every condition has one.  So a line that works
tells nothing where another is missing and the module cannot be read.
-/

namespace Transceiver

/-! ## Conditions -/

/-- A condition that has a line or a bit of the soft status. -/
inductive Condition where
  | txDisable | txFault | rxLoss
deriving DecidableEq, Repr

namespace Condition

/-- The flag that reports it. -/
def flag : Condition → ChannelStatus
  | .txDisable => ChannelStatus.txDisable
  | .txFault => ChannelStatus.txFault
  | .rxLoss => ChannelStatus.rxLoss

/-- The line that a cage has for it. -/
def line? (c : Cage) : Condition → Option Line
  | .txDisable => c.txControl
  | .txFault => c.txFault
  | .rxLoss => c.rxLoss

/-- The bit of the options by which a module advertises it. -/
def supportBit : Condition → Bit
  | .txDisable => SfpMap.softTxDisableBit
  | .txFault => SfpMap.softTxFaultBit
  | .rxLoss => SfpMap.softRxLossBit

/-- The bit of the status byte that tells it. -/
def stateBit : Condition → Bit
  | .txDisable => SfpMap.txDisableStateBit
  | .txFault => SfpMap.txFaultStateBit
  | .rxLoss => SfpMap.rxLossStateBit

/-- The flag of a condition that is asked for and holds. -/
def told (asked : ChannelStatus) (holds : Condition → Bool) (c : Condition) : ChannelStatus :=
  if asked.contains c.flag && holds c then c.flag else .empty

/-- The flags of all conditions that are asked for and hold. -/
def reported (asked : ChannelStatus) (holds : Condition → Bool) : ChannelStatus :=
  told asked holds .txDisable ||| told asked holds .txFault ||| told asked holds .rxLoss

/-- A condition is reported if it is asked for and holds. -/
theorem contains_reported (asked : ChannelStatus) (holds : Condition → Bool) (c : Condition) :
    (reported asked holds).contains c.flag = (asked.contains c.flag && holds c) := by
  unfold reported told
  cases c <;> cases asked.contains txDisable.flag && holds .txDisable <;>
    cases asked.contains txFault.flag && holds .txFault <;>
    cases asked.contains rxLoss.flag && holds .rxLoss <;> rfl

end Condition

namespace Sfp

variable {s : Sfp} {b b' : Bench} {soft : SoftStatus} {asked : ChannelStatus} {c : Condition}
  {holds : Condition → Bool}

/-! ## One condition -/

/-- Look at a condition, with the soft status known. -/
def sense (s : Sfp) (soft : SoftStatus) (c : Condition) : Procedure Bool :=
  condition (c.line? s.cage) soft c.supportBit c.stateBit

theorem sense_of_line {l : Line} (hl : c.line? s.cage = some l) : s.sense soft c = l.read := by
  unfold sense
  rw [hl]
  rfl

/-- Looking at a condition changes nothing. -/
theorem sense_runsTo (s : Sfp) (soft : SoftStatus) (c : Condition) (b : Bench) :
    (s.sense soft c).RunsTo Bench.answer b ((s.sense soft c).run.value Bench.answer b) b := by
  refine ⟨rfl, ?_⟩
  cases hl : c.line? s.cage with
  | some l =>
    rw [sense_of_line hl]
    exact l.final_read b
  | none =>
    unfold sense condition
    rw [hl]
    dsimp only
    split
    · split <;> rfl
    · rfl

/-- The soft status of a module with some options and a status byte. -/
def SoftStatus.ofBytes (options status : UInt8) : SoftStatus :=
  if options = 0 then ⟨0, none⟩ else ⟨options, some status⟩

/-- Without a line a condition is told by the status byte, if it is advertised. -/
theorem sense_of_soft {options status : UInt8} (hl : c.line? s.cage = none) :
    s.sense (.ofBytes options status) c =
      if hasBit options c.supportBit then pure (hasBit status c.stateBit)
      else throw .notSupported := by
  unfold sense condition SoftStatus.ofBytes
  rw [hl]
  by_cases hoptions : options = 0
  · have hbit : hasBit options c.supportBit = false := by
      rw [hoptions]
      cases c <;> rfl
    rw [if_pos hoptions, hbit]
    rfl
  · rw [if_neg hoptions]

/-- What is wanted of a condition is its flag, if it holds. -/
theorem flagIf_sense_runsTo
    (h : asked.contains c.flag = true → (s.sense soft c).run.value Bench.answer b = .ok (holds c)) :
    (flagIf asked c.flag (s.sense soft c)).RunsTo Bench.answer b
      (.ok (Condition.told asked holds c)) b := by
  unfold Condition.told
  rw [flagIf_runsTo_iff]
  split
  · rename_i hasked
    have hsense := s.sense_runsTo soft c b
    rw [h hasked] at hsense
    refine ⟨_, hsense, ?_⟩
    rw [hasked, Bool.true_and]
  · rename_i hasked
    rw [Bool.eq_false_iff.mpr hasked, Bool.false_and]
    exact ⟨rfl, rfl⟩

/-- What is refused of a condition that is wanted. -/
theorem flagIf_sense_refused {e : Error} (hasked : asked.contains c.flag = true)
    (h : (s.sense soft c).run.value Bench.answer b = .error e) :
    (flagIf asked c.flag (s.sense soft c)).RunsTo Bench.answer b (.error e) b := by
  have hsense := s.sense_runsTo soft c b
  rw [h] at hsense
  unfold flagIf
  dsimp only
  rw [if_pos hasked]
  exact hsense.bind_error

/-! ## All conditions -/

/-- Look at the conditions that are asked for, with the soft status known. -/
def senseAll (s : Sfp) (asked : ChannelStatus) (soft : SoftStatus) : Procedure ChannelStatus := do
  let disabled ← flagIf asked Condition.txDisable.flag (s.sense soft .txDisable)
  let fault ← flagIf asked Condition.txFault.flag (s.sense soft .txFault)
  let loss ← flagIf asked Condition.rxLoss.flag (s.sense soft .rxLoss)
  return disabled ||| fault ||| loss

/-- The soft status is looked at first, unless every condition has a line. -/
theorem channelStatus_eq (hasked : asked.contains ChannelStatus.txLoss = false) :
    s.channelStatus 0 asked = (do
      let soft ← if s.allWired then pure ⟨0, none⟩ else s.session softStatus
      s.senseAll asked soft) := by
  have hcheck : Lane.check 0 channels = .ok ⟨0, by decide⟩ := rfl
  unfold channelStatus
  rw [hcheck, if_neg (Bool.eq_false_iff.mp hasked)]
  rfl

/-- Conditions that are told are reported. -/
theorem senseAll_runsTo (h : ∀ c : Condition, asked.contains c.flag = true →
      (s.sense soft c).run.value Bench.answer b = .ok (holds c)) :
    (s.senseAll asked soft).RunsTo Bench.answer b (.ok (Condition.reported asked holds)) b :=
  (flagIf_sense_runsTo (h .txDisable)).bind <| (flagIf_sense_runsTo (h .txFault)).bind <|
    (flagIf_sense_runsTo (h .rxLoss)).bind (.pure _ _)

/-- Conditions are refused together. -/
theorem senseAll_refused {e : Error} (h : ∀ c : Condition, asked.contains c.flag = true →
      (∃ on, (s.sense soft c).run.value Bench.answer b = .ok on) ∨
        (s.sense soft c).run.value Bench.answer b = .error e)
    (hc : asked.contains c.flag = true ∧ (s.sense soft c).run.value Bench.answer b = .error e) :
    (s.senseAll asked soft).RunsTo Bench.answer b (.error e) b := by
  have hstep (c : Condition) :
      (flagIf asked c.flag (s.sense soft c)).RunsTo Bench.answer b (.error e) b ∨
        ∃ r, (flagIf asked c.flag (s.sense soft c)).RunsTo Bench.answer b (.ok r) b := by
    by_cases hasked : asked.contains c.flag = true
    · rcases h c hasked with ⟨on, hon⟩ | he
      · let holds : Condition → Bool := fun _ ↦ on
        exact .inr ⟨Condition.told asked holds c, flagIf_sense_runsTo fun _ ↦ hon⟩
      · exact .inl (flagIf_sense_refused hasked he)
    · refine .inr ⟨.empty, flagIf_runsTo_iff.mpr ?_⟩
      rw [if_neg hasked]
      exact ⟨rfl, rfl⟩
  have hlast := flagIf_sense_refused hc.1 hc.2
  rcases hstep .txDisable with htx | ⟨_, htx⟩
  · exact htx.bind_error
  · refine htx.bind ?_
    rcases hstep .txFault with hfault | ⟨_, hfault⟩
    · exact hfault.bind_error
    · refine hfault.bind ?_
      cases c with
      | txDisable => cases htx.value.symm.trans hlast.value
      | txFault => cases hfault.value.symm.trans hlast.value
      | rxLoss => exact hlast.bind_error

/-! ## The soft status -/

/-- The module can be asked for its soft status: a session opens, and the bytes of that are
read. -/
structure Shows (s : Sfp) (b : Bench) (options status : UInt8) : Prop where
  opens : s.eeprom.Opens b
  allowsOptions : b.segment.AllowsRead s.cage.address SfpMap.enhancedOptions
  advertised : ∃ d, b.segment.device? s.cage.address = some d ∧
    options = d.byte SfpMap.enhancedOptions
  status : options ≠ 0 → b.segment.AllowsRead diagnosticDevice SfpMap.statusControl ∧
    ∃ d, b.segment.device? diagnosticDevice = some d ∧ status = d.byte SfpMap.statusControl

/-- The soft status of a module that can be asked for it. -/
theorem softStatus_runsTo {options status : UInt8} (h : s.Shows b options status) :
    (s.session softStatus).RunsTo Bench.answer b (.ok (.ofBytes options status))
      (s.cage.selector.applied b) := by
  have happlied : (s.cage.selector.applied b).segment = b.segment := Selector.segment_applied _ b
  refine Eeprom.session_runsTo_iff.mpr ⟨h.opens, ?_⟩
  have hoptions : (enhancedOptions s.eeprom.selected).RunsTo Bench.answer
      (s.cage.selector.applied b) (.ok options) (s.cage.selector.applied b) := by
    unfold enhancedOptions
    rw [Selected.lowerByte_eq, Bus.readByte_runsTo_iff (by decide) (by decide), happlied]
    exact ⟨h.allowsOptions, h.advertised, rfl⟩
  refine hoptions.bind ?_
  unfold SoftStatus.ofBytes
  by_cases hzero : options = 0
  · rw [if_pos hzero, if_pos hzero]
    exact .pure _ _
  · have hstatus : (s.eeprom.selected.readByte (.diagnostic SfpMap.statusControl)).RunsTo
        Bench.answer (s.cage.selector.applied b) (.ok status) (s.cage.selector.applied b) := by
      rw [Selected.readByte_eq rfl, Bus.readByte_runsTo_iff (by decide) (by decide), happlied]
      exact ⟨(h.status hzero).1, (h.status hzero).2, rfl⟩
    rw [if_neg hzero, if_neg hzero]
    exact hstatus.bind (.pure _ _)

/-! ## What is reported -/

/-- The lines of the conditions that are asked for can be read, and tell them. -/
def LinesTell (s : Sfp) (asked : ChannelStatus) (b : Bench) (holds : Condition → Bool) : Prop :=
  ∀ (c : Condition) (l : Line), asked.contains c.flag = true → c.line? s.cage = some l →
    l.read.run.value Bench.answer b = .ok (holds c)

/-- If every condition has a line, the module is left alone. -/
theorem channelStatus_of_allWired (hasked : asked.contains ChannelStatus.txLoss = false)
    (hwired : s.allWired = true) (hlines : s.LinesTell asked b holds) :
    (s.channelStatus 0 asked).RunsTo Bench.answer b (.ok (Condition.reported asked holds)) b := by
  have hline (c : Condition) : ∃ l, c.line? s.cage = some l := by
    unfold allWired at hwired
    simp only [Bool.and_eq_true] at hwired
    cases c with
    | txDisable => exact Option.isSome_iff_exists.mp hwired.1.1
    | txFault => exact Option.isSome_iff_exists.mp hwired.2
    | rxLoss => exact Option.isSome_iff_exists.mp hwired.1.2
  rw [channelStatus_eq hasked, if_pos hwired]
  refine (Procedure.RunsTo.pure _ _).bind (senseAll_runsTo fun c hc ↦ ?_)
  obtain ⟨l, hl⟩ := hline c
  rw [sense_of_line hl]
  exact hlines c l hc hl

section Soft

variable {options status : UInt8} (hasked : asked.contains ChannelStatus.txLoss = false)
  (hwired : s.allWired = false)
include hasked hwired

/-- Otherwise the module is asked, and what has no line is told by it. -/
theorem channelStatus_of_shows (h : s.Shows b options status)
    (hlines : s.LinesTell asked (s.cage.selector.applied b) holds)
    (hsoft : ∀ c : Condition, asked.contains c.flag = true → c.line? s.cage = none →
      hasBit options c.supportBit = true ∧ hasBit status c.stateBit = holds c) :
    (s.channelStatus 0 asked).RunsTo Bench.answer b (.ok (Condition.reported asked holds))
      (s.cage.selector.applied b) := by
  rw [channelStatus_eq hasked, if_neg (Bool.eq_false_iff.mp hwired)]
  refine (softStatus_runsTo h).bind (senseAll_runsTo fun c hc ↦ ?_)
  cases hl : c.line? s.cage with
  | some l =>
    rw [sense_of_line hl]
    exact hlines c l hc hl
  | none =>
    obtain ⟨hsupport, hstate⟩ := hsoft c hc hl
    rw [sense_of_soft hl, if_pos hsupport, ← hstate]
    rfl

/-- What is not advertised is refused. -/
theorem channelStatus_refused (h : s.Shows b options status)
    (hlines : s.LinesTell asked (s.cage.selector.applied b) holds)
    (hc : asked.contains c.flag = true ∧ c.line? s.cage = none ∧
      hasBit options c.supportBit = false) :
    (s.channelStatus 0 asked).RunsTo Bench.answer b (.error .notSupported)
      (s.cage.selector.applied b) := by
  rw [channelStatus_eq hasked, if_neg (Bool.eq_false_iff.mp hwired)]
  refine (softStatus_runsTo h).bind (senseAll_refused (c := c) (fun c hc ↦ ?_) ⟨hc.1, ?_⟩)
  · cases hl : c.line? s.cage with
    | some l =>
      rw [sense_of_line hl]
      exact .inl ⟨_, hlines c l hc hl⟩
    | none =>
      rw [sense_of_soft hl]
      split
      · exact .inl ⟨_, rfl⟩
      · exact .inr rfl
  · rw [sense_of_soft hc.2.1, hc.2.2]
    rfl

/-- A module that cannot be asked keeps every condition from being told. -/
theorem channelStatus_of_hidden {e : Error}
    (h : (s.session softStatus).run.value Bench.answer b = .error e) :
    (s.channelStatus 0 asked).run.value Bench.answer b = .error e := by
  rw [channelStatus_eq hasked, if_neg (Bool.eq_false_iff.mp hwired)]
  exact (Procedure.RunsTo.bind_error ⟨h, rfl⟩).value

end Soft

/-- A driver is asked by asking its cage. -/
theorem perform_channelStatus (s : Sfp) (asked : ChannelStatus) :
    MediaControl.perform (Driver.sfp s) (.channelStatus 0 asked) =
      keeping (Driver.sfp s) (s.channelStatus 0 asked) := keeping_bind s Driver.sfp _

theorem conditions_eq (asked : ChannelStatus) :
    Driver.conditions 0 asked (Driver.sfp s, b) =
      (s.channelStatus 0 asked).run.value Bench.answer b := by
  unfold Driver.conditions
  rw [perform_channelStatus]
  exact value_keeping ..

/-- Nothing is done on the bus if every condition has a line. -/
theorem transactions_channelStatus (hasked : asked.contains ChannelStatus.txLoss = false)
    (hwired : s.allWired = true) :
    ((MediaControl.perform (Driver.sfp s) (.channelStatus 0 asked)).trace Bench.answer
      b).transactions = [] := by
  have hsense (c : Condition) : (flagIf asked c.flag (s.sense ⟨0, none⟩ c)).MadeOf
      (Single Action.IsOffBus) :=
    flagIf_madeOf _ _ (condition_madeOf (fun l ↦ l.read_madeOf) _ _ _ _)
  have hall : (s.senseAll asked ⟨0, none⟩).MadeOf (Single Action.IsOffBus) :=
    .bind (hsense .txDisable) fun _ ↦ .bind (hsense .txFault) fun _ ↦
      .bind (hsense .rxLoss) fun _ ↦ .pure _
  rw [perform_channelStatus, trace_keeping, channelStatus_eq hasked, if_pos hwired, pure_bind]
  exact hall.transactions_eq_nil _ _

end Sfp

/-- The conditions that a driver is asked about are reported as their lines tell, whatever the
segment holds and refuses, if every condition has a line.  If some have none and the module can be
asked, lines tell what they have, the status byte tells the rest, and all is refused if some of that
is not advertised.

If some have none and the module cannot be asked, that is all that is told, even if every condition
that is asked about has a line. -/
theorem Driver.conditions_of_lines (s : Sfp) (asked : ChannelStatus)
    (hasked : asked.contains ChannelStatus.txLoss = false) (b : Bench) (holds : Condition → Bool) :
    (s.allWired = true → s.LinesTell asked b holds →
      Driver.conditions 0 asked (.sfp s, b) = .ok (Condition.reported asked holds) ∧
        ((MediaControl.perform (Driver.sfp s) (.channelStatus 0 asked)).trace Bench.answer
          b).transactions = []) ∧
    (∀ options status, s.allWired = false → s.Shows b options status →
      s.LinesTell asked (s.cage.selector.applied b) holds →
        ((∀ c : Condition, asked.contains c.flag = true → c.line? s.cage = none →
            hasBit options c.supportBit = true ∧ hasBit status c.stateBit = holds c) →
          Driver.conditions 0 asked (.sfp s, b) = .ok (Condition.reported asked holds)) ∧
        ((∃ c : Condition, asked.contains c.flag = true ∧ c.line? s.cage = none ∧
            hasBit options c.supportBit = false) →
          Driver.conditions 0 asked (.sfp s, b) = .error .notSupported)) ∧
    ∀ e, s.allWired = false → (s.session Sfp.softStatus).run.value Bench.answer b = .error e →
      Driver.conditions 0 asked (.sfp s, b) = .error e := by
  rw [Sfp.conditions_eq]
  refine ⟨fun hwired hlines ↦ ?_, fun options status hwired h hlines ↦ ⟨fun hsoft ↦ ?_, ?_⟩,
    fun e hwired h ↦ Sfp.channelStatus_of_hidden hasked hwired h⟩
  · exact ⟨(Sfp.channelStatus_of_allWired hasked hwired hlines).value,
      Sfp.transactions_channelStatus hasked hwired⟩
  · exact (Sfp.channelStatus_of_shows hasked hwired h hlines hsoft).value
  · rintro ⟨c, hc⟩
    exact (Sfp.channelStatus_refused hasked hwired h hlines hc).value

/-- Three conditions with lines, on a segment where nothing is; a fault and a loss of which only the
second has a line, and what the module does not advertise; and a loss with a line that is not told,
since the module is not there to be asked about the rest. -/
theorem Driver.conditions_of_lines_three_cages :
    let los (bit : UInt8) : Line := ⟨⟨"los", 1⟩, bit⟩
    let c : Cage := {
      instanceId := 0, name := "port0", family := .sfp, portType := .sfpPlus, address := 0x50
      selector := ⟨none, none⟩, selectDelay := .zero, presence := ⟨⟨"present", 0⟩, 0⟩, reset := none
      resetDelay := .zero, lowPower := none, txControl := none, rxLoss := some (los 0)
      txFault := none, portLed := none, defaultSpeedMbps := none, channelOffset := 0
      maxPowerMw := 2000 }
    let s : Sfp := .ofCage c
    let wired : Sfp := .ofCage { c with txControl := some (los 1), txFault := some (los 2) }
    let dark : Bench := ⟨.blank, fun _ ↦ .ofLevel 1⟩
    let serial := ModuleMemory.blank.set 0 SfpMap.enhancedOptions 0x20
    let diagnostics := ModuleMemory.blank.set 0 SfpMap.statusControl 0x04
    let g := (Segment.blank.setDevice 0x50 (some (.memory serial))).setDevice 0x51
      (some (.memory diagnostics))
    let b : Bench := { dark with segment := g }
    Driver.conditions 0 ⟨0xb⟩ (.sfp wired, dark) = .ok ChannelStatus.rxLoss ∧
      Driver.conditions 0 ⟨0xa⟩ (.sfp s, b) = .ok ⟨0xa⟩ ∧
      Driver.conditions 0 ⟨0xb⟩ (.sfp s, b) = .error .notSupported ∧
      Driver.conditions 0 ⟨0x8⟩ (.sfp s, dark) =
        .error (.bus 0x50 SfpMap.enhancedOptions .notAcknowledged) := by
  intro los c s wired dark serial diagnostics g b
  have hread (g : Segment) (group : PinGroup) (bit : UInt8) (hbit : bit < 32) :
      (Line.mk group bit).read.run.value Bench.answer ⟨g, dark.pin⟩ =
        .ok (1 &&& (Line.mk group bit).word != 0) :=
    Line.value_read_eq_ok.mpr ⟨⟨⟨rfl, rfl⟩, hbit⟩, rfl⟩
  have hshows : s.Shows b 0x20 0x04 := by
    refine ⟨⟨fun l hl ↦ ?_, nofun⟩, rfl, ⟨_, rfl, rfl⟩, fun _ ↦ ⟨rfl, _, rfl, rfl⟩⟩
    cases hl
    exact hread g ⟨"present", 0⟩ 0 (by decide)
  have hlos (asked : ChannelStatus) : s.LinesTell asked b fun _ ↦ true := by
    rintro c l - hl
    cases c <;> cases hl
    exact hread g ⟨"los", 1⟩ 0 (by decide)
  have hwired : wired.LinesTell ⟨0xb⟩ dark (· = .rxLoss) := by
    rintro c l - hl
    cases c with
    | txDisable =>
      cases hl
      exact hread .blank ⟨"los", 1⟩ 1 (by decide)
    | txFault =>
      cases hl
      exact hread .blank ⟨"los", 1⟩ 2 (by decide)
    | rxLoss =>
      cases hl
      exact hread .blank ⟨"los", 1⟩ 0 (by decide)
  refine ⟨?_, ?_, ?_, ?_⟩
  · exact ((conditions_of_lines wired ⟨0xb⟩ rfl dark _).1 rfl hwired).1
  · refine (((conditions_of_lines s ⟨0xa⟩ rfl b _).2.1 _ _ rfl hshows (hlos _)).1 ?_)
    rintro c hc hl
    cases c with
    | txDisable => cases hc
    | txFault => exact ⟨rfl, rfl⟩
    | rxLoss => cases hl
  · exact ((conditions_of_lines s ⟨0xb⟩ rfl b _).2.1 _ _ rfl hshows (hlos _)).2
      ⟨.txDisable, rfl, rfl, rfl⟩
  · refine (conditions_of_lines s ⟨0x8⟩ rfl dark fun _ ↦ true).2.2 _ rfl ?_
    dsimp only [s, c, los, dark]
    rfl

/-- A loss of signal is not told, though its line is set and can be read, since the options of the
module cannot be read. -/
theorem Driver.not_conditions_of_lines :
    let los : Line := ⟨⟨"los", 1⟩, 0⟩
    let d : Draft := {
      name := "port0", family := .sfp, presence := some ⟨⟨"present", 0⟩, 0⟩, rxLoss := some los }
    let g := (Segment.blank.setDevice 0x50 (some (.memory .blank))).setDevice 0x51
      (some (.memory .blank))
    let b : Bench := ⟨{ g with faults := { g.faults with reads := [⟨0x50, 93⟩] } },
      fun _ ↦ .ofLevel 1⟩
    ∃ c, d.build = .ok c ∧ c.rxLoss = some los ∧ los.read.run.value Bench.answer b = .ok true ∧
      Driver.conditions 0 ChannelStatus.rxLoss (.ofCage c, b) =
        .error (.bus 0x50 93 .notAcknowledged) :=
  ⟨_, rfl, rfl, rfl, rfl⟩

end Transceiver
