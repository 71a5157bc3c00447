import Transceiver.Proofs.PageRestore
import Transceiver.Proofs.Refusal

/-!
# What the log tells of operations that are not supported

Operators are alerted by what the log tells of failures, and that a module lacks a capability is
none.  Main statement: whenever a call on a bench returns that it is not supported, there are only
records for debugging.  There are two exceptions, both of them controls of the power of a module:
high power is refused with an error to a module that draws more than the port has, and an error
tells that the power class could not be set before the line of the control is missed.

Before it declines an operation has only looked, and what looks reports details alone.  A page that
was selected before is always left on a bench, so that there is no warning of that either.
-/

namespace Transceiver

variable {α β : Type}

/-! ## Discreet parts -/

/-- A record for those who want to see what happens. -/
def Record.IsDetail (r : Record) : Prop := r.severity = .debug ∨ r.severity = .trace

instance (r : Record) : Decidable r.IsDetail := inferInstanceAs (Decidable (_ ∨ _))

/-- What writes no record but details. -/
def Action.IsDiscreet : Action → Prop
  | .log r => r.IsDetail
  | _ => True

/-- The actions that write no record but details. -/
abbrev Discreet : Parts := Single Action.IsDiscreet

namespace Discreet

theorem perform {action : Action} (h : action.IsDiscreet) :
    (Transceiver.perform action).MadeOf Discreet := .part (Single.perform action h)

theorem report {severity : Severity} (h : severity = .debug ∨ severity = .trace) (message : String)
    (fields : List (String × String)) :
    (Transceiver.report severity message fields).MadeOf Discreet := perform h

instance (device : UInt8) : Discreet.Includes (Action.SparesPageOf device) where
  part_of_kind action h := by
    cases action <;> first | exact h.elim | exact Single.perform _ trivial

instance (g : PinGroup) : Discreet.Includes g.Accesses where
  part_of_kind action h := by
    cases action <;> first | exact h.elim | exact Single.perform _ trivial

theorem hold {g : PinGroup} {body : Procedure α} (h : body.MadeOf Discreet) :
    (g.hold body).MadeOf Discreet := g.hold_madeOf (perform trivial) (perform trivial) h

theorem lineRead (l : Line) : l.read.MadeOf Discreet := hold (l.get_madeOf (perform trivial))

theorem settle (span : Duration) : (Transceiver.settle span).MadeOf Discreet := by
  unfold Transceiver.settle
  split
  · exact .done ()
  · exact perform trivial

theorem under (t? : Option SelectTarget) {body : Procedure α} (h : body.MadeOf Discreet) :
    (Selector.under t? body).MadeOf Discreet := by
  cases t? with
  | none => exact h
  | some t => exact hold (.bind (t.group.writeLevel_madeOf _) fun _ ↦ h)

/-- Sessions of discreet parts are discreet. -/
instance (e : Eeprom) : Discreet.Hosts Discreet e where
  line := lineRead
  session h := e.session_madeOf lineRead <|
    under _ <| under _ <| .bind (.lift (settle _)) fun _ ↦ h

end Discreet

/-! ## Records on a bench -/

theorem Trace.records_append (t t' : Trace) : (t ++ t').records = t.records ++ t'.records :=
  List.filterMap_append

namespace Program

/-- On a bench, a program that returns something as `Q` says has written only records as `A`
says. -/
def Logs (A : Record → Prop) (p : Program α) (Q : α → Prop) : Prop :=
  ∀ b : Bench, Q (p.value Bench.answer b) → ∀ r ∈ (p.trace Bench.answer b).records, A r

variable {A A' : Record → Prop} {p : Program α} {f : α → Program β} {Q : α → Prop} {R : β → Prop}

namespace Logs

theorem done (a : α) : (Program.done a).Logs A Q := fun _ _ _ hr ↦ nomatch hr

theorem report {severity : Severity} {message : String} {fields : List (String × String)}
    {Q : Unit → Prop} (h : A ⟨severity, message, fields⟩) :
    (Transceiver.report severity message fields).Logs A Q := by
  intro b _ r hr
  cases List.mem_singleton.mp hr
  exact h

/-- Of two programs in sequence the first one counts only where the second one can still return
something as `R` says. -/
theorem bind (h : p.Logs A Q) (hf : ∀ a, Q a → (f a).Logs A R)
    (hR : ∀ a, ¬ Q a → (f a).Returns (¬ R ·)) : (p.bind f).Logs A R := by
  intro b hvalue r hr
  rw [value_bind] at hvalue
  have hQ : Q (p.value Bench.answer b) :=
    Classical.byContradiction fun hQ ↦ hR _ hQ _ Bench.answer _ hvalue
  rw [trace_bind, Trace.records_append, List.mem_append] at hr
  rcases hr with hr | hr
  · exact h b hQ r hr
  · exact hf _ hQ _ hvalue r hr

/-- A program that writes only such records may come first. -/
theorem after (h : p.Logs A fun _ ↦ True) (hf : ∀ a, (f a).Logs A R) : (p.bind f).Logs A R :=
  h.bind (fun a _ ↦ hf a) fun _ hQ ↦ absurd True.intro hQ

theorem imp (h : p.Logs A Q) (hA : ∀ r, A r → A' r) : p.Logs A' Q :=
  fun b hvalue r hr ↦ hA r (h b hvalue r hr)

theorem of_returns (h : p.Returns (¬ Q ·)) : p.Logs A Q :=
  fun b hvalue ↦ absurd hvalue (h _ Bench.answer b)

end Logs

theorem MadeOf.logs (h : p.MadeOf Discreet) : p.Logs Record.IsDetail Q := by
  intro b _ r hr
  obtain ⟨⟨action, reply⟩, he, her⟩ := List.mem_filterMap.mp hr
  have hdiscreet := h.forall_trace Bench.answer b _ he
  cases action with
  | log r' =>
    cases her
    exact hdiscreet
  | _ => cases her

end Program

/-! ## Pages of a bench -/

/-- The same devices are there, and the same transactions go wrong. -/
structure Segment.SameDevices (s s' : Segment) : Prop where
  faults : s'.faults = s.faults
  absent (address : UInt8) : s'.device? address = none ↔ s.device? address = none

namespace Segment.SameDevices

variable {s s' s'' : Segment}

theorem refl (s : Segment) : SameDevices s s := ⟨rfl, fun _ ↦ .rfl⟩

theorem trans (h : SameDevices s s') (h' : SameDevices s' s'') : SameDevices s s'' :=
  ⟨h'.faults.trans h.faults, fun a ↦ (h'.absent a).trans (h.absent a)⟩

/-- A device takes the place of another. -/
theorem setDevice {address : UInt8} {d d' : Device} (h : s.device? address = some d) :
    SameDevices s (s.setDevice address (some d')) := by
  refine ⟨rfl, fun a ↦ ?_⟩
  unfold Segment.setDevice
  by_cases ha : a = address
  · simp [ha, h]
  · simp [ha]

theorem read (address offset : UInt8) (length : Nat) :
    SameDevices s (s.read address offset length).2 := by
  unfold Segment.read
  split
  · exact .refl s
  · split
    · exact .refl s
    · exact setDevice ‹_›
    · exact .refl s

theorem write (address offset : UInt8) (data : List UInt8) :
    SameDevices s (s.write address offset data).2 := by
  unfold Segment.write
  split
  · exact .refl s
  · split
    · exact .refl s
    · exact setDevice ‹_›
    · exact setDevice ‹_›

/-- Where a byte could be written it can be written again. -/
theorem write_ok (h : SameDevices s s') {address offset : UInt8} {value : UInt8} (value' : UInt8)
    (hw : (s.write address offset [value]).1 = .ok ()) :
    (s'.write address offset [value']).1 = .ok () := by
  rcases s'.write_cases address offset [value'] with
    ⟨hrefused, -⟩ | ⟨-, ⟨m, -, hwrite⟩ | ⟨bank, -, hwrite⟩⟩
  · rw [h.faults, h.absent] at hrefused
    rcases s.write_cases address offset [value] with
      ⟨-, hwrite⟩ | ⟨ht, ⟨m, hm, -⟩ | ⟨bank, hm, -⟩⟩
    · rw [hwrite] at hw
      cases hw
    · rcases hrefused with ht' | hnone
      · cases ht.symm.trans ht'
      · cases hm.symm.trans hnone
    · rcases hrefused with ht' | hnone
      · cases ht.symm.trans ht'
      · cases hm.symm.trans hnone
  · rw [hwrite]
  · rw [hwrite]

end Segment.SameDevices

/-- No program takes devices away or makes transactions go wrong. -/
theorem Program.sameDevices (p : Program α) (b : Bench) :
    b.segment.SameDevices (p.final Bench.answer b).segment := by
  induction p generalizing b with
  | done a => exact .refl _
  | ask action next ih =>
    have hanswer : b.segment.SameDevices (Bench.answer action b).2.segment := by
      cases action with
      | read address offset length => exact .read address offset length
      | write address offset data => exact .write address offset data
      | _ => exact .refl _
    exact hanswer.trans (ih _ _)

/-! ## Sessions and pages -/

section Procedure

variable {Q : Except Error α → Prop} {body : Procedure α}

/-- After a procedure that writes only such records what follows counts. -/
theorem Procedure.logs_bind {A : Record → Prop} {p : Procedure α} {f : α → Procedure β}
    {Q : Except Error β → Prop} (h : p.run.Logs A fun _ ↦ True)
    (hf : ∀ a, (f a).run.Logs A Q) : (p >>= f).run.Logs A Q := by
  rw [run_bind]
  refine Program.Logs.after h fun r ↦ ?_
  cases r with
  | ok a => exact hf a
  | error e => exact .done _

theorem PinGroup.hold_logs {g : PinGroup} (h : body.run.Logs Record.IsDetail Q) :
    (g.hold body).run.Logs Record.IsDetail Q := by
  have hacquire : (perform (.acquire g)).MadeOf Discreet := Discreet.perform trivial
  have hrelease : (perform (.release g)).MadeOf Discreet := Discreet.perform trivial
  refine Program.Logs.after hacquire.logs fun r ↦ ?_
  cases r with
  | error fault => exact .done _
  | ok _ =>
    refine Program.Logs.bind h (fun r _ ↦ ?_) fun r hr ↦ .ask fun _ ↦ .done hr
    exact .after hrelease.logs fun _ ↦ .done _

theorem Selector.under_logs (t? : Option SelectTarget) (h : body.run.Logs Record.IsDetail Q) :
    (under t? body).run.Logs Record.IsDetail Q := by
  cases t? with
  | none => exact h
  | some t =>
    have hlevel : (t.group.writeLevel t.value).MadeOf Discreet := t.group.writeLevel_madeOf _
    exact PinGroup.hold_logs (Procedure.logs_bind hlevel.logs fun _ ↦ h)

/-- A session writes the records of what is done in it. -/
theorem Eeprom.session_logs {e : Eeprom} {body : Selected → Procedure α}
    (h : (body e.selected).run.Logs Record.IsDetail Q) :
    (e.session body).run.Logs Record.IsDetail Q := by
  have hsettle : Procedure.MadeOf Discreet (settle e.settleTime) := .lift (Discreet.settle _)
  have hvisit : (e.selector.during (do
      settle e.settleTime
      body e.selected)).run.Logs Record.IsDetail Q :=
    Selector.under_logs _ <| Selector.under_logs _ <| Procedure.logs_bind hsettle.logs fun _ ↦ h
  unfold session
  split
  · refine Procedure.logs_bind (Discreet.lineRead _).logs fun present ↦ ?_
    split
    · exact hvisit
    · exact .done _
  · exact hvisit

/-- On a bench a page that was selected is left again, so there is nothing to warn of. -/
theorem Selected.onPage_logs {device page : UInt8} (h : body.run.Logs Record.IsDetail Q) :
    (onPage device page body).run.Logs Record.IsDetail Q := by
  have hselect (page : UInt8) (b : Bench) :
      ((selectPage device page).run.trace Bench.answer b).records = [] := by
    unfold selectPage Bus.writeByte
    rw [Bus.run_write]
    rfl
  intro b hvalue r hr
  cases hturn : (b.segment.write device QsfpMap.pageSelect [page]).1 with
  | error fault =>
    change r ∈ (((selectPage device page).run.bind _).trace Bench.answer b).records at hr
    rw [Program.trace_bind, Trace.records_append, hselect, value_selectPage, hturn] at hr
    cases hr
  | ok _ =>
    have hsame : b.segment.SameDevices
        (body.run.final Bench.answer (turned device page b)).segment :=
      .trans (.write device QsfpMap.pageSelect [page]) (body.run.sameDevices (turned device page b))
    have hback := hsame.write_ok 0 hturn
    rw [value_onPage body hturn] at hvalue
    refine h _ hvalue r ?_
    change r ∈ (((selectPage device page).run.bind _).trace Bench.answer b).records at hr
    rw [Program.trace_bind, Trace.records_append, hselect, value_selectPage, hturn,
      final_selectPage] at hr
    change r ∈ ((body.run.bind _).trace Bench.answer (turned device page b)).records at hr
    rw [Program.trace_bind, Trace.records_append, List.mem_append] at hr
    refine hr.resolve_right fun hlast ↦ ?_
    change r ∈ (((selectPage device 0).run.bind _).trace Bench.answer _).records at hlast
    rw [Program.trace_bind, Trace.records_append, hselect, value_selectPage, hback] at hlast
    cases hlast

end Procedure

/-! ## Procedures that decline -/

namespace Procedure

/-- On a bench the procedure reports only details, if it declines. -/
def Tactful (p : Procedure α) : Prop := p.run.Logs Record.IsDetail Declined

variable {p q : Procedure α} {f : α → Procedure β}

theorem FailsBy.tactful (h : p.FailsBy Error.IsForeign) : p.Tactful := .of_returns h.firm

theorem MadeOf.tactful (h : p.MadeOf Discreet) : p.Tactful := Program.MadeOf.logs h

namespace Tactful

theorem throw (e : Error) : Tactful (MonadExcept.throw e : Procedure α) := .done _

/-- First look, then act. -/
theorem look (h : p.MadeOf Discreet) (hf : ∀ a, (f a).Tactful) : Tactful (p >>= f) :=
  logs_bind (Program.MadeOf.logs h) hf

/-- What follows an act does not decline. -/
theorem act (h : p.Tactful) (hf : ∀ a, (f a).FailsBy Error.IsForeign) : Tactful (p >>= f) := by
  unfold Tactful
  rw [run_bind]
  refine Program.Logs.bind h (fun r hr ↦ ?_) fun r hr ↦ ?_
  · cases r with
    | ok a => exact hr.elim
    | error e => exact .done _
  · cases r with
    | ok a => exact (hf a).firm
    | error e => exact .done hr

theorem ite {c : Prop} [Decidable c] (hp : p.Tactful) (hq : q.Tactful) :
    Tactful (if c then p else q) := by
  split
  · exact hp
  · exact hq

/-- A procedure that goes on only if a condition holds. -/
theorem require {c : Prop} [Decidable c] {e : Error} (h : p.Tactful) :
    Tactful (if c then p else (do MonadExcept.throw e; p)) :=
  .ite h (.look (.throw e) fun _ ↦ h)

/-- A procedure that goes on only if a condition fails. -/
theorem refuse {c : Prop} [Decidable c] {e : Error} (h : p.Tactful) :
    Tactful (if c then (do MonadExcept.throw e; p) else p) :=
  .ite (.look (.throw e) fun _ ↦ h) h

end Tactful

end Procedure

/-! ## SFP cages -/

namespace Tuning

variable (m : Selected)

theorem isTunable_discreet : (isTunable m).MadeOf Discreet :=
  .bind (Selected.readByte_unpaged_madeOf rfl) fun _ ↦ .pure _

theorem request_tactful (g : Grid Float) (nm thz : Float) : (request m g nm thz).Tactful := by
  have hwrite (a : Address) (w : UInt16) (r : TuneRequest) :
      Procedure.FailsBy Error.IsForeign (do m.write a (bytes16 w); return r) :=
    .bind (m.write_failsBy _ _) fun _ ↦ .pure _
  exact .ite (hwrite _ _ _).tactful (.ite (hwrite _ _ _).tactful (.throw _))

end Tuning

theorem Selected.pagingSupported_discreet (m : Selected) : m.pagingSupported.MadeOf Discreet := by
  unfold pagingSupported
  split
  · exact .bind (Bus.readByte_madeOf _ _) fun _ ↦ .pure _
  · exact .bind (Bus.readByte_madeOf _ _) fun _ ↦ .pure _
  · exact .pure _

namespace Tuning

variable (m : Selected)

theorem setWavelength_tactful (t : TuningTiming) (nm : Float) :
    (setWavelength m t nm).Tactful := by
  have hpaged : (requirePaged m).MadeOf Discreet :=
    requirePaged_madeOf m (isTunable_discreet m) m.pagingSupported_discreet
  have hgrid : (readGrid m).MadeOf Discreet := readGrid_madeOf m
  refine .refuse (.look hpaged fun _ ↦ Selected.onPage_logs ?_)
  exact Procedure.Tactful.look hgrid fun g ↦ .require <|
    .act (request_tactful m g nm _) fun r ↦ .bind (.lift _) fun _ ↦
    .bind (awaitSettled_failsBy m t _) fun _ ↦ .pure _

theorem setTargetWavelength_tactful (nm : Float) : (setTargetWavelength m nm).Tactful :=
  .look (isTunable_discreet m) fun _ ↦ .require (m.write_failsBy _ _).tactful

end Tuning

namespace Sfp

variable (s : Sfp)

theorem session_tactful {body : Selected → Procedure α} (h : ∀ m, (body m).Tactful) :
    (s.session body).Tactful := Eeprom.session_logs (h _)

theorem calibrationKind_discreet (m : Selected) : (calibrationKind m).MadeOf Discreet :=
  .bind (m.lowerByte_madeOf _) fun _ ↦ .require <| .ite (.pure _) <| .ite (.pure _) <|
    .bind (.lift (Discreet.report (.inl rfl) _ _)) fun _ ↦ .throw _

theorem measure_discreet (offset : UInt8) (q : Quantity) :
    (s.measure (.diagnostic offset) fun m kind w ↦ reading m kind q w).MadeOf Discreet :=
  s.session_madeOf <| .bind (calibrationKind_discreet _) fun kind ↦
    .bind (Selected.readWord_unpaged_madeOf rfl) fun w ↦ reading_madeOf _ kind q w

theorem threshold_discreet (t : Threshold) : (s.threshold t).MadeOf Discreet := by
  unfold threshold
  split
  · exact .throw _
  · rename_i a ha
    dsimp only [MemoryMap.thresholdAddress?] at ha
    obtain ⟨-, ha⟩ := Option.ite_none_right_eq_some.mp ha
    cases ha
    exact s.measure_discreet _ _

theorem parameter_discreet (p : Parameter) : (s.parameter p).MadeOf Discreet := by
  dsimp only [parameter]
  split
  · refine .bind (s.read_unpaged_madeOf _ _) fun bytes ↦ ?_
    split
    · exact .pure _
    · exact .throw _
  · exact .bind (.lift (Discreet.report (.inl rfl) _ _)) fun _ ↦ .throw _

theorem txControl_tactful (channel : UInt8) (enable : Bool) :
    (s.txControl channel enable).Tactful := by
  refine .look (.liftExcept _) fun _ ↦ ?_
  split
  · exact (Line.write_failsBy _ _).tactful
  · refine s.session_tactful fun m ↦ .look (requireSoftTxDisable_madeOf m) fun _ ↦ ?_
    exact (Procedure.FailsBy.bind (m.modify_failsBy _ _) fun _ ↦ .lift _).tactful

theorem ledSet_tactful (channel : UInt8) (speed : Speed) : (s.ledSet channel speed).Tactful := by
  refine .look (.liftExcept _) fun _ ↦ ?_
  split
  · exact .look (.liftExcept _) fun _ ↦ (Line.write_failsBy _ _).tactful
  · exact .throw _

theorem wavelengthSet_tactful (nm : Float) : (s.wavelengthSet nm).Tactful :=
  s.session_tactful fun m ↦ .look (Tuning.isTunable_discreet m) fun _ ↦ .require <|
    .look m.pagingSupported_discreet fun _ ↦
      .ite (.act (Tuning.setWavelength_tactful m _ nm) fun _ ↦ .lift _)
        (Tuning.setTargetWavelength_tactful m nm)

/-- An operation that declines reports only details. -/
theorem serve_tactful (op : Operation) : (s.serve op).Tactful := by
  cases op with
  | presence => exact (Discreet.lineRead _).tactful
  | moduleInit _ | speed | portInfo => exact (Procedure.FailsBy.pure _).tactful
  | moduleMonitorStatus flags => exact (s.moduleMonitorStatus_madeOf flags).tactful
  | channelMonitorStatus channel flags =>
    exact (s.channelMonitorStatus_madeOf channel flags).tactful
  | channelStatus channel flags => exact (s.channelStatus_madeOf channel flags).tactful
  | txControl channel enable => exact s.txControl_tactful channel enable
  | txControlStatus channel => exact (s.txControlStatus_madeOf channel).tactful
  | parameter p => exact (s.parameter_discreet p).tactful
  | vendorInfo v => exact (s.vendorInfo_madeOf v).tactful
  | transceiverCode => exact s.transceiverCode_madeOf.tactful
  | threshold t => exact (s.threshold_discreet t).tactful
  | moduleMonitor q => exact (s.measure_discreet _ _).tactful
  | channelMonitor channel q =>
    exact .look (.liftExcept _) fun _ ↦ (s.measure_discreet _ _).tactful
  | featureSupport => exact s.featureSupport_madeOf.tactful
  | readGeneric a length => exact (s.session_failsBy fun m ↦ m.read_failsBy a length).tactful
  | writeGeneric a data => exact (s.session_failsBy fun m ↦ m.write_failsBy a data).tactful
  | read offset length => exact (s.session_failsBy fun m ↦ m.read_failsBy _ length).tactful
  | write offset data => exact (s.session_failsBy fun m ↦ m.write_failsBy _ data).tactful
  | ledSet channel speed => exact s.ledSet_tactful channel speed
  | wavelengthSet nm => exact s.wavelengthSet_tactful nm
  | phyAutonegSet _ _ enable =>
    exact (s.session_failsBy fun _ ↦ CopperPhy.setAutoneg_failsBy enable).tactful
  | phyModeSet _ _ mode => exact (s.session_failsBy fun _ ↦ CopperPhy.setMode_failsBy mode).tactful
  | phySpeedSet _ _ speed =>
    exact (s.session_failsBy fun _ ↦ CopperPhy.setSpeed_failsBy speed).tactful
  | phyLinkStatus _ _ =>
    exact (s.session_failsBy fun _ ↦ .bind (CopperPhy.read_failsBy _) fun _ ↦ .pure _).tactful
  | phyPowerDown _ _ enable =>
    exact (s.session_failsBy fun _ ↦ CopperPhy.setPowerDown_failsBy enable).tactful
  | phySerdesControl _ _ enable =>
    exact (s.session_failsBy fun _ ↦ CopperPhy.setSerdes_failsBy _ enable).tactful
  | mailboxChain ps =>
    exact (Procedure.FailsBy.bind_lift (s.chain_returns_foreign ps) fun _ hr ↦
      .bind (.liftExcept hr) fun _ ↦ .pure _).tactful
  | tenGigSetRate speed => exact (s.session_failsBy fun m ↦ s.phy.setRate_failsBy m speed).tactful
  | tenGigTxState => exact (s.session_failsBy fun m ↦ s.phy.txEnabled_failsBy m).tactful
  | tenGigSetTxState enable =>
    exact (s.session_failsBy fun m ↦ s.phy.setTxEnabled_failsBy m enable).tactful
  | tenGigSystemStatus => exact (s.session_failsBy fun m ↦ s.phy.systemStatus_failsBy m).tactful
  | tenGigLineStatus => exact (s.session_failsBy fun m ↦ s.phy.lineStatus_failsBy m).tactful
  | tenGigLinkStatus => exact (s.session_failsBy fun m ↦ s.phy.linkUp_failsBy m).tactful
  | cdrSet _ _ | cdrStatus _ | moduleControl _ _ | moduleControlStatus _ | extRateSelect _ _ _
  | adapterKind | moduleInfo => exact .throw _

end Sfp

/-! ## QSFP cages -/

namespace Qsfp

variable (q : Qsfp)

/-- High power is asked for a module that draws more than the port has. -/
def Overdraws (q : Qsfp) : Operation → Prop
  | .moduleControl .lowPowerMode false =>
    q.found.adapted = false ∧ ∃ power ∈ q.found.maxPower, q.cage.maxPowerMw < power.milliwatts
  | _ => False

/-- The record of an operation that declines: a detail, or one of two errors of the control of
power. -/
def Concedes (q : Qsfp) (op : Operation) (r : Record) : Prop :=
  r.IsDetail ∨
    q.Overdraws op ∧ r.message = "module power exceeds port budget, refusing high power" ∨
    q.PowersUnwired op ∧ r.message = "failed to set power class, module may not work"

theorem session_tactful {body : Selected → Procedure α} (h : ∀ m, (body m).Tactful) :
    (q.session body).Tactful := Eeprom.session_logs (h _)

theorem parameter_discreet (p : Parameter) : (q.parameter p).MadeOf Discreet := by
  dsimp only [parameter]
  split
  · refine q.session_madeOf <| .bind (Selected.read_unpaged_madeOf rfl _) fun bytes ↦ ?_
    split
    · exact parameterValue_madeOf _ q p _
    · exact .throw _
  · exact .bind (.lift (Discreet.report (.inl rfl) _ _)) fun _ ↦ .throw _

theorem txControl_tactful (channel : UInt8) (enable : Bool) :
    (q.txControl channel enable).Tactful := by
  refine .look (.liftExcept _) fun lane ↦
    .act (q.session_tactful fun m ↦ ?_) fun _ ↦ .bind (.lift _) fun _ ↦ .lift _
  exact .look (m.lowerByte_madeOf _) fun _ ↦ .require <|
    (Procedure.FailsBy.bind (m.modify_failsBy _ _) fun _ ↦ .pure _).tactful

theorem cdrSet_tactful (channel : UInt8) (enable : Bool) : (q.cdrSet channel enable).Tactful :=
  .look (.liftExcept _) fun lane ↦ q.session_tactful fun m ↦
    .look (cdrBits_madeOf m q) fun bits ↦ (setLaneBits_failsBy m lane enable bits).tactful

theorem extRateSelect_tactful (channel : UInt8) (revision : FirmwareRevision)
    (cdrEnable : Bool) : (q.extRateSelect channel revision cdrEnable).Tactful :=
  .look (.liftExcept _) fun _ ↦ (q.session_failsBy fun m ↦
    .bind (m.modify_failsBy _ _) fun _ ↦ .bind (m.modify_failsBy _ _) fun _ ↦ .pure ()).tactful

theorem threshold_tactful (t : Threshold) : (q.threshold t).Tactful := by
  unfold threshold
  split
  · exact q.session_tactful fun m ↦ .look m.pagingSupported_discreet fun _ ↦ .require <|
      (Procedure.FailsBy.bind (m.readWord_failsBy _) fun _ ↦ .pure _).tactful
  · exact .throw _

theorem adapterKind_tactful : q.adapterKind.Tactful := by
  dsimp only [adapterKind]
  split
  · split
    · exact (Procedure.FailsBy.bind (Line.write_failsBy _ _) fun _ ↦ .bind (.lift _) fun _ ↦
        .bind (.lift _) fun _ ↦ .bind (Line.write_failsBy _ _) fun _ ↦ .pure _).tactful
    · exact .throw _
  · exact (Procedure.FailsBy.pure _).tactful

theorem driveControl_tactful (control : ModuleControl) (enable : Bool) :
    (q.driveControl control enable).Tactful := by
  unfold driveControl
  split
  · exact (Line.write_failsBy _ _).tactful
  · exact .throw _

/-- What goes wrong when the power class is set is told as an error. -/
theorem setPowerClass_logs (power : MaxPower) (high : Bool) :
    (q.setPowerClass power high).Logs
      (fun r ↦ r.IsDetail ∨ power.softwareControlled = true ∧
        r.message = "failed to set power class, module may not work") fun _ ↦ True := by
  unfold setPowerClass
  split
  · rename_i hsoftware
    have hforce : (q.forcePowerMode high).MadeOf Discreet := q.forcePowerMode_madeOf high
    refine Program.Logs.after (hforce.logs.imp fun _ ↦ .inl) fun r ↦ ?_
    cases r with
    | ok _ => exact .report (.inl (.inl rfl))
    | error e =>
      dsimp only
      split
      · exact .done ()
      · exact .report (.inr ⟨hsoftware, rfl⟩)
  · exact .done ()

/-- High power is refused with an error to a module that draws too much. -/
theorem checkBudget_logs (power : MaxPower) (high : Bool) :
    (q.checkBudget power high).run.Logs
      (fun r ↦ (high = true ∧ q.cage.maxPowerMw < power.milliwatts) ∧
        r.message = "module power exceeds port budget, refusing high power") fun _ ↦ True := by
  unfold checkBudget
  split
  · rename_i hover
    have hover : high = true ∧ q.cage.maxPowerMw < power.milliwatts := by simpa using hover
    refine Procedure.logs_bind (Program.Logs.after (.report ⟨hover, rfl⟩) fun _ ↦ .done _)
      fun _ ↦ .done _
  · exact .done _

/-- The class of a module that leaves it to software is set before the line is missed. -/
theorem moduleControl_logs (hadapted : q.found.adapted = false) (control : ModuleControl)
    (enable : Bool) :
    (q.moduleControl control enable).run.Logs (q.Concedes (.moduleControl control enable))
      Declined := by
  have hdrive (control : ModuleControl) {A : Record → Prop} (hA : ∀ r, r.IsDetail → A r) :
      (q.driveControl control enable).run.Logs A Declined :=
    (q.driveControl_tactful control enable).imp hA
  cases control with
  | reset => exact hdrive .reset fun _ ↦ .inl
  | lowPowerMode =>
    dsimp only [moduleControl]
    split
    · rename_i power hpower
      refine Procedure.logs_bind ((q.checkBudget_logs power !enable).imp fun r hr ↦ ?_) fun _ ↦ ?_
      · obtain ⟨⟨henable, hover⟩, hmessage⟩ := hr
        cases enable with
        | false => exact .inr (.inl ⟨⟨hadapted, power, hpower, hover⟩, hmessage⟩)
        | true => cases henable
      · cases hline : q.controlLine .lowPowerMode with
        | some line =>
          have hwired : Procedure.FailsBy Error.IsForeign (do
              q.setPowerClass power !enable
              q.driveControl .lowPowerMode enable) :=
            .bind (.lift _) fun _ ↦ q.driveControl_wired hline enable
          exact .of_returns hwired.firm
        | none =>
          have hclass : (q.setPowerClass power !enable).Logs
              (q.Concedes (.moduleControl .lowPowerMode enable)) fun _ ↦ True :=
            (q.setPowerClass_logs power !enable).imp fun r hr ↦
              hr.imp_right fun ⟨hsoftware, hmessage⟩ ↦
                .inr ⟨⟨hadapted, hline, power, hpower, hsoftware⟩, hmessage⟩
          exact Procedure.logs_bind (Program.Logs.after hclass fun _ ↦ .done _) fun _ ↦
            hdrive .lowPowerMode fun _ ↦ .inl
    · exact hdrive .lowPowerMode fun _ ↦ .inl

/-- An operation on the cage that declines reports only details, but for a control. -/
theorem serveCage_tactful (op : Operation)
    (hop : ∀ control enable, op ≠ .moduleControl control enable) : (q.serveCage op).Tactful := by
  cases op with
  | presence => exact (Discreet.lineRead _).tactful
  | moduleMonitorStatus flags => exact (q.moduleMonitorStatus_madeOf flags).tactful
  | channelMonitorStatus channel flags =>
    exact (q.channelMonitorStatus_madeOf channel flags).tactful
  | channelStatus channel flags => exact (q.channelStatus_madeOf channel flags).tactful
  | txControl channel enable => exact q.txControl_tactful channel enable
  | txControlStatus channel => exact (q.txControlStatus_madeOf channel).tactful
  | cdrSet channel enable => exact q.cdrSet_tactful channel enable
  | cdrStatus channel => exact (q.cdrStatus_madeOf channel).tactful
  | parameter p => exact (q.parameter_discreet p).tactful
  | vendorInfo v => exact (q.vendorInfo_madeOf v).tactful
  | transceiverCode => exact q.transceiverCode_madeOf.tactful
  | threshold t => exact q.threshold_tactful t
  | moduleControl control enable => exact absurd rfl (hop control enable)
  | moduleControlStatus control => exact (q.moduleControlStatus_madeOf control).tactful
  | moduleMonitor monitor => exact (q.moduleMonitor_madeOf monitor).tactful
  | channelMonitor channel monitor => exact (q.channelMonitor_madeOf channel monitor).tactful
  | featureSupport =>
    exact (q.featureSupport_madeOf (Selected.pagingSupported_discreet _)).tactful
  | readGeneric a length => exact (q.session_failsBy fun m ↦ m.read_failsBy a length).tactful
  | writeGeneric a data => exact (q.session_failsBy fun m ↦ m.write_failsBy a data).tactful
  | read offset length => exact (q.session_failsBy fun m ↦ m.read_failsBy _ length).tactful
  | write offset data => exact (q.session_failsBy fun m ↦ m.write_failsBy _ data).tactful
  | extRateSelect channel revision cdrEnable =>
    exact q.extRateSelect_tactful channel revision cdrEnable
  | adapterKind => exact q.adapterKind_tactful
  | speed | portInfo | moduleInfo => exact (Procedure.FailsBy.pure _).tactful
  | phyAutonegSet channel media enable =>
    exact (q.breakout_failsBy channel media (CopperPhy.setAutoneg_failsBy enable)).tactful
  | phyModeSet channel media mode =>
    exact (q.breakout_failsBy channel media (CopperPhy.setMode_failsBy mode)).tactful
  | phySpeedSet channel media speed =>
    exact (q.breakout_failsBy channel media (CopperPhy.setSpeed_failsBy speed)).tactful
  | moduleInit _ | ledSet _ _ | wavelengthSet _ | phyLinkStatus _ _ | phyPowerDown _ _ _
  | phySerdesControl _ _ _ | mailboxChain _ | tenGigSetRate _ | tenGigTxState
  | tenGigSetTxState _ | tenGigSystemStatus | tenGigLineStatus | tenGigLinkStatus =>
    exact .throw _

theorem serve_logs (op : Operation) : (q.serve op).run.Logs (q.Concedes op) Declined := by
  unfold serve
  split
  · rename_i s _ _
    exact (s.serve_tactful op).imp fun _ ↦ .inl
  · exact .done _
  · rename_i hrefused
    by_cases hop : ∃ control enable, op = .moduleControl control enable
    · obtain ⟨control, enable, rfl⟩ := hop
      refine q.moduleControl_logs ?_ control enable
      cases h : q.found.adapted with
      | false => rfl
      | true => exact (hrefused _ (if_pos h) rfl).elim
    · exact (q.serveCage_tactful op fun control enable h ↦ hop ⟨control, enable, h⟩).imp
        fun _ ↦ .inl

theorem chain_logs (ps : List Packet) : (q.chain ps).Logs Record.IsDetail (Declined ·.2) := by
  unfold chain
  split
  · exact .of_returns (Sfp.chain_returns _ ps)
  · exact .done _

theorem perform_logs (op : Operation) :
    (q.perform op).Logs (q.Concedes op) (Declined ·.1) := by
  cases op with
  | moduleInit present => exact .of_returns (q.moduleInit_returns present)
  | _ =>
    exact Program.Logs.bind (q.serve_logs _) (fun _ _ ↦ .done _) fun _ h ↦ .done h

end Qsfp

/-! ## Logical ports -/

namespace SubPort

variable (p : SubPort)

theorem serve_logs (op : Operation) : (p.serve op).run.Logs (p.inner.Concedes op) Declined := by
  cases op with
  | presence => exact .of_returns p.presence_failsBy.firm
  | channelMonitorStatus _ _ | channelStatus _ _ | txControl _ _ | txControlStatus _
  | cdrSet _ _ | cdrStatus _ | channelMonitor _ _ | extRateSelect _ _ _ | phyAutonegSet _ _ _
  | phyModeSet _ _ _ | phySpeedSet _ _ _ | phyLinkStatus _ _ | phyPowerDown _ _ _
  | phySerdesControl _ _ _ =>
    exact Procedure.logs_bind (.done _) fun c ↦ p.inner.serve_logs _
  | _ => exact p.inner.serve_logs _

theorem perform_logs (op : Operation) :
    (p.perform op).Logs (p.inner.Concedes op) (Declined ·.1) := by
  cases op with
  | moduleInit present =>
    exact Program.Logs.bind (p.inner.perform_logs (.moduleInit present)) (fun _ _ ↦ .done _)
      fun _ h ↦ .done h
  | _ =>
    exact Program.Logs.bind (p.serve_logs _) (fun _ _ ↦ .done _) fun _ h ↦ .done h

end SubPort

/-! ## Drivers and resources -/

namespace Driver

/-- High power is asked for a module that draws more than the port has. -/
def Overdraws : Driver → Operation → Prop
  | .sfp _, _ => False
  | .qsfp q, op => q.Overdraws op
  | .subPort p, op => p.inner.Overdraws op

/-- The record of an operation that declines: a detail, or one of two errors of the control of
power. -/
def Concedes (v : Driver) (op : Operation) (r : Record) : Prop :=
  r.IsDetail ∨
    v.Overdraws op ∧ r.message = "module power exceeds port budget, refusing high power" ∨
    v.PowersUnwired op ∧ r.message = "failed to set power class, module may not work"

theorem perform_logs (v : Driver) (op : Operation) :
    (v.perform op).Logs (v.Concedes op) (Declined ·.1) := by
  cases v with
  | sfp d =>
    have hd : (keeping d (d.serve op)).Logs Record.IsDetail (Declined ·.1) :=
      Program.Logs.bind (d.serve_tactful op) (fun _ _ ↦ .done _) fun _ h ↦ .done h
    exact Program.Logs.bind (hd.imp fun _ ↦ .inl) (fun _ _ ↦ .done _) fun _ h ↦ .done h
  | qsfp d =>
    exact Program.Logs.bind (d.perform_logs op) (fun _ _ ↦ .done _) fun _ h ↦ .done h
  | subPort d =>
    exact Program.Logs.bind (d.perform_logs op) (fun _ _ ↦ .done _) fun _ h ↦ .done h

theorem chain_logs (v : Driver) (ps : List Packet) :
    (v.chain ps).Logs Record.IsDetail (Declined ·.2) := by
  cases v with
  | sfp d => exact .of_returns (d.chain_returns ps)
  | qsfp d => exact d.chain_logs ps
  | subPort d => exact d.inner.chain_logs ps

end Driver

/-- A speed is applied or not, but never declined. -/
theorem Qsfp.serve_phySpeedSet_foreign (q : Qsfp) (channel : UInt8) (media : MediaType)
    (speed : Speed) : (q.serve (.phySpeedSet channel media speed)).FailsBy Error.IsForeign := by
  unfold serve
  split
  · exact Sfp.session_failsBy _ fun _ ↦ CopperPhy.setSpeed_failsBy speed
  · rename_i hroute
    cases hroute
  · exact q.breakout_failsBy channel media (CopperPhy.setSpeed_failsBy speed)

namespace Driver

theorem phySpeedSet_returns (v : Driver) (channel : UInt8) (media : MediaType) (speed : Speed) :
    (v.perform (.phySpeedSet channel media speed)).Returns (¬ Declined ·.1) := by
  have hkeeping {δ : Type} {d : δ} {p : Procedure Unit} (h : p.FailsBy Error.IsForeign) :
      (keeping d p).Returns (¬ Declined ·.1) := Program.Returns.bind h.firm fun _ hr ↦ .done hr
  cases v with
  | sfp d =>
    have hserve : (d.serve (.phySpeedSet channel media speed)).FailsBy Error.IsForeign :=
      d.session_failsBy fun _ ↦ CopperPhy.setSpeed_failsBy speed
    exact Program.Returns.bind (hkeeping hserve) fun _ hr ↦ .done hr
  | qsfp d =>
    exact Program.Returns.bind (hkeeping (d.serve_phySpeedSet_foreign channel media speed))
      fun _ hr ↦ .done hr
  | subPort d =>
    have hserve : (d.serve (.phySpeedSet channel media speed)).FailsBy Error.IsForeign :=
      .bind (.liftExcept (d.channel_failsBy channel)) fun c ↦
        d.inner.serve_phySpeedSet_foreign c media speed
    exact Program.Returns.bind (hkeeping hserve) fun _ hr ↦ .done hr

end Driver

namespace Resource

/-- That an operation is not supported is noted as a detail. -/
theorem note_logs {r : Except Error α} (operation : String) (h : Declined r) :
    (note operation r).Logs Record.IsDetail fun _ ↦ True := by
  cases r with
  | ok _ => exact h.elim
  | error e =>
    dsimp only [note]
    rw [if_pos (show e.isNotSupported = true from h)]
    exact .report (.inl rfl)

variable (name : String) (v : Driver)

theorem call_logs (op : Operation) :
    (call ⟨name, .media v⟩ op).Logs (v.Concedes op) (Declined ·.1) := by
  refine Program.Logs.bind (v.perform_logs op) (fun x hx ↦ ?_) fun x hx ↦ ?_
  · exact Program.Logs.after ((note_logs op.name hx).imp fun _ ↦ .inl) fun _ ↦ .done _
  · exact Program.Returns.bind (.trivial _) fun _ _ ↦ .done hx

theorem chain_logs (ps : List Packet) :
    (chain ⟨name, .media v⟩ ps).Logs Record.IsDetail (Declined ·.2) := by
  refine Program.Logs.bind (v.chain_logs ps) (fun x hx ↦ ?_) fun x hx ↦ ?_
  · exact Program.Logs.after (note_logs _ hx) fun _ ↦ .done _
  · exact Program.Returns.bind (.trivial _) fun _ _ ↦ .done hx

theorem applySpeeds_returns (channel : UInt8) (media : MediaType) {last : Except Error Unit}
    (hlast : ¬ Declined last) (speeds : List Speed) :
    (applySpeeds v channel media last speeds).Returns (¬ Declined ·) := by
  induction speeds generalizing last with
  | nil => exact .done hlast
  | cons speed speeds ih =>
    exact Program.Returns.bind (v.phySpeedSet_returns channel media speed) fun x hx ↦
      Program.Returns.bind (.trivial _) fun _ _ ↦ ih hx

/-- A call that is not supported is told of as a detail alone.  Only the control of the power of a
module may come with an error: where high power is more than the port has, and where the power class
could not be set before the line was missed. -/
theorem declined_details (b : Bench) :
    let r : Resource Driver := ⟨name, .media v⟩
    (∀ op, Declined ((r.call op).value Bench.answer b).1 →
      ∀ x ∈ ((r.call op).trace Bench.answer b).records, v.Concedes op x) ∧
    (∀ ps, Declined ((r.chain ps).value Bench.answer b).2 →
      ∀ x ∈ ((r.chain ps).trace Bench.answer b).records, x.IsDetail) ∧
    (∀ channel media speeds,
      ¬ Declined ((r.setPhySpeeds channel media speeds).value Bench.answer b)) ∧
    (∀ m, ¬ Declined (r.moduleMonitorThreshold m)) ∧
    ∀ channel m, ¬ Declined (r.channelMonitorThreshold channel m) := by
  refine ⟨fun op ↦ call_logs name v op b, fun ps ↦ chain_logs name v ps b,
    fun channel media speeds ↦ ?_, fun _ ↦ Bool.false_ne_true, fun _ _ ↦ Bool.false_ne_true⟩
  exact applySpeeds_returns v channel media id speeds _ Bench.answer b

/-- A module without clock recovery, and a cage that no mailbox is behind. -/
theorem declined_details_cdrSet :
    let c : Cage := {
      instanceId := 0, name := "port0", family := .qsfp, portType := .qsfp, address := 0x50
      selector := ⟨none, none⟩, selectDelay := .zero, presence := ⟨⟨"control", 0⟩, 0⟩
      reset := none, resetDelay := .zero, lowPower := none, txControl := none, rxLoss := none
      txFault := none, portLed := none, defaultSpeedMbps := none, channelOffset := 0
      maxPowerMw := 3500 }
    let v : Driver := .qsfp (.ofCage c)
    let r : Resource Driver := ⟨"port0", .media v⟩
    let b : Bench := ⟨Segment.blank.addModule 0x50, fun _ ↦ .ofLevel 1⟩
    (Declined ((r.call (.cdrSet 0 true)).value Bench.answer b).1 ∧
      ∀ x ∈ ((r.call (.cdrSet 0 true)).trace Bench.answer b).records,
        v.Concedes (.cdrSet 0 true) x) ∧
    Declined ((r.chain []).value Bench.answer b).2 ∧
      ∀ x ∈ ((r.chain []).trace Bench.answer b).records, x.IsDetail := by
  intro c v r b
  have h := declined_details "port0" v b
  have hcdr : Declined ((r.call (.cdrSet 0 true)).value Bench.answer b).1 := by decide +kernel
  have hchain : Declined ((r.chain []).value Bench.answer b).2 := by decide +kernel
  exact ⟨⟨hcdr, h.1 _ hcdr⟩, hchain, h.2.1 _ hchain⟩

/-- A module that may draw 4000 mW in a port for 3500 mW: to leave its low-power mode is not
supported, and told as an error. -/
theorem not_declined_details_of_overdraw :
    let line : Line := ⟨⟨"control", 0⟩, 0⟩
    let d : Draft := { name := "port0", family := .qsfp, presence := some line }
    let s := (Segment.blank.addModule 0x50).poke 0x50 0 QsfpMap.extIdentifier [0xc1]
    ∃ c, d.build = .ok c ∧
      let b : Bench := ⟨s, fun _ ↦ .ofLevel 1⟩
      let init := Resource.call ⟨"port0", .media (Driver.ofCage c)⟩ (.moduleInit true)
      let r := (init.value Bench.answer b).2
      let b := init.final Bench.answer b
      let control := r.call (.moduleControl .lowPowerMode false)
      (init.value Bench.answer b).1 = .ok () ∧
        (control.value Bench.answer b).1 = .error .notSupported ∧
        ∃ x ∈ (control.trace Bench.answer b).records, x.severity = .error :=
  ⟨_, rfl, rfl, rfl, by decide +kernel⟩

end Resource

end Transceiver
