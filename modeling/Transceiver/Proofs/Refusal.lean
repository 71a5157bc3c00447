import Transceiver.Proofs.Conduct.Driver
import Transceiver.Proofs.Outcomes

/-!
# Operations that are not supported

Callers find out what a module is capable of by trying, so an operation that is not supported must
not have done anything.  Main statement: whatever the surroundings answer, an operation that returns
that it is not supported has written nothing but pages to the module, and no level but those that
select it.  There is one exception, a cage without a line for the low-power mode whose module leaves
its power class to software: the class is written before the line is missed.

An operation first looks and then acts.  What looks may decline but writes nothing; what acts may
fail but does not decline.
-/

namespace Transceiver

variable {α β : Type}

/-! ## Programs -/

namespace Program

/-- Whatever is answered, a program that returns something as `Q` says did nothing but what is
allowed. -/
def Confined (allowed : Action → Prop) (p : Program α) (Q : α → Prop) : Prop :=
  ∀ (σ : Type) (env : Environment σ) (s : σ), Q (p.value env s) →
    ∀ e ∈ p.trace env s, allowed e.action

variable {A A' : Action → Prop} {p : Program α} {f : α → Program β} {Q Q' : α → Prop}
  {R : β → Prop}

namespace Confined

theorem done (a : α) : (Program.done a).Confined A Q := fun _ _ _ _ _ he ↦ nomatch he

theorem perform {action : Action} {Q : action.Reply → Prop} (h : A action) :
    (Transceiver.perform action).Confined A Q := by
  intro σ env s _ e he
  cases List.mem_singleton.mp he
  exact h

/-- Of two programs in sequence the first one counts only where the second one can still return
something as `R` says. -/
theorem bind (h : p.Confined A Q) (hf : ∀ a, Q a → (f a).Confined A R)
    (hR : ∀ a, ¬ Q a → (f a).Returns (¬ R ·)) : (p.bind f).Confined A R := by
  intro σ env s hvalue e he
  rw [value_bind] at hvalue
  have hQ : Q (p.value env s) := Classical.byContradiction fun hQ ↦ hR _ hQ σ env _ hvalue
  rw [trace_bind, List.mem_append] at he
  rcases he with he | he
  · exact h σ env s hQ e he
  · exact hf _ hQ σ env _ hvalue e he

/-- A program that does nothing but what is allowed may come first. -/
theorem after (h : p.Confined A fun _ ↦ True) (hf : ∀ a, (f a).Confined A R) :
    (p.bind f).Confined A R := h.bind (fun a _ ↦ hf a) fun _ hQ ↦ absurd True.intro hQ

theorem imp (h : p.Confined A Q) (hA : ∀ a, A a → A' a) (hQ : ∀ a, Q' a → Q a) :
    p.Confined A' Q' := fun σ env s hvalue e he ↦ hA _ (h σ env s (hQ _ hvalue) e he)

theorem of_returns (h : p.Returns (¬ Q ·)) : p.Confined A Q :=
  fun σ env s hvalue ↦ absurd hvalue (h σ env s)

end Confined

/-- What is confined part by part is confined as a whole. -/
theorem MadeOf.confined {part : Parts} (h : p.MadeOf part)
    (hpart : ∀ (β : Type) (q : Program β), part β q → q.Confined A fun _ ↦ True) :
    p.Confined A fun _ ↦ True := by
  induction h with
  | part h => exact hpart _ _ h
  | done a => exact .done a
  | bind _ _ ih ihf => exact ih.after ihf

end Program

/-! ## Procedures -/

/-- The procedure failed because something is not supported. -/
def Declined : Except Error α → Prop
  | .error e => e.isNotSupported = true
  | .ok _ => False

theorem FailsBy.not_declined {r : Except Error α} (h : FailsBy Error.IsForeign r) :
    ¬ Declined r := by
  cases r with
  | ok a => exact id
  | error e => exact fun hdeclined ↦ Bool.false_ne_true (h.isNotSupported.symm.trans hdeclined)

instance : DecidablePred (Declined (α := α))
  | .error e => inferInstanceAs (Decidable (e.isNotSupported = true))
  | .ok _ => inferInstanceAs (Decidable False)

namespace Procedure

/-- The procedure does not decline. -/
def Firm (p : Procedure α) : Prop := p.run.Returns (¬ Declined ·)

/-- The procedure does nothing but what is allowed, if it declines. -/
def Meek (A : Action → Prop) (p : Procedure α) : Prop := p.run.Confined A Declined

/-- The procedure does nothing but what is allowed. -/
def Quiet (A : Action → Prop) (p : Procedure α) : Prop := p.run.Confined A fun _ ↦ True

variable {A : Action → Prop} {p q : Procedure α} {f : α → Procedure β}

/-- After a procedure that only looks, what follows counts. -/
theorem confined_bind {Q : Except Error β → Prop} (h : p.Quiet A)
    (hf : ∀ a, (f a).run.Confined A Q) : (p >>= f).run.Confined A Q := by
  rw [run_bind]
  refine Program.Confined.after h fun r ↦ ?_
  cases r with
  | ok a => exact hf a
  | error e => exact .done _

/-- What others are to blame for does not decline. -/
theorem FailsBy.firm (h : p.FailsBy Error.IsForeign) : p.Firm :=
  fun σ env s ↦ (h σ env s).not_declined

theorem FailsBy.meek (h : p.FailsBy Error.IsForeign) : p.Meek A := .of_returns h.firm

namespace Meek

theorem pure (a : α) : Meek A (Pure.pure a) := .done _

theorem throw (e : Error) : Meek A (MonadExcept.throw e : Procedure α) := .done _

/-- First look, then act. -/
theorem look (h : p.Quiet A) (hf : ∀ a, (f a).Meek A) : Meek A (p >>= f) := confined_bind h hf

/-- What follows an act does not decline. -/
theorem act (h : p.Meek A) (hf : ∀ a, (f a).FailsBy Error.IsForeign) : Meek A (p >>= f) := by
  unfold Meek
  rw [run_bind]
  refine Program.Confined.bind h (fun r hr ↦ ?_) fun r hr ↦ ?_
  · cases r with
    | ok a => exact hr.elim
    | error e => exact .done _
  · cases r with
    | ok a => exact (hf a).firm
    | error e => exact .done hr

theorem ite {c : Prop} [Decidable c] (hp : p.Meek A) (hq : q.Meek A) :
    Meek A (if c then p else q) := by
  split
  · exact hp
  · exact hq

/-- A procedure that goes on only if a condition holds. -/
theorem require {c : Prop} [Decidable c] {e : Error} (h : p.Meek A) :
    Meek A (if c then p else (do MonadExcept.throw e; p)) :=
  .ite h (.look (.done _) fun _ ↦ h)

/-- A procedure that goes on only if a condition fails. -/
theorem refuse {c : Prop} [Decidable c] {e : Error} (h : p.Meek A) :
    Meek A (if c then (do MonadExcept.throw e; p) else p) :=
  .ite (.look (.done _) fun _ ↦ h) h

end Meek

namespace Quiet

theorem imp (h : p.Quiet A) {A' : Action → Prop} (hA : ∀ a, A a → A' a) : p.Quiet A' :=
  Program.Confined.imp h hA fun _ h ↦ h

theorem meek (h : p.Quiet A) : p.Meek A :=
  Program.Confined.imp h (fun _ ha ↦ ha) fun _ _ ↦ trivial

theorem pure (a : α) : Quiet A (Pure.pure a) := .done _

theorem ite {c : Prop} [Decidable c] (hp : p.Quiet A) (hq : q.Quiet A) :
    Quiet A (if c then p else q) := by
  split
  · exact hp
  · exact hq

theorem bind (h : p.Quiet A) (hf : ∀ a, (f a).Quiet A) : Quiet A (p >>= f) := confined_bind h hf

/-- A procedure that goes on only if a condition holds. -/
theorem require {c : Prop} [Decidable c] {e : Error} (h : p.Quiet A) :
    Quiet A (if c then p else (do MonadExcept.throw e; p)) :=
  .ite h (.bind (.done _) fun _ ↦ h)

theorem liftExcept (r : Except Error α) : Quiet A (liftM r) := .done _

theorem lift {p : Program α} (h : p.Confined A fun _ ↦ True) : Quiet A (liftM p : Procedure α) :=
  h.after fun _ ↦ .done _

end Quiet

/-- Keeping a driver as it is does nothing. -/
theorem Meek.keeping {δ : Type} {d : δ} (h : p.Meek A) :
    (keeping d p).Confined A (Declined ·.1) :=
  Program.Confined.bind h (fun _ _ ↦ .done _) fun _ h ↦ .done h

end Procedure

/-! ## Pin groups and sessions -/

/-- What changes nothing of a module but the page that it shows, and no level of a pin group but to
select the module. -/
def Action.IsHarmless (s : Selector) : Action → Prop
  | .write _ offset data => offset = QsfpMap.pageSelect ∧ data.length = 1
  | .writeLevel g level => ⟨g, level⟩ ∈ s.targets
  | _ => True

theorem Action.IsQuery.isHarmless {a : Action} (h : a.IsQuery) (s : Selector) :
    a.IsHarmless s := by
  cases a <;> trivial

section Confined

variable {A : Action → Prop} {Q : Except Error α → Prop}

theorem PinGroup.hold_confined {g : PinGroup} {body : Procedure α} (hacquire : A (.acquire g))
    (hrelease : A (.release g)) (h : body.run.Confined A Q) :
    (g.hold body).run.Confined A Q := by
  refine Program.Confined.after (.perform hacquire) fun r ↦ ?_
  cases r with
  | error fault => exact .done _
  | ok _ =>
    refine Program.Confined.bind h (fun r _ ↦ ?_) fun r hr ↦ .ask fun _ ↦ .done hr
    exact .after (.perform hrelease) fun _ ↦ .done _

theorem Bus.write_quiet {device offset : UInt8} {data : List UInt8}
    (h : A (.write device offset data)) : (Bus.write device offset data).Quiet A := by
  refine Program.Confined.after (.perform h) fun r ↦ ?_
  cases r <;> exact .done _

/-- Around a procedure a page is selected and left again. -/
theorem Selected.onPage_confined {device : UInt8} (page : UInt8) {body : Procedure α}
    (hselect : ∀ page, A (.write device QsfpMap.pageSelect [page])) (hlog : ∀ r, A (.log r))
    (h : body.run.Confined A Q) : (onPage device page body).run.Confined A Q := by
  refine Program.Confined.after (Bus.write_quiet (hselect page)) fun r ↦ ?_
  cases r with
  | error e => exact .done _
  | ok _ =>
    refine Program.Confined.bind h (fun r _ ↦ ?_) fun r hr ↦ ?_
    · refine Program.Confined.after (Bus.write_quiet (hselect 0)) fun back ↦ ?_
      cases back with
      | ok _ => exact .done _
      | error e => exact .after (.perform (hlog _)) fun _ ↦ .done _
    · refine Program.Returns.bind (.trivial _) fun back _ ↦ ?_
      cases back with
      | ok _ => exact .done hr
      | error e => exact .ask fun _ ↦ .done hr

theorem Line.read_quiet {s : Selector} (hA : ∀ a, a.IsHarmless s → A a) (l : Line) :
    l.read.Quiet A := by
  have hlevel : l.group.readLevel.Quiet A := by
    refine Program.Confined.after (.perform (hA _ trivial)) fun r ↦ ?_
    cases r <;> exact .done _
  have hget : l.get.Quiet A := .bind (.liftExcept _) fun _ ↦ .bind hlevel fun _ ↦ .pure _
  exact PinGroup.hold_confined (hA _ trivial) (hA _ trivial) hget

variable {s : Selector} (hA : ∀ a, a.IsHarmless s → A a)
include hA

theorem SelectTarget.during_confined {t : SelectTarget} (ht : t ∈ s.targets) {body : Procedure α}
    (h : body.run.Confined A Q) : (t.during body).run.Confined A Q := by
  refine PinGroup.hold_confined (hA _ trivial) (hA _ trivial)
    (Procedure.confined_bind (Program.Confined.after (.perform (hA _ ht)) fun r ↦ ?_) fun _ ↦ h)
  cases r <;> exact .done _

theorem Selector.during_confined {body : Procedure α} (h : body.run.Confined A Q) :
    (s.during body).run.Confined A Q := by
  have hunder {t? : Option SelectTarget} (ht : ∀ t ∈ t?, t ∈ s.targets) {body : Procedure α}
      (h : body.run.Confined A Q) : (under t? body).run.Confined A Q := by
    cases t? with
    | none => exact h
    | some t => exact SelectTarget.during_confined hA (ht t rfl) h
  refine hunder (fun t ht ↦ ?_) (hunder (fun t ht ↦ ?_) h)
  · exact List.mem_append_left _ (Option.mem_toList.mpr ht)
  · exact List.mem_append_right _ (Option.mem_toList.mpr ht)

/-- To open a session is harmless. -/
theorem Eeprom.session_confined {e : Eeprom} (he : e.selector = s) {body : Selected → Procedure α}
    (h : (body ⟨e.address, e.scheme⟩).run.Confined A Q) :
    (e.session body).run.Confined A Q := by
  have hvisit : (e.selector.during (do
      settle e.settleTime
      body ⟨e.address, e.scheme⟩)).run.Confined A Q := by
    rw [he]
    refine Selector.during_confined hA (Procedure.confined_bind (.lift ?_) fun _ ↦ h)
    unfold settle
    split
    · exact .done _
    · exact .perform (hA _ trivial)
  unfold session
  split
  · refine Procedure.confined_bind (Line.read_quiet hA _) fun present ↦ ?_
    split
    · exact hvisit
    · exact .done _
  · exact hvisit

/-- A session in which there are only reads and changes of the page is harmless. -/
theorem SessionPart.confined {p : Program α} (h : SessionPart Action.IsQuery α p) :
    p.Confined A fun _ ↦ True := by
  cases h with
  | single action ha => exact .perform (hA _ (ha.isHarmless s))
  | home device => exact Bus.write_quiet (hA _ ⟨rfl, rfl⟩)
  | onPage device page hbody =>
    refine Selected.onPage_confined page (fun _ ↦ hA _ ⟨rfl, rfl⟩) (fun _ ↦ hA _ trivial)
      (Program.MadeOf.confined hbody fun _ _ hq ↦ ?_)
    cases hq with
    | perform action ha => exact .perform (hA _ (ha.isHarmless s))

omit hA in
/-- What only looks in a session is harmless. -/
theorem Procedure.MadeOf.quiet_session {p : Procedure α}
    (h : p.MadeOf (SessionPart Action.IsQuery)) (s : Selector) :
    p.Quiet (Action.IsHarmless s) :=
  Program.MadeOf.confined h fun _ _ hq ↦ hq.confined fun _ ha ↦ ha

/-- To change a byte is to write it after it was read. -/
theorem Selected.modify_quiet {m : Selected} {offset : UInt8}
    (hwrite : ∀ value, A (.write m.address offset [value])) (f : UInt8 → Except Error UInt8) :
    (m.modify (.unpaged offset) f).Quiet A := by
  have hread : (m.readByte (.unpaged offset)).MadeOf (SessionPart Action.IsQuery) :=
    m.lowerByte_madeOf offset
  have hwrite (value : UInt8) : (m.writeByte (.unpaged offset) value).Quiet A :=
    .bind (.liftExcept _) fun _ ↦ Bus.write_quiet (hwrite value)
  exact .bind ((hread.quiet_session s).imp hA) fun old ↦ .bind (.liftExcept _) fun new ↦
    .ite (.bind (hwrite new) fun _ ↦ .pure _) (.pure _)

/-- A visit is harmless. -/
theorem VisitPart.confined {c : Cage} (hc : c.selector = s) {p : Program α}
    (h : VisitPart c α p) : p.Confined A fun _ ↦ True := by
  cases h with
  | idle action ha => exact .perform (hA _ (ha.isQuery.isHarmless s))
  | read l => exact Line.read_quiet hA l
  | session e he _ hbody =>
    exact Eeprom.session_confined hA (he.trans hc) <|
      Program.MadeOf.confined (hbody _) fun _ _ hq ↦ hq.confined hA

end Confined

/-! ## SFP cages -/

/-- What only looks at the cage is harmless. -/
theorem Procedure.MadeOf.quiet {c : Cage} {p : Procedure α} (h : p.MadeOf (VisitPart c)) :
    p.Quiet (Action.IsHarmless c.selector) :=
  Program.MadeOf.confined h fun _ _ hq ↦ hq.confined (fun _ ha ↦ ha) rfl

namespace Tuning

variable (m : Selected) {s : Selector}

/-- A module is asked in one of two ways, or else not at all. -/
theorem request_meek (g : Grid Float) (nm thz : Float) :
    (request m g nm thz).Meek (Action.IsHarmless s) := by
  have hwrite (a : Address) (w : UInt16) (r : TuneRequest) :
      Procedure.FailsBy Error.IsForeign (do m.write a (bytes16 w); return r) :=
    .bind (m.write_failsBy _ _) fun _ ↦ .pure _
  exact .ite (hwrite _ _ _).meek (.ite (hwrite _ _ _).meek (.throw _))

theorem setWavelength_meek (t : TuningTiming) (nm : Float) :
    (setWavelength m t nm).Meek (Action.IsHarmless s) := by
  have hgrid : (readGrid m).MadeOf (SessionPart Action.IsQuery) := readGrid_madeOf m
  have hpaged : (requirePaged m).MadeOf (SessionPart Action.IsQuery) :=
    requirePaged_madeOf m (isTunable_madeOf m) m.pagingSupported_madeOf
  refine .refuse (.look (hpaged.quiet_session s) fun _ ↦
    Selected.onPage_confined _ (fun _ ↦ ⟨rfl, rfl⟩) (fun _ ↦ trivial) ?_)
  refine Procedure.Meek.look (hgrid.quiet_session s) fun g ↦ .require ?_
  exact .act (request_meek m g nm _) fun r ↦ .bind (.lift _) fun _ ↦
    .bind (awaitSettled_failsBy m t _) fun _ ↦ .pure _

theorem setTargetWavelength_meek (nm : Float) :
    (setTargetWavelength m nm).Meek (Action.IsHarmless s) := by
  have htunable : (isTunable m).MadeOf (SessionPart Action.IsQuery) := isTunable_madeOf m
  exact .look (htunable.quiet_session s) fun _ ↦ .require (m.write_failsBy _ _).meek

end Tuning

namespace Sfp

variable (s : Sfp)

theorem session_meek {body : Selected → Procedure α}
    (h : ∀ m, (body m).Meek (Action.IsHarmless s.cage.selector)) :
    (s.session body).Meek (Action.IsHarmless s.cage.selector) :=
  Eeprom.session_confined (fun _ ha ↦ ha) rfl (h _)

/-- The soft control is looked for before it is used. -/
theorem txControl_meek (channel : UInt8) (enable : Bool) :
    (s.txControl channel enable).Meek (Action.IsHarmless s.cage.selector) := by
  refine .look (.liftExcept _) fun _ ↦ ?_
  split
  · exact (Line.write_failsBy _ _).meek
  · refine s.session_meek fun m ↦ ?_
    have hrequire : (requireSoftTxDisable m).MadeOf (SessionPart Action.IsQuery) :=
      requireSoftTxDisable_madeOf m
    have hmodify : Procedure.FailsBy Error.IsForeign (do
        let _ ← m.modify (.diagnostic SfpMap.statusControl) fun status ↦
          .ok (withBit status SfpMap.txDisableControlBit !enable)
        report .debug "soft tx control" [("enable", toString enable)]) :=
      .bind (m.modify_failsBy _ _) fun _ ↦ .lift _
    exact .look (hrequire.quiet_session _) fun _ ↦ hmodify.meek

theorem ledSet_meek (channel : UInt8) (speed : Speed) :
    (s.ledSet channel speed).Meek (Action.IsHarmless s.cage.selector) := by
  refine .look (.liftExcept _) fun _ ↦ ?_
  split
  · exact .look (.liftExcept _) fun _ ↦ (Line.write_failsBy _ _).meek
  · exact .throw _

theorem wavelengthSet_meek (nm : Float) :
    (s.wavelengthSet nm).Meek (Action.IsHarmless s.cage.selector) := by
  refine s.session_meek fun m ↦ ?_
  have htunable : (Tuning.isTunable m).MadeOf (SessionPart Action.IsQuery) :=
    Tuning.isTunable_madeOf m
  have hpaging : m.pagingSupported.MadeOf (SessionPart Action.IsQuery) :=
    m.pagingSupported_madeOf
  exact .look (htunable.quiet_session _) fun _ ↦ .require <|
    .look (hpaging.quiet_session _) fun _ ↦
      .ite (.act (Tuning.setWavelength_meek m _ nm) fun _ ↦ .lift _)
        (Tuning.setTargetWavelength_meek m nm)

theorem chain_returns (ps : List Packet) : (s.chain ps).Returns fun r ↦ ¬ Declined r.2 :=
  fun σ env b ↦ (s.chain_returns_foreign ps σ env b).not_declined

/-- Nothing comes of an operation that declines. -/
theorem serve_meek (op : Operation) :
    (s.serve op).Meek (Action.IsHarmless s.cage.selector) := by
  cases op with
  | presence => exact (s.cage.presence.read_failsBy).meek
  | moduleInit _ | speed | portInfo => exact .pure _
  | moduleMonitorStatus flags => exact (s.moduleMonitorStatus_madeOf flags).quiet.meek
  | channelMonitorStatus channel flags =>
    exact (s.channelMonitorStatus_madeOf channel flags).quiet.meek
  | channelStatus channel flags => exact (s.channelStatus_madeOf channel flags).quiet.meek
  | txControl channel enable => exact s.txControl_meek channel enable
  | txControlStatus channel => exact (s.txControlStatus_madeOf channel).quiet.meek
  | parameter p => exact (s.parameter_madeOf p).quiet.meek
  | vendorInfo v => exact (s.vendorInfo_madeOf v).quiet.meek
  | transceiverCode => exact s.transceiverCode_madeOf.quiet.meek
  | threshold t => exact (s.threshold_madeOf t).quiet.meek
  | moduleMonitor q => exact (s.monitor_madeOf _).quiet.meek
  | channelMonitor channel q => exact (s.channelMonitor_madeOf channel q).quiet.meek
  | featureSupport => exact s.featureSupport_madeOf.quiet.meek
  | readGeneric a length => exact (s.read_madeOf a length).quiet.meek
  | writeGeneric a data => exact (s.session_failsBy fun m ↦ m.write_failsBy a data).meek
  | read offset length => exact (s.read_madeOf _ length).quiet.meek
  | write offset data => exact (s.session_failsBy fun m ↦ m.write_failsBy _ data).meek
  | ledSet channel speed => exact s.ledSet_meek channel speed
  | wavelengthSet nm => exact s.wavelengthSet_meek nm
  | phyAutonegSet _ _ enable =>
    exact (s.session_failsBy fun _ ↦ CopperPhy.setAutoneg_failsBy enable).meek
  | phyModeSet _ _ mode => exact (s.session_failsBy fun _ ↦ CopperPhy.setMode_failsBy mode).meek
  | phySpeedSet _ _ speed => exact (s.session_failsBy fun _ ↦ CopperPhy.setSpeed_failsBy speed).meek
  | phyLinkStatus _ _ =>
    exact (s.session_failsBy fun _ ↦ .bind (CopperPhy.read_failsBy _) fun _ ↦ .pure _).meek
  | phyPowerDown _ _ enable =>
    exact (s.session_failsBy fun _ ↦ CopperPhy.setPowerDown_failsBy enable).meek
  | phySerdesControl _ _ enable =>
    exact (s.session_failsBy fun _ ↦ CopperPhy.setSerdes_failsBy _ enable).meek
  | mailboxChain ps =>
    exact (Procedure.FailsBy.bind_lift (s.chain_returns_foreign ps) fun _ hr ↦
      .bind (.liftExcept hr) fun _ ↦ .pure _).meek
  | tenGigSetRate speed => exact (s.session_failsBy fun m ↦ s.phy.setRate_failsBy m speed).meek
  | tenGigTxState => exact (s.session_failsBy fun m ↦ s.phy.txEnabled_failsBy m).meek
  | tenGigSetTxState enable =>
    exact (s.session_failsBy fun m ↦ s.phy.setTxEnabled_failsBy m enable).meek
  | tenGigSystemStatus => exact (s.session_failsBy fun m ↦ s.phy.systemStatus_failsBy m).meek
  | tenGigLineStatus => exact (s.session_failsBy fun m ↦ s.phy.lineStatus_failsBy m).meek
  | tenGigLinkStatus => exact (s.session_failsBy fun m ↦ s.phy.linkUp_failsBy m).meek
  | cdrSet _ _ | cdrStatus _ | moduleControl _ _ | moduleControlStatus _ | extRateSelect _ _ _
  | adapterKind | moduleInfo => exact .throw _

end Sfp

/-! ## QSFP cages -/

namespace Qsfp

theorem moduleInit_returns (q : Qsfp) (present : Bool) :
    (q.moduleInit present).Returns fun x ↦ ¬ Declined x.1 :=
  fun σ env b ↦ (q.moduleInit_failsBy present σ env b).not_declined

/-- Setting a control sets the power class of the module, and then misses the line. -/
def PowersUnwired (q : Qsfp) : Operation → Prop
  | .moduleControl .lowPowerMode _ =>
    q.found.adapted = false ∧ q.cage.lowPower = none ∧
      ∃ power ∈ q.found.maxPower, power.softwareControlled = true
  | _ => False

/-- What an operation may have done when it declines. -/
def Leaves (q : Qsfp) (op : Operation) (a : Action) : Prop :=
  a.IsHarmless q.cage.selector ∨
    q.PowersUnwired op ∧ ∃ value, a = .write q.cage.address QsfpMap.powerControl [value]

section Meek

variable (q : Qsfp)

theorem session_meek {body : Selected → Procedure α}
    (h : ∀ m, (body m).Meek (Action.IsHarmless q.cage.selector)) :
    (q.session body).Meek (Action.IsHarmless q.cage.selector) :=
  Eeprom.session_confined (fun _ ha ↦ ha) rfl (h _)

theorem txControl_meek (channel : UInt8) (enable : Bool) :
    (q.txControl channel enable).Meek (Action.IsHarmless q.cage.selector) := by
  refine .look (.liftExcept _) fun lane ↦
    .act (q.session_meek fun m ↦ ?_) fun _ ↦ .bind (.lift _) fun _ ↦ .lift _
  have hoptions : (m.lowerByte QsfpMap.controlOptions).MadeOf (SessionPart Action.IsQuery) :=
    m.lowerByte_madeOf _
  exact .look (hoptions.quiet_session _) fun _ ↦ .require <|
    (Procedure.FailsBy.bind (m.modify_failsBy _ _) fun _ ↦ .pure _).meek

theorem cdrSet_meek (channel : UInt8) (enable : Bool) :
    (q.cdrSet channel enable).Meek (Action.IsHarmless q.cage.selector) := by
  refine .look (.liftExcept _) fun lane ↦ q.session_meek fun m ↦ ?_
  have hbits : (q.cdrBits m).MadeOf (SessionPart Action.IsQuery) := cdrBits_madeOf m q
  exact .look (hbits.quiet_session _) fun bits ↦ (setLaneBits_failsBy m lane enable bits).meek

theorem extRateSelect_meek (channel : UInt8) (revision : FirmwareRevision) (cdrEnable : Bool) :
    (q.extRateSelect channel revision cdrEnable).Meek (Action.IsHarmless q.cage.selector) :=
  .look (.liftExcept _) fun _ ↦ (q.session_failsBy fun m ↦
    .bind (m.modify_failsBy _ _) fun _ ↦ .bind (m.modify_failsBy _ _) fun _ ↦ .pure ()).meek

theorem adapterKind_meek :
    q.adapterKind.Meek (Action.IsHarmless q.cage.selector) := by
  dsimp only [adapterKind]
  split
  · split
    · exact (Procedure.FailsBy.bind (Line.write_failsBy _ _) fun _ ↦ .bind (.lift _) fun _ ↦
        .bind (.lift _) fun _ ↦ .bind (Line.write_failsBy _ _) fun _ ↦ .pure _).meek
    · exact .throw _
  · exact .pure _

theorem driveControl_meek {A : Action → Prop} (control : ModuleControl) (enable : Bool) :
    (q.driveControl control enable).Meek A := by
  unfold driveControl
  split
  · exact (Line.write_failsBy _ _).meek
  · exact .throw _

theorem driveControl_wired {control : ModuleControl} {line : Line}
    (h : q.controlLine control = some line) (enable : Bool) :
    (q.driveControl control enable).FailsBy Error.IsForeign := by
  unfold driveControl
  rw [h]
  exact line.write_failsBy _

/-- The power mode of a module is forced in its power control byte. -/
theorem forcePowerMode_quiet {A : Action → Prop}
    (hA : ∀ a, a.IsHarmless q.cage.selector → A a)
    (hwrite : ∀ value, A (.write q.cage.address QsfpMap.powerControl [value])) (high : Bool) :
    (q.forcePowerMode high).Quiet A := by
  have hbyte (m : Selected) :
      (m.lowerByte QsfpMap.extIdentifier).MadeOf (SessionPart Action.IsQuery) :=
    m.lowerByte_madeOf _
  have hmodify (f) : (Selected.modify ⟨q.cage.address, .sff8636⟩
      (.unpaged QsfpMap.powerControl) f).Quiet A := Selected.modify_quiet hA hwrite f
  have hforce : (forcePower ⟨q.eeprom.address, q.eeprom.scheme⟩ high).Quiet A :=
    .bind (((hbyte _).quiet_session q.cage.selector).imp hA) fun _ ↦ .require <|
      .bind (hmodify _) fun _ ↦ .pure ()
  unfold forcePowerMode session
  exact Eeprom.session_confined hA rfl hforce

/-- The power class of a module is set, if it leaves that to software. -/
theorem setPowerClass_confined {A : Action → Prop}
    (hA : ∀ a, a.IsHarmless q.cage.selector → A a) {power : MaxPower}
    (hwrite : power.softwareControlled = true →
      ∀ value, A (.write q.cage.address QsfpMap.powerControl [value])) (high : Bool) :
    (q.setPowerClass power high).Confined A fun _ ↦ True := by
  unfold setPowerClass
  split
  · rename_i hsoftware
    refine Program.Confined.after (q.forcePowerMode_quiet hA (hwrite hsoftware) high) fun r ↦ ?_
    cases r with
    | ok _ => exact .perform (hA _ trivial)
    | error e =>
      dsimp only
      split
      · exact .done ()
      · exact .perform (hA _ trivial)
  · exact .done ()

/-- The class of a module that leaves it to software is set before the line is missed. -/
theorem moduleControl_meek (hadapted : q.found.adapted = false) (control : ModuleControl)
    (enable : Bool) :
    (q.moduleControl control enable).Meek (q.Leaves (.moduleControl control enable)) := by
  dsimp only [moduleControl]
  split
  · split
    · rename_i power hpower
      have hbudget : (q.checkBudget power !enable).Quiet
          (q.Leaves (.moduleControl .lowPowerMode enable)) :=
        .ite (.bind (.lift (.perform (Or.inl trivial))) fun _ ↦ .done _) (.pure ())
      refine .look hbudget fun _ ↦ ?_
      cases hline : q.controlLine .lowPowerMode with
      | some line =>
        exact (Procedure.FailsBy.bind (.lift _) fun _ ↦ q.driveControl_wired hline _).meek
      | none =>
        have hclass := q.setPowerClass_confined
          (A := q.Leaves (.moduleControl .lowPowerMode enable)) (fun _ ↦ Or.inl)
          (fun hsoftware value ↦ Or.inr ⟨⟨hadapted, hline, power, hpower, hsoftware⟩, value, rfl⟩)
          !enable
        exact .look (.lift hclass) fun _ ↦ q.driveControl_meek _ _
    · exact q.driveControl_meek _ _
  · exact q.driveControl_meek _ _

/-- Nothing comes of an operation on the cage that declines, but for a control without a line. -/
theorem serveCage_meek (op : Operation)
    (hop : ∀ control enable, op ≠ .moduleControl control enable) :
    (q.serveCage op).Meek (Action.IsHarmless q.cage.selector) := by
  have hpaging : q.eeprom.selected.pagingSupported.MadeOf (SessionPart Action.IsQuery) :=
    Selected.pagingSupported_madeOf _
  cases op with
  | presence => exact (q.cage.presence.read_failsBy).meek
  | moduleMonitorStatus flags => exact (q.moduleMonitorStatus_madeOf flags).quiet.meek
  | channelMonitorStatus channel flags =>
    exact (q.channelMonitorStatus_madeOf channel flags).quiet.meek
  | channelStatus channel flags => exact (q.channelStatus_madeOf channel flags).quiet.meek
  | txControl channel enable => exact q.txControl_meek channel enable
  | txControlStatus channel => exact (q.txControlStatus_madeOf channel).quiet.meek
  | cdrSet channel enable => exact q.cdrSet_meek channel enable
  | cdrStatus channel => exact (q.cdrStatus_madeOf channel).quiet.meek
  | parameter p => exact (q.parameter_madeOf p).quiet.meek
  | vendorInfo v => exact (q.vendorInfo_madeOf v).quiet.meek
  | transceiverCode => exact q.transceiverCode_madeOf.quiet.meek
  | threshold t =>
    exact (q.threshold_madeOf hpaging fun a _ ↦ Selected.readWord_madeOf _ a).quiet.meek
  | moduleControl control enable => exact absurd rfl (hop control enable)
  | moduleControlStatus control => exact (q.moduleControlStatus_madeOf control).quiet.meek
  | moduleMonitor monitor => exact (q.moduleMonitor_madeOf monitor).quiet.meek
  | channelMonitor channel monitor => exact (q.channelMonitor_madeOf channel monitor).quiet.meek
  | featureSupport => exact (q.featureSupport_madeOf hpaging).quiet.meek
  | readGeneric a length => exact (q.read_madeOf a length).quiet.meek
  | writeGeneric a data => exact (q.session_failsBy fun m ↦ m.write_failsBy a data).meek
  | read offset length => exact (q.read_madeOf _ length).quiet.meek
  | write offset data => exact (q.session_failsBy fun m ↦ m.write_failsBy _ data).meek
  | extRateSelect channel revision cdrEnable =>
    exact q.extRateSelect_meek channel revision cdrEnable
  | adapterKind => exact q.adapterKind_meek
  | speed | portInfo | moduleInfo => exact .pure _
  | phyAutonegSet channel media enable =>
    exact (q.breakout_failsBy channel media (CopperPhy.setAutoneg_failsBy enable)).meek
  | phyModeSet channel media mode =>
    exact (q.breakout_failsBy channel media (CopperPhy.setMode_failsBy mode)).meek
  | phySpeedSet channel media speed =>
    exact (q.breakout_failsBy channel media (CopperPhy.setSpeed_failsBy speed)).meek
  | moduleInit _ | ledSet _ _ | wavelengthSet _ | phyLinkStatus _ _ | phyPowerDown _ _ _
  | phySerdesControl _ _ _ | mailboxChain _ | tenGigSetRate _ | tenGigTxState
  | tenGigSetTxState _ | tenGigSystemStatus | tenGigLineStatus | tenGigLinkStatus =>
    exact .throw _

theorem serve_meek (op : Operation) : (q.serve op).Meek (q.Leaves op) := by
  unfold serve
  split
  · rename_i s hs _
    cases adapter?_eq_some hs
    exact (Sfp.serve_meek _ op).imp (fun _ ↦ Or.inl) fun _ h ↦ h
  · exact .throw _
  · rename_i hrefused
    by_cases hop : ∃ control enable, op = .moduleControl control enable
    · obtain ⟨control, enable, rfl⟩ := hop
      refine q.moduleControl_meek ?_ control enable
      cases h : q.found.adapted with
      | false => rfl
      | true => exact (hrefused _ (if_pos h) rfl).elim
    · exact (q.serveCage_meek op fun control enable h ↦ hop ⟨control, enable, h⟩).imp
        (fun _ ↦ Or.inl) fun _ h ↦ h

theorem chain_confined (ps : List Packet) :
    (q.chain ps).Confined (Action.IsHarmless q.cage.selector) (Declined ·.2) := by
  unfold chain
  split
  · exact .of_returns (Sfp.chain_returns _ ps)
  · exact .done _

theorem perform_confined (op : Operation) :
    (q.perform op).Confined (q.Leaves op) (Declined ·.1) := by
  cases op with
  | moduleInit present => exact .of_returns (q.moduleInit_returns present)
  | _ => exact (q.serve_meek _).keeping

end Meek

end Qsfp

/-! ## Logical ports -/

namespace SubPort

variable (p : SubPort)

/-- An operation on a channel of the port declines where that on the channel of the cage does. -/
theorem serve_meek (op : Operation) : (p.serve op).Meek (p.inner.Leaves op) := by
  cases op with
  | presence =>
    exact (Procedure.MadeOf.quiet p.presence_madeOf).meek.imp (fun _ ↦ Or.inl) fun _ h ↦ h
  | channelMonitorStatus _ _ | channelStatus _ _ | txControl _ _ | txControlStatus _
  | cdrSet _ _ | cdrStatus _ | channelMonitor _ _ | extRateSelect _ _ _ | phyAutonegSet _ _ _
  | phyModeSet _ _ _ | phySpeedSet _ _ _ | phyLinkStatus _ _ | phyPowerDown _ _ _
  | phySerdesControl _ _ _ =>
    exact .look (.liftExcept _) fun c ↦ p.inner.serve_meek _
  | _ => exact p.inner.serve_meek _

theorem perform_confined (op : Operation) :
    (p.perform op).Confined (p.inner.Leaves op) (Declined ·.1) := by
  cases op with
  | moduleInit present =>
    exact Program.Confined.bind (p.inner.perform_confined (.moduleInit present))
      (fun _ _ ↦ .done _) fun _ h ↦ .done h
  | _ => exact (p.serve_meek _).keeping

end SubPort

namespace Driver

/-- Setting a control sets the power class of the module, and then misses the line. -/
def PowersUnwired : Driver → Operation → Prop
  | .sfp _, _ => False
  | .qsfp q, op => q.PowersUnwired op
  | .subPort p, op => p.inner.PowersUnwired op

section Run

variable {σ : Type} (env : Environment σ) (s : σ)

theorem perform_confined (v : Driver) (op : Operation) :
    (v.perform op).Confined (fun a ↦ a.IsHarmless v.cage.selector ∨
      v.PowersUnwired op ∧ ∃ value, a = .write v.cage.address QsfpMap.powerControl [value])
      (Declined ·.1) := by
  cases v with
  | sfp d =>
    have hd := (d.serve_meek op).keeping (d := d)
    exact Program.Confined.bind (hd.imp (fun _ ↦ Or.inl) fun _ h ↦ h) (fun _ _ ↦ .done _)
      fun _ h ↦ .done h
  | qsfp d =>
    exact Program.Confined.bind (d.perform_confined op) (fun _ _ ↦ .done _) fun _ h ↦ .done h
  | subPort d =>
    exact Program.Confined.bind (d.perform_confined op) (fun _ _ ↦ .done _) fun _ h ↦ .done h

theorem chain_confined (v : Driver) (ps : List Packet) :
    (v.chain ps).Confined (Action.IsHarmless v.cage.selector) (Declined ·.2) := by
  cases v with
  | sfp d => exact .of_returns (d.chain_returns ps)
  | qsfp d => exact d.chain_confined ps
  | subPort d => exact d.inner.chain_confined ps

/-- An operation that is not supported has selected the module and pages of it and done nothing else
to it, whatever its surroundings answered.  Only the power class of a module may have been set for a
control that there is no line for. -/
theorem declined_harmless (v : Driver) :
    (∀ op, Declined ((v.perform op).value env s).1 →
      ∀ e ∈ (v.perform op).trace env s, e.action.IsHarmless v.cage.selector ∨
        v.PowersUnwired op ∧
          ∃ value, e.action = .write v.cage.address QsfpMap.powerControl [value]) ∧
    ∀ ps, Declined ((v.chain ps).value env s).2 →
      ∀ e ∈ (v.chain ps).trace env s, e.action.IsHarmless v.cage.selector :=
  ⟨fun op h ↦ v.perform_confined op σ env s h, fun ps h ↦ v.chain_confined ps σ env s h⟩

end Run

/-- A cage wired for selection and presence, whose module has a soft control of its transmitters
but no clock recovery. -/
theorem declined_harmless_cdrSet :
    let c : Cage := {
      instanceId := 0, name := "port0", family := .qsfp, portType := .qsfp, address := 0x50
      selector := ⟨none, some ⟨⟨"select", 1⟩, 2⟩⟩, selectDelay := .zero
      presence := ⟨⟨"control", 0⟩, 0⟩, reset := none, resetDelay := .zero, lowPower := none
      txControl := none, rxLoss := none, txFault := none, portLed := none
      defaultSpeedMbps := none, channelOffset := 0, maxPowerMw := 3500 }
    let v : Driver := .qsfp (.ofCage c)
    let b : Bench :=
      ⟨(Segment.blank.addModule 0x50).poke 0x50 0 QsfpMap.controlOptions [0x10], fun _ ↦ .ofLevel 1⟩
    (Declined ((v.perform (.cdrSet 0 true)).value Bench.answer b).1 ∧
      ∀ e ∈ (v.perform (.cdrSet 0 true)).trace Bench.answer b,
        e.action.IsHarmless c.selector ∨ v.PowersUnwired (.cdrSet 0 true) ∧
          ∃ value, e.action = .write 0x50 QsfpMap.powerControl [value]) ∧
    Declined ((v.chain []).value Bench.answer b).2 ∧
      ∀ e ∈ (v.chain []).trace Bench.answer b, e.action.IsHarmless c.selector := by
  intro c v b
  have h := declined_harmless Bench.answer b v
  have hcdr : Declined ((v.perform (.cdrSet 0 true)).value Bench.answer b).1 := by
    decide +kernel
  have hchain : Declined ((v.chain []).value Bench.answer b).2 := by decide
  exact ⟨⟨hcdr, h.1 _ hcdr⟩, hchain, h.2 _ hchain⟩

/-- A cage without a line for the low-power mode, whose module leaves its power class to software:
to leave the mode is not supported, and raises the power of the module. -/
theorem not_declined_harmless_of_unwired :
    let line : Line := ⟨⟨"control", 0⟩, 0⟩
    let d : Draft :=
      { name := "port0", family := .qsfp, portType := some .qsfp28, presence := some line }
    let s := (Segment.blank.addModule 0x50).poke 0x50 0 QsfpMap.extIdentifier [0xc1]
    ∃ c, d.build = .ok c ∧
      let b : Bench := ⟨s, fun _ ↦ .ofLevel 1⟩
      let init := (Driver.ofCage c).perform (.moduleInit true)
      let v := (init.value Bench.answer b).2
      let b := init.final Bench.answer b
      let control := v.perform (.moduleControl .lowPowerMode false)
      (control.value Bench.answer b).1 = .error .notSupported ∧
        .write 0x50 QsfpMap.powerControl [5] ∈ (control.trace Bench.answer b).transactions :=
  ⟨_, rfl, rfl, by decide +kernel⟩

end Driver

end Transceiver
