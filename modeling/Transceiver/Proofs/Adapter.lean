import Transceiver.Proofs.Selection
import Transceiver.Proofs.Session

/-!
# Modules in adapters

Once an adapter is found in a QSFP cage, the module in it is driven as one in an SFP cage wired
likewise.  Main statement: an operation that addresses the module does the same as that of the
driver for such a cage, whatever the surroundings answer, unless it names a page.  Accesses that
name one go by the paging rules of the cage, not by those of the module.
-/

namespace Transceiver

variable {α β σ : Type}

/-! ## Exchanges -/

/-- The transactions of a trace, with what was answered. -/
def Trace.exchanges (t : Trace) : Trace := t.filter fun e ↦ e.action.transaction?.isSome

namespace Trace

@[simp] theorem exchanges_append (t t' : Trace) :
    (t ++ t').exchanges = t.exchanges ++ t'.exchanges := List.filter_append ..

/-- What is exchanged tells the transactions. -/
theorem transactions_exchanges (t : Trace) : t.exchanges.transactions = t.transactions := by
  induction t with
  | nil => rfl
  | cons e t ih =>
    cases h : e.action.transaction? <;> simp_all [exchanges, transactions]

end Trace

/-- Actions off the bus exchange nothing. -/
theorem Program.MadeOf.exchanges_eq_nil {p : Program α} (h : p.MadeOf (Single Action.IsOffBus))
    (env : Environment σ) (s : σ) : (p.trace env s).exchanges = [] := by
  refine List.filter_eq_nil_iff.mpr fun e he ↦ ?_
  rw [h.forall_trace env s e he]
  exact Bool.false_ne_true

/-! ## Sessions -/

/-- A way to run procedures. -/
abbrev Surrounding := {α : Type} → Procedure α → Procedure α

/-- What is done around a procedure, none of it on the bus: it fails before it comes to the
procedure, or it does what the procedure does from some state on. -/
def Surrounding.Opens (w : Surrounding) (env : Environment σ) (s : σ) : Prop :=
  (∀ {α : Type} (p : Procedure α), ∃ e, (w p).run.value env s = .error e ∧
    ((w p).run.trace env s).exchanges = []) ∨
  ∃ s', ∀ {α : Type} (p : Procedure α), (w p).run.value env s = p.run.value env s' ∧
    ((w p).run.trace env s).exchanges = (p.run.trace env s').exchanges

namespace Surrounding.Opens

variable {w w' : Surrounding} {env : Environment σ} {s : σ}

theorem id : Opens (fun p ↦ p) env s := .inr ⟨s, fun _ ↦ ⟨rfl, rfl⟩⟩

theorem comp (h : w.Opens env s) (h' : ∀ s, w'.Opens env s) :
    Opens (fun p ↦ w (w' p)) env s := by
  rcases h with h | ⟨s₁, h⟩
  · exact .inl fun p ↦ h (w' p)
  · rcases h' s₁ with h' | ⟨s₂, h'⟩
    · refine .inl fun p ↦ ?_
      rw [(h _).1, (h _).2]
      exact h' p
    · refine .inr ⟨s₂, fun p ↦ ?_⟩
      rw [(h _).1, (h _).2]
      exact h' p

/-- What comes before a procedure may fail, or decide on what is done around it. -/
theorem bind {r : Procedure β} (hr : r.MadeOf (Single Action.IsOffBus)) {w : β → Surrounding}
    (hw : ∀ b s, Opens (fun p ↦ w b p) env s) : Opens (fun p ↦ r >>= fun b ↦ w b p) env s := by
  have hvalue {α : Type} (p : Procedure α) : (r >>= fun b ↦ w b p).run.value env s =
      (Procedure.andThen (fun b ↦ w b p) (r.run.value env s)).value env (r.run.final env s) := by
    rw [Procedure.run_bind, Program.value_bind]
  have htrace {α : Type} (p : Procedure α) : ((r >>= fun b ↦ w b p).run.trace env s).exchanges =
      ((Procedure.andThen (fun b ↦ w b p) (r.run.value env s)).trace env
        (r.run.final env s)).exchanges := by
    rw [Procedure.run_bind, Program.trace_bind, Trace.exchanges_append,
      Program.MadeOf.exchanges_eq_nil hr]
    rfl
  cases hb : r.run.value env s with
  | error e =>
    refine .inl fun p ↦ ⟨e, ?_, ?_⟩
    · rw [hvalue, hb]
      rfl
    · rw [htrace, hb]
      rfl
  | ok b =>
    rw [hb] at hvalue htrace
    rcases hw b (r.run.final env s) with h | ⟨s', h⟩
    · refine .inl fun p ↦ ?_
      rw [hvalue, htrace]
      exact h p
    · refine .inr ⟨s', fun p ↦ ?_⟩
      rw [hvalue, htrace]
      exact h p

/-- A group that is acquired is released after the procedure. -/
theorem hold (g : PinGroup) : Opens (fun p ↦ g.hold p) env s := by
  cases hg : (env (.acquire g) s).1 with
  | error fault =>
    refine .inl fun p ↦ ⟨.gpio g.name fault, ?_, ?_⟩
    · change Program.value (.ask _ _) env s = _
      rw [Program.value_ask, hg]
      rfl
    · change Trace.exchanges (Program.trace (.ask _ _) env s) = _
      rw [Program.trace_ask, hg]
      rfl
  | ok _ =>
    refine .inr ⟨(env (.acquire g) s).2, fun p ↦ ⟨?_, ?_⟩⟩
    · change Program.value (.ask _ _) env s = _
      rw [Program.value_ask, hg]
      change (p.run.bind fun r ↦ .ask (.release g) fun _ ↦ .done r).value env _ = _
      exact Program.value_bind ..
    · change Trace.exchanges (Program.trace (.ask _ _) env s) = _
      rw [Program.trace_ask, hg]
      change Trace.exchanges (_ :: (p.run.bind fun r ↦ .ask (.release g) fun _ ↦ .done r).trace
        env _) = _
      rw [Program.trace_bind]
      simp [Trace.exchanges, Program.trace_ask, Action.transaction?]

theorem during (t : SelectTarget) : Opens (fun p ↦ t.during p) env s :=
  (hold t.group).comp fun _ ↦ bind (t.group.writeLevel_madeOf t.value) fun _ _ ↦ id

theorem under (t? : Option SelectTarget) : Opens (fun p ↦ Selector.under t? p) env s := by
  cases t? with
  | none => exact id
  | some t => exact during t

end Surrounding.Opens

/-- A session fails before it comes to the module, or is what is done there. -/
theorem Eeprom.session_opens (e : Eeprom) (env : Environment σ) (s : σ) :
    Surrounding.Opens (fun p ↦ e.session fun _ ↦ p) env s := by
  have hvisit (s : σ) : Surrounding.Opens (fun p ↦ e.selector.during (do
      settle e.settleTime
      p)) env s :=
    (Surrounding.Opens.under e.selector.mux).comp fun _ ↦
      (Surrounding.Opens.under e.selector.module).comp fun _ ↦
        .bind (.lift (settle_madeOf _)) fun _ _ ↦ .id
  unfold session
  split
  · refine .bind (Line.read_madeOf _) fun present s ↦ ?_
    split
    · exact hvisit s
    · exact .inl fun _ ↦ ⟨.notPresent, rfl, rfl⟩
  · exact hvisit s

/-! ## What is found -/

/-- A procedure that starts with a byte asks for it first. -/
theorem Bus.run_readByte_bind (address offset : UInt8) (f : UInt8 → Procedure α) :
    (Bus.readByte address offset >>= f).run = .ask (.read address offset 1) fun r ↦
      Procedure.andThen f ((r.map byteIn).mapError (.bus address offset)) := by
  refine congrArg (Program.ask _) (funext fun r ↦ ?_)
  cases r <;> rfl

/-- A procedure returns something as `Q` says, if anything. -/
def Procedure.Yields (p : Procedure α) (Q : α → Prop) : Prop :=
  p.run.Returns fun r ↦ ∀ a, r = .ok a → Q a

namespace Procedure.Yields

variable {p : Procedure α} {f : α → Procedure β} {Q : β → Prop}

theorem pure {b : β} (h : Q b) : Yields (Pure.pure b) Q := .done fun _ hb ↦ by cases hb; exact h

theorem bind (hf : ∀ a, (f a).Yields Q) : Yields (p >>= f) Q := by
  unfold Yields
  rw [run_bind]
  refine Program.Returns.bind (.trivial _) fun r _ ↦ ?_
  cases r with
  | ok a => exact hf a
  | error e => exact .done nofun

end Procedure.Yields

namespace Qsfp

/-- What is first learnt of a module is its identifier, which tells an adapter. -/
theorem discover_head (q : Qsfp) {env : Environment σ} {s : σ} {found : Discovery}
    (h : q.discover.run.value env s = .ok found) :
    ∃ bytes, (q.discover.run.trace env s).exchanges.head? =
        some ⟨.read q.cage.address QsfpMap.identifier 1, .ok bytes⟩ ∧
      found.adapted = (Identifier.ofByte (byteIn bytes)).isAdapted := by
  obtain ⟨rest, hrest, hdiscover⟩ : ∃ rest : UInt8 → Procedure Discovery,
      (∀ b, (rest b).Yields fun found ↦ found.adapted = (Identifier.ofByte b).isAdapted) ∧
        q.discover = q.eeprom.session fun _ ↦
          Bus.readByte q.cage.address QsfpMap.identifier >>= rest := by
    refine ⟨_, fun b ↦ ?_, rfl⟩
    cases hb : (Identifier.ofByte b).isAdapted with
    | true =>
      dsimp only
      rw [hb]
      exact .pure rfl
    | false =>
      dsimp only
      rw [hb]
      refine .bind fun _ ↦ .bind fun revision ↦ ?_
      split
      · split
        · exact .bind fun _ ↦ .pure rfl
        · exact .pure rfl
      · exact .bind fun _ ↦ .pure rfl
  rcases q.eeprom.session_opens env s with hfails | ⟨s', hopens⟩
  · obtain ⟨e, hvalue, -⟩ := hfails (Bus.readByte q.cage.address QsfpMap.identifier >>= rest)
    rw [hdiscover, hvalue] at h
    cases h
  · obtain ⟨hvalue, hexchanges⟩ :=
      hopens (Bus.readByte q.cage.address QsfpMap.identifier >>= rest)
    rw [hdiscover, hvalue, Bus.run_readByte_bind, Program.value_ask] at h
    rw [hdiscover, hexchanges, Bus.run_readByte_bind, Program.trace_ask]
    cases hreply : (env (.read q.cage.address QsfpMap.identifier 1) s').1 with
    | error fault =>
      rw [hreply] at h
      cases h
    | ok bytes =>
      rw [hreply] at h
      exact ⟨bytes, rfl, hrest _ σ env _ found h⟩

/-- A module that is initialized is in an adapter if it identifies itself as an SFP module. -/
theorem moduleInit_head (q : Qsfp) {env : Environment σ} {s : σ}
    (h : ((q.moduleInit true).value env s).1 = .ok ()) :
    ∃ bytes, ((q.moduleInit true).trace env s).exchanges.head? =
        some ⟨.read q.cage.address QsfpMap.identifier 1, .ok bytes⟩ ∧
      ((q.moduleInit true).value env s).2.found.adapted =
        (Identifier.ofByte (byteIn bytes)).isAdapted := by
  dsimp only [moduleInit] at h ⊢
  rw [if_pos rfl, Program.bind_eq, Program.value_bind] at h ⊢
  rw [Program.trace_bind]
  cases hdiscover : q.discover.run.value env s with
  | error e =>
    rw [hdiscover] at h
    cases h
  | ok found =>
    obtain ⟨bytes, hhead, hfound⟩ := q.discover_head hdiscover
    refine ⟨bytes, ?_, hfound⟩
    rw [Trace.exchanges_append, List.head?_append, hhead]
    rfl

/-- Unless a module is initialized or removed, a driver stays as it is. -/
theorem perform_of_not_moduleInit (q : Qsfp) {op : Operation} {env : Environment σ} {s : σ}
    (h : ∀ present, op = .moduleInit present → ∃ e, ((q.perform op).value env s).1 = .error e) :
    ((q.perform op).value env s).2 = q := by
  cases op with
  | moduleInit present =>
    obtain ⟨e, he⟩ := h present rfl
    dsimp only [perform, moduleInit] at he ⊢
    cases present with
    | false =>
      rw [if_neg Bool.false_ne_true] at he
      split at he <;> cases he
    | true =>
      rw [if_pos rfl, Program.bind_eq, Program.value_bind] at he ⊢
      cases hdiscover : q.discover.run.value env s with
      | error e => rfl
      | ok found =>
        rw [hdiscover] at he
        cases he
  | _ => exact keeping_value env s q _

/-- The driver of a cage found an adapter when it last initialized a module, and kept what it found:
the identifier that it read was that of an SFP module. -/
inductive Carries (c : Cage) : Qsfp → Prop
  | found {σ : Type} (env : Environment σ) (s : σ) {q : Qsfp} {bytes : Vector UInt8 1} :
      q.cage = c → ((q.perform (.moduleInit true)).value env s).1 = .ok () →
      ((q.perform (.moduleInit true)).trace env s).exchanges.head? =
        some ⟨.read c.address QsfpMap.identifier 1, .ok bytes⟩ →
      byteIn bytes = 0x03 ∨ byteIn bytes = 0x0b →
      Carries c ((q.perform (.moduleInit true)).value env s).2
  | kept {σ : Type} (env : Environment σ) (s : σ) {q : Qsfp} (op : Operation) :
      Carries c q →
      (∀ present, op = .moduleInit present → ∃ e, ((q.perform op).value env s).1 = .error e) →
      Carries c ((q.perform op).value env s).2

theorem Carries.adapter {c : Cage} {q : Qsfp} (h : q.Carries c) :
    q.cage = c ∧ q.adapter? = some (.ofCage c.adapted) := by
  suffices h : q.cage = c ∧ q.found.adapted = true by
    obtain ⟨rfl, hadapted⟩ := h
    exact ⟨rfl, if_pos hadapted⟩
  induction h with
  | @found σ env s q bytes hcage hok hhead hid =>
    subst hcage
    obtain ⟨_, hhead', hadapted⟩ := q.moduleInit_head hok
    cases Option.some.inj (hhead.symm.trans hhead')
    refine ⟨q.cage_perform env s _, hadapted.trans ?_⟩
    rcases hid with hid | hid <;> rw [hid] <;> rfl
  | kept env s op _ hkept ih =>
    rw [perform_of_not_moduleInit _ hkept]
    exact ih

end Qsfp

/-! ## Operations on the module -/

section Keeping

variable {δ : Type} (d : δ) (p : Procedure α) (env : Environment σ) (s : σ)

theorem value_keeping : ((keeping d p).value env s).1 = p.run.value env s := by
  unfold keeping
  rw [Program.bind_eq, Program.value_bind]
  rfl

theorem trace_keeping : (keeping d p).trace env s = p.run.trace env s := by
  unfold keeping
  rw [Program.bind_eq, Program.trace_bind]
  exact List.append_nil _

theorem final_keeping : (keeping d p).final env s = p.run.final env s := by
  unfold keeping
  rw [Program.bind_eq, Program.final_bind]
  rfl

end Keeping

namespace Operation

/-- The operation is one on the module, rather than on the cage or the port. -/
def AddressesModule : Operation → Prop
  | .moduleMonitorStatus _ | .channelMonitorStatus _ _ | .channelStatus _ _ | .txControl _ _
  | .txControlStatus _ | .parameter _ | .vendorInfo _ | .transceiverCode | .threshold _
  | .moduleMonitor _ | .channelMonitor _ _ | .featureSupport | .readGeneric _ _
  | .writeGeneric _ _ | .read _ _ | .write _ _ | .wavelengthSet _ | .phyAutonegSet _ _ _
  | .phyModeSet _ _ _ | .phySpeedSet _ _ _ | .phyLinkStatus _ _ | .phyPowerDown _ _ _
  | .phySerdesControl _ _ _ | .mailboxChain _ | .tenGigSetRate _ | .tenGigTxState
  | .tenGigSetTxState _ | .tenGigSystemStatus | .tenGigLineStatus | .tenGigLinkStatus => True
  | _ => False

/-- The operation accesses bytes that there are on a page of its own. -/
def NamesPage : Operation → Prop
  | .readGeneric a length => a.page ≠ .ignore ∧ a.offset.toNat + length ≤ addressSpace
  | .writeGeneric a data => a.page ≠ .ignore ∧ a.offset.toNat + data.length ≤ addressSpace
  | _ => False

theorem NamesPage.addressesModule {op : Operation} (h : op.NamesPage) : op.AddressesModule := by
  cases op <;> trivial

end Operation

namespace Selected

variable {address : UInt8} {k k' : PagingScheme} {a : Address}

/-- Where the device ends before an access does, it does not matter what that is. -/
theorem checkRange_bind_eq {length : Nat} (h : ¬ a.offset.toNat + length ≤ addressSpace)
    (p p' : Procedure α) :
    (liftM (checkRange a length) >>= fun _ ↦ p) = liftM (checkRange a length) >>= fun _ ↦ p' := by
  unfold checkRange
  rw [if_pos (Nat.lt_of_not_le h)]
  rfl

/-- How a module is paged does not matter where no page is named. -/
theorem read_eq {length : Nat} (h : ¬ (Operation.readGeneric a length).NamesPage) :
    read ⟨address, k⟩ a length = read ⟨address, k'⟩ a length := by
  by_cases ha : a.page = .ignore
  · unfold read
    rw [paged_unpaged ha, paged_unpaged ha]
  · exact checkRange_bind_eq (fun hrange ↦ h ⟨ha, hrange⟩) _ _

theorem write_eq {data : List UInt8} (h : ¬ (Operation.writeGeneric a data).NamesPage) :
    write ⟨address, k⟩ a data = write ⟨address, k'⟩ a data := by
  by_cases ha : a.page = .ignore
  · unfold write
    rw [paged_unpaged ha, paged_unpaged ha]
  · exact checkRange_bind_eq (fun hrange ↦ h ⟨ha, hrange⟩) _ _

section Paged

variable (ha : a.page ≠ .ignore) (env : Environment σ) (s : σ)
include ha

/-- A module in a QSFP cage is asked whether its memory is flat. -/
theorem head?_paged_sff8636 (body : UInt8 → Procedure α) :
    ((paged ⟨address, .sff8636⟩ a body).run.trace env s).transactions.head? =
      some (.read address QsfpMap.status 1) := by
  unfold paged
  cases hpage : a.page with
  | ignore => exact absurd hpage ha
  | select page => rfl

/-- An SFP module is asked for its options. -/
theorem head?_paged_sff8472 (body : UInt8 → Procedure α) :
    ((paged ⟨address, .sff8472⟩ a body).run.trace env s).transactions.head? =
      some (.read serialDevice SfpMap.options 1) := by
  unfold paged
  cases hpage : a.page with
  | ignore => exact absurd hpage ha
  | select page => rfl

/-- On a page of its own an access starts with one of these questions. -/
theorem head?_paged_ne (body : UInt8 → Procedure α) :
    ((paged ⟨address, .sff8636⟩ a body).run.trace env s).transactions.head? ≠
      ((paged ⟨address, .sff8472⟩ a body).run.trace env s).transactions.head? := by
  rw [head?_paged_sff8636 ha, head?_paged_sff8472 ha]
  intro h
  cases h

end Paged

end Selected

namespace Qsfp

/-- The driver of a cage selects the module as that of the module in an adapter does. -/
theorem session_eq (q : Qsfp) (body : Selected → Procedure α) :
    q.eeprom.session body =
      (Sfp.ofCage q.cage.adapted).eeprom.session fun _ ↦ body q.eeprom.selected := rfl

/-- An access without a page is what it is for the module in an adapter. -/
theorem access_eq (q : Qsfp) (body : Selected → Procedure α)
    (h : body q.eeprom.selected = body (Sfp.ofCage q.cage.adapted).eeprom.selected) :
    q.eeprom.session body = (Sfp.ofCage q.cage.adapted).eeprom.session body := by
  rw [session_eq, h]
  rfl

theorem serve_eq {q : Qsfp} (hq : q.adapter? = some (.ofCage q.cage.adapted)) {op : Operation}
    (hop : op.AddressesModule) (hpage : ¬ op.NamesPage) :
    q.serve op = (Sfp.ofCage q.cage.adapted).serve op := by
  unfold serve
  rw [hq]
  cases op with
  | readGeneric a length =>
    exact q.access_eq (fun m ↦ m.read a length) (Selected.read_eq hpage)
  | writeGeneric a data =>
    exact q.access_eq (fun m ↦ m.write a data) (Selected.write_eq hpage)
  | read offset length =>
    exact q.access_eq (fun m ↦ m.read (.unpaged offset) length)
      (Selected.read_eq fun h ↦ h.1 rfl)
  | write offset data =>
    exact q.access_eq (fun m ↦ m.write (.unpaged offset) data)
      (Selected.write_eq fun h ↦ h.1 rfl)
  | presence | moduleInit _ | cdrSet _ _ | cdrStatus _ | speed | moduleControl _ _
  | moduleControlStatus _ | ledSet _ _ | extRateSelect _ _ _ | adapterKind | portInfo
  | moduleInfo => exact hop.elim
  | _ => rfl

/-- Where the first transactions with the module differ, sessions are the same only if they do not
get to the module. -/
theorem transactions_session_eq_nil {q : Qsfp} {env : Environment σ} {s : σ}
    (body : Selected → Procedure α)
    (h : ∀ s, ((body q.eeprom.selected).run.trace env s).transactions.head? ≠
      ((body (Sfp.ofCage q.cage.adapted).eeprom.selected).run.trace env s).transactions.head?)
    (heq : ((q.eeprom.session body).run.trace env s).transactions =
      (((Sfp.ofCage q.cage.adapted).eeprom.session body).run.trace env s).transactions) :
    ((q.eeprom.session body).run.trace env s).transactions = [] := by
  rcases q.eeprom.session_opens env s with hfails | ⟨s', hopens⟩
  · obtain ⟨_, -, hq⟩ := hfails (body q.eeprom.selected)
    rw [← Trace.transactions_exchanges]
    exact congrArg Trace.transactions hq
  · have hopened (m : Selected) : ((q.eeprom.session fun _ ↦ body m).run.trace env s).transactions =
        ((body m).run.trace env s').transactions := by
      rw [← Trace.transactions_exchanges, (hopens (body m)).2, Trace.transactions_exchanges]
    refine absurd (congrArg List.head? ?_) (h s')
    rw [← hopened, ← hopened]
    exact heq

/-- Accesses that name a page are not the same if they get to the module. -/
theorem serve_paged {q : Qsfp} (hq : q.adapter? = some (.ofCage q.cage.adapted)) {op : Operation}
    (hpage : op.NamesPage) {env : Environment σ} {s : σ}
    (heq : ((q.serve op).run.trace env s).transactions =
      (((Sfp.ofCage q.cage.adapted).serve op).run.trace env s).transactions) :
    ((q.serve op).run.trace env s).transactions = [] := by
  unfold serve at heq ⊢
  rw [hq] at heq ⊢
  cases op with
  | readGeneric a length =>
    refine transactions_session_eq_nil (fun m ↦ m.read a length) (fun s ↦ ?_) heq
    unfold Selected.read
    rw [Selected.checkRange_bind hpage.2, Selected.checkRange_bind hpage.2]
    exact Selected.head?_paged_ne hpage.1 env s _
  | writeGeneric a data =>
    refine transactions_session_eq_nil (fun m ↦ m.write a data) (fun s ↦ ?_) heq
    unfold Selected.write
    rw [Selected.checkRange_bind hpage.2, Selected.checkRange_bind hpage.2]
    exact Selected.head?_paged_ne hpage.1 env s _
  | _ => exact hpage.elim

/-- An operation on the module leaves the driver as it is. -/
theorem perform_eq_keeping (q : Qsfp) {op : Operation} (hop : op.AddressesModule) :
    q.perform op = keeping q (q.serve op) := by
  cases op with
  | moduleInit _ => exact hop.elim
  | _ => rfl

/-- While an adapter is fitted, an operation on the module returns what the driver of the SFP cage
returns, does the same on the way and ends in the same state, unless it names a page; so does
running packets.  An access that names a page does something else, if anything. -/
theorem Carries.transparent {c : Cage} {q : Qsfp} (h : q.Carries c) (env : Environment σ) (s : σ) :
    let sfp := Sfp.ofCage c.adapted
    (∀ op, op.AddressesModule → ¬ op.NamesPage →
      ((q.perform op).value env s).1 = ((MediaControl.perform sfp op).value env s).1 ∧
        (q.perform op).trace env s = (MediaControl.perform sfp op).trace env s ∧
        (q.perform op).final env s = (MediaControl.perform sfp op).final env s) ∧
    (∀ ps, q.chain ps = sfp.chain ps) ∧
    ∀ op, op.NamesPage →
      ((q.perform op).trace env s).transactions =
        ((MediaControl.perform sfp op).trace env s).transactions →
      ((q.perform op).trace env s).transactions = [] := by
  obtain ⟨rfl, hq⟩ := h.adapter
  refine ⟨fun op hop hpage ↦ ?_, fun ps ↦ ?_, fun op hpage ↦ ?_⟩
  · rw [q.perform_eq_keeping hop, serve_eq hq hop hpage]
    refine ⟨?_, ?_, ?_⟩
    · exact (value_keeping ..).trans (value_keeping ..).symm
    · exact (trace_keeping ..).trans (trace_keeping ..).symm
    · exact (final_keeping ..).trans (final_keeping ..).symm
  · unfold chain
    rw [hq]
  · rw [q.perform_eq_keeping hpage.addressesModule, trace_keeping]
    change _ = ((keeping _ (Sfp.serve _ op)).trace env s).transactions → _
    rw [trace_keeping]
    exact serve_paged hq hpage

/-- A DWDM module in an adapter, and the cage that it is taken out of. -/
theorem Carries.transparent_dwdmSfp :
    let c : Cage := {
      instanceId := 0, name := "port0", family := .qsfp, portType := .qsfp, address := 0x50
      selector := ⟨none, none⟩, selectDelay := .zero, presence := ⟨⟨"control", 0⟩, 0⟩
      reset := none, resetDelay := .zero, lowPower := none, txControl := none, rxLoss := none
      txFault := none, portLed := none, defaultSpeedMbps := none, channelOffset := 0
      maxPowerMw := 3500 }
    let sfp := Sfp.ofCage c.adapted
    let b : Bench := ⟨(Segment.blank.addModule 0x50).poke 0x50 0 0 [0x0b], fun _ ↦ .ofLevel 1⟩
    let q := (((Qsfp.ofCage c).perform (.moduleInit true)).value Bench.answer b).2
    let page2 : Operation := .readGeneric ⟨.auto, .select 2, 128⟩ 1
    ((q.perform .transceiverCode).value Bench.answer b).1 =
        ((MediaControl.perform sfp .transceiverCode).value Bench.answer b).1 ∧
      q.chain [] = sfp.chain [] ∧
      ((q.perform page2).trace Bench.answer Bench.blank).transactions = [] := by
  intro c sfp b q page2
  have h : q.Carries c := by
    dsimp only [q, b, c]
    exact .found Bench.answer _ rfl rfl rfl (.inr rfl)
  have hempty : ((q.perform page2).trace Bench.answer Bench.blank).transactions =
      ((MediaControl.perform sfp page2).trace Bench.answer Bench.blank).transactions := by
    dsimp only [q, b, c, sfp, page2]
    decide +kernel
  have hb := h.transparent Bench.answer b
  exact ⟨(hb.1 .transceiverCode trivial id).1, hb.2.1 [],
    (h.transparent Bench.answer Bench.blank).2.2 page2 ⟨nofun, by decide⟩ hempty⟩

/-- By its options the diagnostics of this module are paged, and by the status byte of a QSFP module
its memory is flat: another page is read than the one that is named. -/
theorem not_transparent_of_page :
    let d : Draft := { name := "port0", family := .qsfp, presence := some ⟨⟨"control", 0⟩, 0⟩ }
    let s := ((((Segment.blank.addModule 0x50).poke 0x50 0 0 [0x03, 0x04, 0x04]).poke 0x50 0
      SfpMap.options [0x10]).addModule 0x51).poke 0x51 2 128 [7]
    let page2 : Operation := .readGeneric ⟨.explicit 0x51, .select 2, 128⟩ 1
    ∃ c, d.build = .ok c ∧
      let init := (Qsfp.ofCage c).perform (.moduleInit true)
      let b : Bench := ⟨s, fun _ ↦ .ofLevel 1⟩
      let q := (init.value Bench.answer b).2
      let b := init.final Bench.answer b
      let sfp := Sfp.ofCage c.adapted
      q.Carries c ∧
        ((q.perform page2).value Bench.answer b).1.map Vector.toList = .ok [0] ∧
        ((MediaControl.perform sfp page2).value Bench.answer b).1.map Vector.toList = .ok [7] :=
  ⟨_, rfl, .found Bench.answer _ rfl rfl rfl (.inl rfl), rfl, rfl⟩

end Qsfp

end Transceiver
