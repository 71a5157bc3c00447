import Transceiver.Proofs.Coupling
import Transceiver.Proofs.Flags
import Transceiver.Proofs.Queries

/-!
# Flags that are asked for

A driver reads what it needs for the flags that it is asked for, reduces the levels of each quantity
and reports no other flags.  Main statement: what is reported is settled, and to ask for fewer flags
is to be told those of them that are reported when more are asked for.
-/

namespace Transceiver

variable {k : Subject}

/-! ## Queries -/

/-- A query for the flags of a subject. -/
inductive FlagQuery : Subject → Type where
  | moduleMonitors : FlagQuery .module
  | channelMonitors (channel : UInt8) : FlagQuery .channelMonitor
  | conditions (channel : UInt8) : FlagQuery .channel
deriving DecidableEq, Repr

namespace FlagQuery

/-- What is made of the operation that asks for some flags. -/
def ask (F : Type → Type) (make : (op : Operation) → F op.Answer) :
    {k : Subject} → FlagQuery k → Flags k → F (Flags k)
  | _, .moduleMonitors, flags => make (.moduleMonitorStatus flags)
  | _, .channelMonitors channel, flags => make (.channelMonitorStatus channel flags)
  | _, .conditions channel, flags => make (.channelStatus channel flags)

/-- What a driver does when it is asked for some flags. -/
def perform {δ : Type} [MediaControl δ] (q : FlagQuery k) (d : δ) (flags : Flags k) :
    Program (Except Error (Flags k) × δ) :=
  q.ask (fun α ↦ Program (Except Error α × δ)) (MediaControl.perform d) flags

/-- The procedure of a driver for some flags. -/
def procedure (q : FlagQuery k) (v : Driver) (flags : Flags k) : Procedure (Flags k) :=
  match v with
  | .sfp d => q.ask Procedure d.serve flags
  | .qsfp d => q.ask Procedure d.serve flags
  | .subPort d => q.ask Procedure d.serve flags

/-- A driver answers with what its procedure returns. -/
theorem value_perform {σ : Type} (q : FlagQuery k) (v : Driver) (flags : Flags k)
    (env : Environment σ) (s : σ) :
    ((q.perform v flags).value env s).1 = (q.procedure v flags).run.value env s := by
  have hdriver {δ : Type} {p : Program (Except Error (Flags k) × δ)} {f : δ → Driver} :
      ((p.bind fun x ↦ .done (x.1, f x.2)).value env s).1 = (p.value env s).1 := by
    rw [Program.value_bind]
    rfl
  cases v <;> cases q <;> exact hdriver.trans (value_keeping ..)

/-- A port asks its cage, about the channel that is the offset further on, or refuses. -/
theorem ask_serve (q : FlagQuery k) (p : SubPort) :
    (∃ q' : FlagQuery k, ∀ flags,
      q.ask Procedure p.serve flags = q'.ask Procedure p.inner.serve flags) ∨
      ∃ e, ∀ flags, q.ask Procedure p.serve flags = throw e := by
  -- the same for both queries about a channel, which `make` makes for a channel
  have hchannel (c : UInt8) (make : UInt8 → FlagQuery k)
      (h : ∀ flags, q.ask Procedure p.serve flags =
        liftM (p.channel c) >>= fun c' ↦ (make c').ask Procedure p.inner.serve flags) :
      (∃ q' : FlagQuery k, ∀ flags,
        q.ask Procedure p.serve flags = q'.ask Procedure p.inner.serve flags) ∨
      ∃ e, ∀ flags, q.ask Procedure p.serve flags = throw e := by
    cases hc : p.channel c with
    | ok c' => exact .inl ⟨make c', fun flags ↦ by rw [h, hc]; rfl⟩
    | error e => exact .inr ⟨e, fun flags ↦ by rw [h, hc]; rfl⟩
  cases q with
  | moduleMonitors => exact .inl ⟨.moduleMonitors, fun _ ↦ rfl⟩
  | channelMonitors c => exact hchannel c .channelMonitors fun _ ↦ rfl
  | conditions c => exact hchannel c .conditions fun _ ↦ rfl

end FlagQuery

/-! ## What is reported -/

/-- What is reported for the flags in `F`, and for fewer of them, in `G`. -/
structure Flags.Filtered (F G : Flags k) (s s' : Flags k) : Prop where
  subset : F.contains s = true
  settled : ∀ quad ∈ k.quads, quad.Settled s
  filtered : s' = s &&& G

/-- Some of the flags in `M`, found when more flags are asked for than those in `G` and when just
those are. -/
structure Flags.Found (M G : Flags k) (s s' : Flags k) : Prop where
  subset : ∀ i ∈ s, i ∈ M
  settled : ∀ quad ∈ k.quads, quad.Settled s
  agree : ∀ i ∈ G, i ∈ s ↔ i ∈ s'

namespace Flags

variable {F G M M' s s' t t' : Flags k} {quad : FlagQuad k} {l l' : Levels}

theorem settled_empty (hquad : quad ∈ k.quads) : quad.Settled (.empty : Flags k) := by
  have hall : ∀ quad ∈ k.quads, quad.Settled (.empty : Flags k) := by cases k <;> decide
  exact hall quad hquad

/-- Of each quantity that is asked for the levels are the same. -/
theorem Found.reduce (hquad : quad ∈ k.quads)
    (halarms : G.intersects quad.alarms = true →
      l.highAlarm = l'.highAlarm ∧ l.lowAlarm = l'.lowAlarm)
    (hwarnings : G.intersects quad.warnings = true →
      l.highWarning = l'.highWarning ∧ l.lowWarning = l'.lowWarning) :
    Found quad.all G (l.reduce quad) (l'.reduce quad) where
  subset _ := Levels.mem_all_of_mem_reduce
  settled _ hquad' := l.settled_reduce hquad hquad'
  agree _ := Levels.mem_reduce_congr halarms hwarnings

/-- A quantity that is not asked for is not looked at. -/
theorem Found.unasked (hquad : quad ∈ k.quads) (h : G.intersects quad.all = false) (l : Levels) :
    Found quad.all G (l.reduce quad) .empty where
  subset _ := Levels.mem_all_of_mem_reduce
  settled _ hquad' := l.settled_reduce hquad hquad'
  agree i hi :=
    ⟨fun hs ↦ absurd (Levels.mem_all_of_mem_reduce hs) (intersects_eq_false.mp h i hi),
      fun hs ↦ absurd hs not_mem_empty⟩

theorem Found.none : Found M G .empty .empty where
  subset _ h := absurd h not_mem_empty
  settled _ := settled_empty
  agree _ _ := .rfl

/-- Flags of different quantities are settled together. -/
theorem Found.or (h : Found M G s s') (h' : Found M' G t t')
    (hM : ∀ quad ∈ k.quads, M.intersects quad.all = false ∨ M'.intersects quad.all = false) :
    Found (M ||| M') G (s ||| t) (s' ||| t') where
  subset i hi := mem_or.mpr ((mem_or.mp hi).imp (h.subset i) (h'.subset i))
  settled quad hquad := by
    rcases hM quad hquad with hapart | hapart
    · refine (h'.settled quad hquad).of_subset fun i hi hst ↦ ?_
      exact (mem_or.mp hst).resolve_left fun hs ↦
        intersects_eq_false.mp hapart i (h.subset i hs) hi
    · refine (h.settled quad hquad).of_subset fun i hi hst ↦ ?_
      exact (mem_or.mp hst).resolve_right fun ht ↦
        intersects_eq_false.mp hapart i (h'.subset i ht) hi
  agree i hi := by rw [mem_or, mem_or, h.agree i hi, h'.agree i hi]

/-- What is found is reported as far as it is asked for. -/
theorem Found.report (hG : F.contains G = true) (h : Found M G s s') :
    Filtered F G (s &&& F) (s' &&& G) where
  subset := contains_iff.mpr fun i hi ↦ (mem_and.mp hi).2
  settled quad hquad := (h.settled quad hquad).of_subset fun i _ hi ↦ (mem_and.mp hi).1
  filtered := eq_of_mem_iff fun i ↦ by
    have hGF := contains_iff.mp hG i
    have hagree := h.agree i
    rw [mem_and, mem_and, mem_and]
    grind

/-- Conditions of a channel are reported side by side. -/
theorem Filtered.or {F G s s' t t' : ChannelStatus} (h : Filtered F G s s')
    (h' : Filtered F G t t') : Filtered F G (s ||| t) (s' ||| t') where
  subset := contains_iff.mpr fun i hi ↦
    (mem_or.mp hi).elim (contains_iff.mp h.subset i) (contains_iff.mp h'.subset i)
  settled := nofun
  filtered := eq_of_mem_iff fun i ↦ by
    rw [h.filtered, h'.filtered]
    grind [mem_or, mem_and]

end Flags

/-! ## Looking less -/

/-- All lines, and all bytes but the last one of each device. -/
def Scope.still : Scope where
  selector := ⟨none, none⟩
  -- what is looked at so is looked at outside of sessions, so that any line will do
  presence := ⟨⟨"", 0⟩, 0⟩
  line _ := True
  bytes _ offset length := offset.toNat + length ≤ 255

theorem Scope.reads_still : still.Reads := fun _ _ _ h ↦ h

/-- To look at what stays as it is changes nothing. -/
theorem Procedure.Looks.final_eq {α : Type} {p : Procedure α} (h : p.Looks Scope.still)
    (b : Bench) : p.run.final Bench.answer b = b := by
  have hfits : Scope.still.Fits b.segment := ⟨fun _ _ _ hbytes _ _ ↦ .inr hbytes, nofun, nofun⟩
  exact (h.unmoved hfits b (.refl b)).1

namespace Procedure.Couples

variable {E : Prop} {α β : Type} {p : Procedure α} {R : α → β → Prop}

/-- From the same bench a procedure runs in the same way. -/
theorem self {R : α → α → Prop} (h : p.Yields fun x ↦ R x x) : Couples Eq E R p p where
  ok := by
    rintro b _ b₁ x rfl hx
    exact ⟨x, b₁, hx, h _ _ _ x hx.value, rfl⟩
  error _ hb he := ⟨_, hb ▸ he⟩

/-- Where nothing is looked at, what would be seen does not matter. -/
theorem unseen {b : β} (hE : ¬ E) (h : p.Looks Scope.still) (hR : p.Yields fun x ↦ R x b) :
    Couples Eq E R p (Pure.pure b) where
  ok := by
    rintro b₀ _ b₁ x rfl hx
    cases (h.final_eq b₀).symm.trans hx.final
    exact ⟨b, b₀, .pure _ _, hR _ _ _ x hx.value, rfl⟩
  error h := absurd h hE

theorem ite {S : Bench → Bench → Prop} {c : Prop} [Decidable c] {q q' : Procedure β}
    {p' : Procedure α} (h : Couples S E R p q) (h' : Couples S E R p' q') :
    Couples S E R (if c then p else p') (if c then q else q') := by
  split
  · exact h
  · exact h'

/-- What is refused for fewer flags is refused for more. -/
theorem refuse {S : Bench → Bench → Prop} {c c' : Prop} [Decidable c] [Decidable c'] {e : Error}
    {q : Procedure β} (hE : ¬ E) (hc : c' → c) (h : Couples S E R p q) :
    Couples S E R (if c then (do MonadExcept.throw e; p) else p)
      (if c' then (do MonadExcept.throw e; q) else q) := by
  split
  · exact .of_throw hE e
  · rename_i hnot
    rw [if_neg fun h ↦ hnot (hc h)]
    exact h

end Procedure.Couples

/-! ## SFP cages -/

namespace Sfp

open Procedure

/-- A byte is the same if its flags are asked for. -/
theorem flagByte_couples {F G : Flags k} (hG : F.contains G = true) (m : Selected)
    {offset : UInt8} (h : offset.toNat + 1 ≤ 255) (wanted : Flags k) :
    Couples Eq False (fun x y ↦ G.intersects wanted = true → x = y)
      (flagByte m F wanted offset) (flagByte m G wanted offset) := by
  by_cases hwanted : G.intersects wanted = true
  · unfold flagByte
    rw [if_pos hwanted, if_pos (Flags.intersects_of_contains hG hwanted)]
    exact .self fun _ _ _ _ _ _ ↦ rfl
  · have hunseen : flagByte m G wanted offset = pure 0 := if_neg hwanted
    rw [hunseen]
    exact .unseen id (flagByte_looks Scope.reads_still m F wanted h) fun _ _ _ _ _ h ↦
      absurd h hwanted

/-- The levels of a quantity in two bytes, each of which is read if its flags are asked for. -/
theorem ofBytes_found {G : Flags k} (quad : FlagQuad k) (hquad : quad ∈ k.quads)
    {alarms warnings : Flags k} (halarms : alarms.contains quad.alarms = true)
    (hwarnings : warnings.contains quad.warnings = true) {a a' w w' : UInt8}
    (ha : G.intersects alarms = true → a = a') (hw : G.intersects warnings = true → w = w')
    (high low : Bit) :
    Flags.Found quad.all G ((Levels.ofBytes a w high low).reduce quad)
      ((Levels.ofBytes a' w' high low).reduce quad) := by
  refine .reduce hquad (fun h ↦ ?_) fun h ↦ ?_
  · rw [ha (Flags.intersects_mono halarms h)]
    exact ⟨rfl, rfl⟩
  · rw [hw (Flags.intersects_mono hwarnings h)]
    exact ⟨rfl, rfl⟩

theorem requireAlarms_couples (m : Selected) :
    Couples Eq False (fun _ _ ↦ True) (requireAlarms m) (requireAlarms m) :=
  .self fun _ _ _ _ _ ↦ trivial

variable (s : Sfp)

theorem moduleMonitorStatus_couples {F G : ModuleStatus} (hG : F.contains G = true) :
    Couples Eq False (Flags.Filtered F G) (s.moduleMonitorStatus F) (s.moduleMonitorStatus G) := by
  unfold moduleMonitorStatus session
  refine .session s.eeprom <| .bind (requireAlarms_couples _) fun _ _ _ ↦
    .bind (flagByte_couples hG _ (by decide) _) fun _ _ ha ↦
    .bind (flagByte_couples hG _ (by decide) _) fun _ _ hw ↦ ?_
  have htemperature := ofBytes_found (G := G) ModuleStatus.temperature (.head _)
    rfl rfl ha hw .b7 .b6
  have hvoltage := ofBytes_found (G := G) ModuleStatus.voltage (.tail _ (.head _))
    rfl rfl ha hw .b5 .b4
  exact .pure ((htemperature.or hvoltage (by decide)).report hG)

theorem channelMonitorStatus_couples (channel : UInt8) {F G : ChannelMonitorStatus}
    (hG : F.contains G = true) :
    Couples Eq False (Flags.Filtered F G) (s.channelMonitorStatus channel F)
      (s.channelMonitorStatus channel G) := by
  refine .bind (.self (R := fun _ _ ↦ True) fun _ _ _ _ _ ↦ trivial) fun _ _ _ ↦
    .session s.eeprom <| .bind (requireAlarms_couples _) fun _ _ _ ↦ ?_
  refine .bind (flagByte_couples hG _ (by decide) _) fun _ _ htxa ↦
    .bind (flagByte_couples hG _ (by decide) _) fun _ _ hrxa ↦
    .bind (flagByte_couples hG _ (by decide) _) fun _ _ htxw ↦
    .bind (flagByte_couples hG _ (by decide) _) fun _ _ hrxw ↦ ?_
  have hbias := ofBytes_found (G := G) ChannelMonitorStatus.txBias (.tail _ (.head _))
    rfl rfl htxa htxw .b3 .b2
  have htx := ofBytes_found (G := G) ChannelMonitorStatus.txPower
    (.tail _ (.tail _ (.head _))) rfl rfl htxa htxw .b1 .b0
  have hrx := ofBytes_found (G := G) ChannelMonitorStatus.rxPower (.head _)
    rfl rfl hrxa hrxw .b7 .b6
  exact .pure (((hbias.or htx (by decide)).or hrx (by decide)).report hG)

/-- A condition is looked at if it is asked for. -/
theorem flagIf_couples {F G flag : ChannelStatus} (hG : F.contains G = true)
    (hflag : flag ∈ [ChannelStatus.txDisable, ChannelStatus.txFault, ChannelStatus.txLoss,
      ChannelStatus.rxLoss]) {holds : Procedure Bool}
    (h : (flagIf F flag holds).Looks Scope.still) :
    Couples Eq False (Flags.Filtered F G) (flagIf F flag holds) (flagIf G flag holds) := by
  have hyields : (flagIf F flag holds).Yields fun x ↦
      x = flag ∧ F.contains flag = true ∨ x = .empty := by
    unfold flagIf
    split
    · rename_i hF
      refine .bind fun on ↦ ?_
      split
      · exact .pure (.inl ⟨rfl, hF⟩)
      · exact .pure (.inr rfl)
    · exact .pure (.inr rfl)
  have hsubset {x : ChannelStatus} (hx : x = flag ∧ F.contains flag = true ∨ x = .empty) :
      F.contains x = true := by
    rcases hx with ⟨rfl, hF⟩ | rfl
    · exact hF
    · exact Flags.contains_iff.mpr fun i hi ↦ absurd hi Flags.not_mem_empty
  -- asked for by both it is one procedure, and asked for by the first alone it is not reported
  by_cases hasked : G.contains flag = true
  · have hboth : flagIf G flag holds = flagIf F flag holds := by
      unfold flagIf
      rw [if_pos hasked, if_pos (Flags.contains_trans hG hasked)]
    rw [hboth]
    refine .self fun σ env b x hx ↦ ⟨hsubset (hyields σ env b x hx), nofun, ?_⟩
    refine Flags.eq_of_mem_iff fun i ↦ ?_
    rcases hyields σ env b x hx with ⟨rfl, -⟩ | rfl
    · have hi := Flags.contains_iff.mp hasked i
      grind [Flags.mem_and]
    · simp
  · have hunseen : flagIf G flag holds = pure .empty := if_neg hasked
    rw [hunseen]
    refine .unseen id h fun σ env b x hx ↦ ⟨hsubset (hyields σ env b x hx), nofun, ?_⟩
    have hapart := Flags.intersects_eq_false.mp
      (ChannelStatus.intersects_eq_false hflag (Bool.eq_false_iff.mpr hasked))
    refine Flags.eq_of_mem_iff fun i ↦ ?_
    rcases hyields σ env b x hx with ⟨rfl, -⟩ | rfl
    · have hi := hapart i
      grind [Flags.mem_and, Flags.not_mem_empty]
    · simp

theorem channelStatus_couples (channel : UInt8) {F G : ChannelStatus} (hG : F.contains G = true) :
    Couples Eq False (Flags.Filtered F G) (s.channelStatus channel F)
      (s.channelStatus channel G) := by
  have hcondition (flag : ChannelStatus) (hflag : flag ∈ [ChannelStatus.txDisable,
      ChannelStatus.txFault, ChannelStatus.txLoss, ChannelStatus.rxLoss]) (line : Option Line)
      (soft : SoftStatus) (supportBit stateBit : Bit) :=
    flagIf_couples hG hflag (flagIf_looks F flag (fun _ _ ↦ trivial) soft supportBit stateBit :
      (flagIf F flag (condition line soft supportBit stateBit)).Looks Scope.still)
  have hdisable := hcondition .txDisable (by simp)
  have hfault := hcondition .txFault (by simp)
  have hloss := hcondition .rxLoss (by simp)
  refine .bind (.self (R := fun _ _ ↦ True) fun _ _ _ _ _ ↦ trivial) fun _ _ _ ↦
    .refuse id (Flags.contains_trans hG) ?_
  have hconditions (soft : SoftStatus) := Couples.bind (hdisable s.cage.txControl soft
      SfpMap.softTxDisableBit SfpMap.txDisableStateBit) fun _ _ hd ↦
    .bind (hfault s.cage.txFault soft SfpMap.softTxFaultBit SfpMap.txFaultStateBit) fun _ _ hf ↦
    .bind (hloss s.cage.rxLoss soft SfpMap.softRxLossBit SfpMap.rxLossStateBit) fun _ _ hl ↦
    .pure ((hd.or hf).or hl)
  exact .ite (.bind_same (.self fun _ _ _ _ _ ↦ rfl) hconditions)
    (.bind_same (.self fun _ _ _ _ _ ↦ rfl) hconditions)

theorem ask_couples (q : FlagQuery k) {F G : Flags k} (hG : F.contains G = true) :
    Couples Eq False (Flags.Filtered F G) (q.ask Procedure s.serve F)
      (q.ask Procedure s.serve G) := by
  cases q with
  | moduleMonitors => exact s.moduleMonitorStatus_couples hG
  | channelMonitors channel => exact s.channelMonitorStatus_couples channel hG
  | conditions channel => exact s.channelStatus_couples channel hG

end Sfp

/-! ## QSFP cages -/

namespace Qsfp

open Procedure

/-- The levels of a quantity are read if some of its flags are asked for. -/
theorem levels_couples {α : Type} {F G : Flags k} (hG : F.contains G = true) (quad : FlagQuad k)
    (hquad : quad ∈ k.quads) {read : Procedure α} (hread : read.Looks Scope.still)
    (levels : α → Levels) :
    Couples Eq False (Flags.Found quad.all G)
      (if F.intersects quad.all then do return (levels (← read)).reduce quad else return .empty)
      (if G.intersects quad.all then do return (levels (← read)).reduce quad
        else return .empty) := by
  by_cases hasked : G.intersects quad.all = true
  · rw [if_pos hasked, if_pos (Flags.intersects_of_contains hG hasked)]
    exact .bind_same (.self fun _ _ _ _ _ ↦ rfl) fun _ ↦
      .pure (.reduce hquad (fun _ ↦ ⟨rfl, rfl⟩) fun _ ↦ ⟨rfl, rfl⟩)
  · rw [if_neg hasked]
    by_cases hmore : F.intersects quad.all = true
    · rw [if_pos hmore]
      refine .unseen id (.bind hread fun _ ↦ .pure _) (.bind fun x ↦ .pure ?_)
      exact .unasked hquad (Bool.eq_false_iff.mpr hasked) _
    · rw [if_neg hmore]
      exact .pure .none

variable (q : Qsfp)

theorem moduleMonitorStatus_couples {F G : ModuleStatus} (hG : F.contains G = true) :
    Couples Eq False (Flags.Filtered F G) (q.moduleMonitorStatus F) (q.moduleMonitorStatus G) := by
  have hflags := q.layout_inMemory.flags
  have hread {offset : UInt8} (h : offset.toNat + 1 ≤ 255) :
      (q.eeprom.selected.lowerByte offset).Looks Scope.still :=
    Selected.lowerByte_looks Scope.reads_still _ h
  unfold moduleMonitorStatus session
  refine .session q.eeprom ?_
  dsimp only
  refine .bind (levels_couples hG ModuleStatus.temperature (.head _)
    (hread hflags.1) _) fun _ _ ht ↦ ?_
  refine .bind (levels_couples hG ModuleStatus.voltage (.tail _ (.head _))
    (hread hflags.2) _) fun _ _ hv ↦ ?_
  exact .pure ((ht.or hv (by decide)).report hG)

theorem channelMonitorStatus_couples (channel : UInt8) {F G : ChannelMonitorStatus}
    (hG : F.contains G = true) :
    Couples Eq False (Flags.Filtered F G) (q.channelMonitorStatus channel F)
      (q.channelMonitorStatus channel G) := by
  unfold channelMonitorStatus session
  refine .bind_same (.self fun _ _ _ _ _ ↦ rfl) fun lane ↦ .session q.eeprom ?_
  have hread (rxPower : Bool) :
      (laneLevels q.eeprom.selected q.layout.channelFlags rxPower lane).Looks Scope.still :=
    laneLevels_looks Scope.reads_still _ q.layout_inMemory rxPower lane
  dsimp only
  refine .bind (levels_couples hG ChannelMonitorStatus.rxPower (.head _)
    (hread true) _) fun _ _ hr ↦ ?_
  refine .bind (levels_couples hG ChannelMonitorStatus.txBias (.tail _ (.head _))
    (hread false) _) fun _ _ hb ↦ ?_
  exact .pure ((hr.or hb (by decide)).report hG)

theorem channelStatus_couples (channel : UInt8) {F G : ChannelStatus} (hG : F.contains G = true) :
    Couples Eq False (Flags.Filtered F G) (q.channelStatus channel F)
      (q.channelStatus channel G) := by
  unfold channelStatus session
  refine .bind_same (.self fun _ _ _ _ _ ↦ rfl) fun lane ↦ .session q.eeprom ?_
  have hcondition (flag : ChannelStatus) (hflag : flag ∈ [ChannelStatus.txDisable,
      ChannelStatus.txFault, ChannelStatus.txLoss, ChannelStatus.rxLoss]) (bit : ChannelBit)
      (hbit : bit ∈ [q.layout.txLoss, q.layout.rxLoss, q.layout.txFault, q.layout.txDisable,
        q.layout.cdrTx, q.layout.cdrRx]) :
      Couples Eq False (Flags.Filtered F G)
        (Sfp.flagIf F flag (laneBit q.eeprom.selected bit lane))
        (Sfp.flagIf G flag (laneBit q.eeprom.selected bit lane)) := by
    have hlook := laneBit_looks Scope.reads_still q.eeprom.selected
      (q.layout_inMemory.bits bit hbit) lane
    exact Sfp.flagIf_couples hG hflag
      (.ite (.bind hlook fun _ ↦ .ite (.pure _) (.pure _)) (.pure _))
  have hdisable := hcondition .txDisable (by simp) q.layout.txDisable (by simp)
  have hfault := hcondition .txFault (by simp) q.layout.txFault (by simp)
  have htxLoss := hcondition .txLoss (by simp) q.layout.txLoss (by simp)
  have hrxLoss := hcondition .rxLoss (by simp) q.layout.rxLoss (by simp)
  exact .bind hdisable fun _ _ hd ↦ .bind hfault fun _ _ hf ↦ .bind htxLoss fun _ _ ht ↦
    .bind hrxLoss fun _ _ hr ↦ .pure (((hd.or hf).or ht).or hr)

/-- A cage asks the module in an adapter, if there is one. -/
theorem ask_serve (query : FlagQuery k) (flags : Flags k) :
    query.ask Procedure q.serve flags =
      match q.adapter? with
      | some s => query.ask Procedure s.serve flags
      | none => query.ask Procedure q.serveCage flags := by
  cases h : q.adapter? <;> cases query <;> simp only [FlagQuery.ask, serve, h, Operation.route]

theorem ask_couples (query : FlagQuery k) {F G : Flags k} (hG : F.contains G = true) :
    Couples Eq False (Flags.Filtered F G) (query.ask Procedure q.serve F)
      (query.ask Procedure q.serve G) := by
  rw [q.ask_serve, q.ask_serve]
  cases q.adapter? with
  | some s => exact s.ask_couples query hG
  | none =>
    cases query with
    | moduleMonitors => exact q.moduleMonitorStatus_couples hG
    | channelMonitors channel => exact q.channelMonitorStatus_couples channel hG
    | conditions channel => exact q.channelStatus_couples channel hG

end Qsfp

/-! ## Drivers -/

namespace FlagQuery

/-- Whatever the driver, fewer flags are reported as when more are asked for. -/
theorem procedure_couples (q : FlagQuery k) (v : Driver) {F G : Flags k}
    (hG : F.contains G = true) :
    Procedure.Couples Eq False (Flags.Filtered F G) (q.procedure v F) (q.procedure v G) := by
  cases v with
  | sfp d => exact d.ask_couples q hG
  | qsfp d => exact d.ask_couples q hG
  | subPort p =>
    change Procedure.Couples Eq False _ (q.ask Procedure p.serve F) (q.ask Procedure p.serve G)
    obtain ⟨q', hq'⟩ | ⟨e, he⟩ := q.ask_serve p
    · rw [hq', hq']
      exact p.inner.ask_couples q' hG
    · rw [he, he]
      exact .throw e

end FlagQuery

/-- What a driver reports of the flags that it is asked for is settled, and if it is asked for fewer
of them on the same bench it reports those of the reported ones that it is asked for. -/
theorem Driver.reported_flags (v : Driver) (q : FlagQuery k) (b : Bench) {F G s : Flags k}
    (hG : F.contains G = true) (hs : ((q.perform v F).value Bench.answer b).1 = .ok s) :
    F.contains s = true ∧ (∀ quad ∈ k.quads, quad.Settled s) ∧
      ((q.perform v G).value Bench.answer b).1 = .ok (s &&& G) := by
  rw [q.value_perform] at hs
  obtain ⟨s', b', hs', hfiltered, -⟩ := (q.procedure_couples v hG).ok (b := b) rfl ⟨hs, rfl⟩
  refine ⟨hfiltered.subset, hfiltered.settled, ?_⟩
  rw [q.value_perform, hs'.value, hfiltered.filtered]

/-- A module that reports both temperature alarms: the low one is not reported, also where it is
asked for without the high one. -/
theorem Driver.reported_flags_low_alarm :
    let c : Cage := {
      instanceId := 0, name := "port0", family := .qsfp, portType := .qsfp, address := 0x50
      selector := ⟨none, none⟩, selectDelay := .zero, presence := ⟨⟨"control", 0⟩, 0⟩
      reset := none, resetDelay := .zero, lowPower := none, txControl := none, rxLoss := none
      txFault := none, portLed := none, defaultSpeedMbps := none, channelOffset := 0
      maxPowerMw := 3500 }
    let v : Driver := .qsfp (.ofCage c)
    let b : Bench :=
      ⟨(Segment.blank.addModule 0x50).poke 0x50 0 6 [0xd0], fun _ ↦ .ofLevel 1⟩
    let quad := ModuleStatus.temperature
    ((FlagQuery.moduleMonitors.perform v quad.all).value Bench.answer b).1 =
        .ok (quad.highAlarm ||| quad.lowWarning) ∧
      ((FlagQuery.moduleMonitors.perform v (quad.lowAlarm ||| quad.lowWarning)).value
        Bench.answer b).1 = .ok quad.lowWarning := by
  intro c v b quad
  have hreported : quad.highAlarm ||| quad.lowWarning = ⟨9⟩ := by decide
  have hless : (quad.highAlarm ||| quad.lowWarning) &&& (quad.lowAlarm ||| quad.lowWarning) =
      quad.lowWarning := by decide
  have hall : ((FlagQuery.moduleMonitors.perform v quad.all).value Bench.answer b).1 =
      .ok (quad.highAlarm ||| quad.lowWarning) := by
    rw [hreported]
    dsimp only [v, b, c, quad]
    rfl
  obtain ⟨-, -, hlow⟩ := v.reported_flags .moduleMonitors b
    (by decide : quad.all.contains (quad.lowAlarm ||| quad.lowWarning) = true) hall
  rw [hless] at hlow
  exact ⟨hall, hlow⟩

end Transceiver
