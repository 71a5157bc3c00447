import Transceiver.Proofs.AdapterProbe
import Transceiver.Proofs.LaneLocality
import Transceiver.Proofs.RegisterUpdates

/-!
# Lists of speeds

A port is told the speeds that it may run at as a list, and each of them is tried in turn.  Main
statement: every speed of the list is tried whatever becomes of the others, what is returned is what
became of the last, and for an SFP module the PHY is left as by the last speed alone that it has.
-/

namespace Transceiver

/-! ## Registers that are replaced again -/

namespace RegisterBank

variable (bank : RegisterBank) {r r' : UInt8} (f g : UInt16 → UInt16)

theorem update_update : (bank.update r f).update r g = bank.update r fun w ↦ g (f w) := by
  funext i
  by_cases hi : i = r <;> simp [update, set, word, hi]

theorem update_comm (h : r ≠ r') :
    (bank.update r f).update r' g = (bank.update r' g).update r f := by
  funext i
  by_cases hi : i = r'
  · simp [update, set, word, hi, h.symm]
  · by_cases hi' : i = r <;> simp [update, set, word, hi, hi', h]

end RegisterBank

/-- Bits of a mask that are replaced twice are those that they are replaced with last. -/
theorem replace_replace {m x : UInt16} (hx : ∀ i, wordBit x i = true → wordBit m i = true)
    (y w : UInt16) : (w &&& ~~~ m ||| x) &&& ~~~ m ||| y = w &&& ~~~ m ||| y := by
  refine eq_of_wordBit fun i ↦ ?_
  rw [wordBit_or, wordBit_and, wordBit_replace (hx i), wordBit_or, wordBit_and, wordBit_not]
  cases wordBit m i <;> simp

/-! ## The PHY -/

namespace CopperPhy

/-- The speeds that the PHY has. -/
def supported : List Speed := [.m10, .m100, .g1]

/-- The bank once a speed was tried. -/
def tried (bank : RegisterBank) (speed : Speed) : RegisterBank :=
  (advertisement? speed).elim bank fun x ↦ withAdvertisement bank x.1 x.2

variable {bank : RegisterBank} {speed : Speed}

theorem tried_of_not_mem (h : speed ∉ supported) : tried bank speed = bank := by
  unfold tried
  rw [advertisement?_of_not_mem h, Option.elim_none]

theorem withAdvertisement_withAdvertisement {base gigabit : UInt16}
    (h : advertisement? speed = some (base, gigabit)) (base' gigabit' : UInt16) :
    withAdvertisement (withAdvertisement bank base gigabit) base' gigabit' =
      withAdvertisement bank base' gigabit' := by
  have hne : gigabitControl ≠ advertise := by decide
  have hbase (i : Fin 16) := (wordBit_advertisement h i).1
  have hgigabit (i : Fin 16) := (wordBit_advertisement h i).2
  unfold withAdvertisement
  rw [RegisterBank.update_comm _ _ _ hne, RegisterBank.update_update, RegisterBank.update_update]
  simp only [replace_replace hbase, replace_replace hgigabit]

/-- A speed that the PHY has leaves nothing of the one before it. -/
theorem tried_tried {speed' : Speed} (h : speed' ∈ supported) :
    tried (tried bank speed) speed' = tried bank speed' := by
  obtain ⟨base', gigabit', hadvertised'⟩ := advertisement?_of_mem h
  unfold tried
  rw [hadvertised']
  cases hadvertised : advertisement? speed with
  | none => rfl
  | some x => exact withAdvertisement_withAdvertisement hadvertised base' gigabit'

/-- The last of some speeds that the PHY has. -/
def last? (speeds : List Speed) : Option Speed := (speeds.filter (· ∈ supported)).getLast?

/-- Of all speeds that were tried the last one that the PHY has is left. -/
theorem foldl_tried (speeds : List Speed) (bank : RegisterBank) :
    speeds.foldl tried bank = (last? speeds).elim bank (tried bank) := by
  induction speeds generalizing bank with
  | nil => rfl
  | cons speed speeds ih =>
    rw [List.foldl_cons, ih]
    unfold last?
    by_cases h : speed ∈ supported
    · rw [List.filter_cons_of_pos (by simpa using h), List.getLast?_cons]
      cases hlast : (speeds.filter (· ∈ supported)).getLast? with
      | none => rfl
      | some speed' =>
        have hmem := List.mem_of_getLast? hlast
        exact tried_tried (by simpa using (List.mem_filter.mp hmem).2)
    · rw [List.filter_cons_of_neg (by simpa using h), tried_of_not_mem h]

theorem setSpeed_tries (bank : RegisterBank) (h : speed ∈ supported) :
    Leads bank (setSpeed speed) () (tried bank speed) := by
  obtain ⟨base, gigabit, hadvertised⟩ := advertisement?_of_mem h
  unfold tried
  rw [hadvertised]
  exact setSpeed_leads bank hadvertised

/-- To try a speed on a PHY that answers changes its bank and nothing else. -/
theorem final_setSpeed {b : Bench} (h : Answers b bank) (speed : Speed) :
    (setSpeed speed).run.final Bench.answer b = b.withBank device (tried bank speed) := by
  by_cases hmem : speed ∈ supported
  · exact (setSpeed_tries bank hmem b h).final
  · rw [tried_of_not_mem hmem, Bench.withBank_self h.bank,
      run_setSpeed_of_none (advertisement?_of_not_mem hmem)]
    rfl

end CopperPhy

/-! ## Calls in turn -/

namespace Resource

variable {δ : Type} [MediaControl δ]

/-- The outcome of a call. -/
def outcome (r : Resource δ) (op : Operation) : Program (Except Error op.Answer) :=
  Prod.fst <$> r.call op

theorem note_madeOf {part : Parts} [part.Includes Action.IsIdle] {α : Type} (operation : String)
    (r : Except Error α) : (note operation r).MadeOf part := by
  unfold note
  split
  · exact .done ()
  · split
    · exact report_madeOf _ _ _
    · split
      · exact report_madeOf _ _ _
      · exact report_madeOf _ _ _

variable (name : String) (d : δ) (channel : UInt8) (media : MediaType)

/-- A speed is tried by a call for it, and the others after that. -/
theorem applySpeeds_cons (last : Except Error Unit) (speed : Speed) (speeds : List Speed) :
    applySpeeds d channel media last (speed :: speeds) =
      outcome ⟨name, .media d⟩ (.phySpeedSet channel media speed) >>= fun r ↦
        applySpeeds d channel media r speeds := by
  simp only [applySpeeds, outcome, call, map_eq_pure_bind, bind_assoc, pure_bind]

/-- Speeds are tried by a call for each of them. -/
theorem applySpeeds_eq (last : Except Error Unit) (speeds : List Speed) :
    applySpeeds d channel media last speeds = (do
      let results ← speeds.mapM fun speed ↦
        outcome ⟨name, .media d⟩ (.phySpeedSet channel media speed)
      return results.getLast?.getD last) := by
  induction speeds generalizing last with
  | nil => rfl
  | cons speed speeds ih =>
    rw [applySpeeds_cons name, List.mapM_cons]
    simp only [ih, bind_assoc, pure_bind, List.getLast?_cons, Option.getD_some]

end Resource

/-! ## Presence -/

/-- From a bench on, the module of the cage is present as long as a program runs. -/
def Cage.PresentDuring {α : Type} (c : Cage) (p : Program α) (b : Bench) : Prop :=
  ∀ past future : Trace, p.trace Bench.answer b = past ++ future →
    c.presence.read.run.value Bench.answer (past.replay Bench.answer b) = .ok true

namespace Cage.PresentDuring

variable {α β : Type} {c : Cage} {b : Bench}

theorem start {p : Program α} (h : c.PresentDuring p b) :
    c.presence.read.run.value Bench.answer b = .ok true := h [] _ rfl

/-- What is present in a sequence is so in its second part. -/
theorem next {p : Program α} {f : α → Program β} (h : c.PresentDuring (p.bind f) b) :
    c.PresentDuring (f (p.value Bench.answer b)) (p.final Bench.answer b) := by
  intro past future hsplit
  have hpresent := h (p.trace Bench.answer b ++ past) future <| by
    rw [Program.trace_bind, hsplit, List.append_assoc]
  unfold Trace.replay at hpresent ⊢
  rw [List.foldl_append] at hpresent
  rw [← Program.replay_trace]
  exact hpresent

/-- A module that is there stays so where no level is set in the group of its presence line. -/
theorem of_spares {p : Program α} (hp : p.MadeOf (Single c.presence.Spares))
    (h : c.presence.read.run.value Bench.answer b = .ok true) : c.PresentDuring p b := by
  intro past future hsplit
  have hspares : ∀ e ∈ past, c.presence.Spares e.action := fun e he ↦
    hp.forall_trace Bench.answer b e (hsplit ▸ List.mem_append_left future he)
  have hpin := Trace.pin_replay hspares b
  rw [Line.value_read_eq_ok] at h ⊢
  unfold Line.Works at h ⊢
  rw [hpin]
  exact h

end Cage.PresentDuring

/-! ## SFP modules -/

namespace Sfp

variable {δ : Type} [MediaControl δ]

/-- The operations of a driver are those of an SFP cage. -/
def Drives (s : Sfp) (d : δ) : Prop := ∀ op, MediaControl.perform d op = keeping d (s.serve op)

theorem drives_self (s : Sfp) : s.Drives s := fun _ ↦ rfl

theorem drives_driver (s : Sfp) : s.Drives (Driver.sfp s) := fun op ↦
  keeping_bind s Driver.sfp (s.serve op)

/-- Nothing refuses to select the module of the cage, and its PHY answers with a bank. -/
structure Serves (s : Sfp) (b : Bench) (bank : RegisterBank) : Prop where
  groups : ∀ t ∈ s.cage.selector.targets, (b.pin t.group.id).Works
  phy : CopperPhy.Answers b bank

variable {s : Sfp} {d : δ} {b : Bench} {bank : RegisterBank} (hd : s.Drives d)

include hd in
/-- A call ends where the operation of the cage does. -/
theorem Drives.final_outcome (name : String) (op : Operation) (b : Bench) :
    (Resource.outcome ⟨name, .media d⟩ op).final Bench.answer b =
      (s.serve op).run.final Bench.answer b := by
  have hnote (r : Except Error op.Answer) (b : Bench) :
      (Resource.note op.name r).final Bench.answer b = b :=
    Program.MadeOf.final_idle (Resource.note_madeOf _ r) b
  have hcall : Resource.outcome ⟨name, .media d⟩ op =
      (keeping d (s.serve op)).bind fun x ↦ (Resource.note op.name x.1).bind fun _ ↦ .done x.1 := by
    unfold Resource.outcome Resource.call
    simp only [hd op, map_eq_pure_bind, bind_assoc, pure_bind]
    rfl
  rw [hcall, Program.final_bind, Program.final_bind, hnote, final_keeping]
  rfl

/-- A speed is tried on the PHY of a module that is present. -/
theorem Serves.setSpeed (h : s.Serves b bank)
    (hpresent : s.cage.presence.read.run.value Bench.answer b = .ok true)
    (channel : UInt8) (media : MediaType) (speed : Speed) :
    s.Serves ((s.serve (.phySpeedSet channel media speed)).run.final Bench.answer b)
      (CopperPhy.tried bank speed) := by
  have hopens : s.eeprom.Opens b := by
    refine ⟨fun l hl ↦ ?_, h.groups⟩
    obtain rfl : s.cage.presence = l := Option.some.inj hl
    exact hpresent
  have happlied : CopperPhy.Answers (s.cage.selector.applied b) bank := by
    have hsegment := s.cage.selector.segment_applied b
    exact ⟨hsegment ▸ h.phy.faultless, hsegment ▸ h.phy.bank⟩
  have hfinal := (hopens.sameRun fun _ ↦ CopperPhy.setSpeed speed).final.trans
    (CopperPhy.final_setSpeed happlied speed)
  change s.Serves ((s.eeprom.session fun _ ↦ CopperPhy.setSpeed speed).run.final _ b) _
  rw [hfinal]
  refine ⟨fun t ht ↦ ?_, happlied.withBank _⟩
  change (((s.cage.selector.applied b).pin t.group.id)).Works
  unfold Selector.applied
  rw [Bench.works_withTarget, Bench.works_withTarget]
  exact h.groups t ht

include hd in
/-- Trying speeds on a module that stays present tries them on its PHY. -/
theorem Drives.applySpeeds (channel : UInt8) (media : MediaType) (last : Except Error Unit)
    (speeds : List Speed) (h : s.Serves b bank)
    (hpresent : s.cage.PresentDuring (Resource.applySpeeds d channel media last speeds) b) :
    s.Serves ((Resource.applySpeeds d channel media last speeds).final Bench.answer b)
      (speeds.foldl CopperPhy.tried bank) := by
  induction speeds generalizing b bank last with
  | nil => exact h
  | cons speed speeds ih =>
    rw [Resource.applySpeeds_cons "", Program.bind_eq] at hpresent ⊢
    rw [Program.final_bind]
    refine ih _ ?_ hpresent.next
    rw [hd.final_outcome]
    exact h.setSpeed hpresent.start channel media speed

include hd in
theorem Drives.applySpeeds_spares {l : Line}
    (hapart : ∀ t ∈ s.cage.selector.targets, t.group.id ≠ l.group.id) (channel : UInt8)
    (media : MediaType) (last : Except Error Unit) (speeds : List Speed) :
    (Resource.applySpeeds d channel media last speeds).MadeOf (Single l.Spares) := by
  have hoff : (Single l.Spares).Includes Action.IsOffPins := l.includes_isOffPins
  have hhosts := s.eeprom.hosts_spares hapart
  induction speeds generalizing last with
  | nil => exact .done last
  | cons speed speeds ih =>
    have hserve : (s.serve (.phySpeedSet channel media speed)).MadeOf (Single l.Spares) :=
      s.session_madeOf (CopperPhy.setSpeed_madeOf speed)
    unfold Resource.applySpeeds
    rw [hd, Program.bind_eq]
    exact .bind (keeping_madeOf d hserve) fun x ↦ .bind (Resource.note_madeOf _ x.1) fun _ ↦ ih x.1

include hd in
/-- A module whose presence line is on none of the groups that select it stays present while speeds
are tried. -/
theorem Drives.presentDuring
    (hapart : ∀ t ∈ s.cage.selector.targets, t.group.id ≠ s.cage.presence.group.id)
    (hpresent : s.cage.presence.read.run.value Bench.answer b = .ok true) (name : String)
    (channel : UInt8) (media : MediaType) (speeds : List Speed) :
    s.cage.PresentDuring
      ((⟨name, .media d⟩ : Resource δ).setPhySpeeds channel media speeds) b :=
  .of_spares (hd.applySpeeds_spares hapart channel media (.ok ()) speeds) hpresent

include hd in
/-- With an SFP module every speed of a list is tried, in order and as by a call for it alone,
whatever becomes of it, and what is returned is what became of the last one.  If nothing refuses and
the module stays present, the bank of the PHY is in the end as the last speed that the PHY has would
leave it if it were the only one. -/
theorem Drives.setPhySpeeds_last (name : String) (channel : UInt8) (media : MediaType)
    (speeds : List Speed) :
    let r : Resource δ := ⟨name, .media d⟩
    let p := r.setPhySpeeds channel media speeds
    p = (do
      let results ← speeds.mapM fun speed ↦ Prod.fst <$> r.call (.phySpeedSet channel media speed)
      return results.getLast?.getD (.ok ())) ∧
    ∀ b bank, s.Serves b bank → s.cage.PresentDuring p b →
      ∃ bank', CopperPhy.Answers (p.final Bench.answer b) bank' ∧
        (CopperPhy.last? speeds = none → bank' = bank) ∧
        ∀ speed, CopperPhy.last? speeds = some speed →
          CopperPhy.Leads bank (CopperPhy.setSpeed speed) () bank' := by
  intro r p
  refine ⟨Resource.applySpeeds_eq name d channel media (.ok ()) speeds, ?_⟩
  intro b bank hserves hpresent
  have hphy := (hd.applySpeeds channel media (.ok ()) speeds hserves hpresent).phy
  rw [CopperPhy.foldl_tried] at hphy
  refine ⟨_, hphy, fun hnone ↦ by rw [hnone, Option.elim_none], fun speed hspeed ↦ ?_⟩
  have hmem : speed ∈ CopperPhy.supported := by
    simpa using (List.mem_filter.mp (List.mem_of_getLast? hspeed)).2
  rw [hspeed]
  exact CopperPhy.setSpeed_tries bank hmem

/-- Of these speeds the PHY has the first and the third. -/
theorem Drives.setPhySpeeds_last_of_four :
    let c : Cage := {
      instanceId := 0, name := "port0", family := .sfp, portType := .sfp, address := 0x50
      selector := ⟨none, some ⟨⟨"modsel", 1⟩, 2⟩⟩, selectDelay := .zero
      presence := ⟨⟨"present", 0⟩, 0⟩, reset := none, resetDelay := .zero, lowPower := none
      txControl := none, rxLoss := none, txFault := none, portLed := none
      defaultSpeedMbps := none, channelOffset := 0, maxPowerMw := 3500 }
    let s := Sfp.ofCage c
    let bank := (RegisterBank.blank.set CopperPhy.advertise 0x0de1).set CopperPhy.gigabitControl 1
    let b : Bench :=
      ⟨Segment.blank.setDevice CopperPhy.device (some (.registers bank)), fun _ ↦ .ofLevel 1⟩
    let r : Resource Driver := ⟨"port0", .media (.sfp s)⟩
    let p := r.setPhySpeeds 0 .plain [.g1, .g10, .m10, .g25]
    s.Drives (Driver.sfp s) ∧ s.Serves b bank ∧ s.cage.PresentDuring p b ∧
      ∃ bank', CopperPhy.Answers (p.final Bench.answer b) bank' ∧
        bank'.word CopperPhy.advertise = 0x0c41 ∧ bank'.word CopperPhy.gigabitControl = 1 := by
  intro c s bank b r p
  have hd : s.Drives (Driver.sfp s) := s.drives_driver
  have hserves : s.Serves b bank := by
    refine ⟨?_, rfl, rfl⟩
    rintro t (_ | ⟨_, ⟨⟩⟩)
    exact ⟨rfl, rfl⟩
  have hpresent : s.cage.PresentDuring p b :=
    hd.presentDuring (by decide) (Line.value_read_eq_ok.mpr ⟨⟨⟨rfl, rfl⟩, by decide⟩, by decide⟩)
      _ _ _ _
  obtain ⟨-, hlast⟩ := hd.setPhySpeeds_last "port0" 0 .plain [.g1, .g10, .m10, .g25]
  obtain ⟨bank', hanswers, -, hleads⟩ := hlast b bank hserves hpresent
  have hfinal := (hleads .m10 rfl b hserves.phy).final
  have hword (register : UInt8) : bank'.word register =
      (((CopperPhy.setSpeed .m10).run.final Bench.answer b).segment.bank?
        CopperPhy.device).elim 0 (RegisterBank.word · register) := by
    rw [hfinal]
    rfl
  exact ⟨hd, hserves, hpresent, bank', hanswers, (hword _).trans (by decide +kernel),
    (hword _).trans (by decide +kernel)⟩

end Sfp

end Transceiver
