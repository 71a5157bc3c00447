import Transceiver.Proofs.Interleaving
import Transceiver.Proofs.PowerBudget
import Transceiver.Proofs.SharedLines
import Transceiver.Proofs.Surfacing

/-!
# Asking an adapter

An adapter tells its maker only while the module in it is held in reset.  Main statement: once the
reset line is set the adapter is asked at most once, with the line set; whatever keeps it from being
asked or from answering, the line is clear in the end, and the lines next to it are as they were.
-/

namespace Transceiver

variable {α β : Type}

/-! ## A line around a procedure -/

/-- Where no event sets a level of the group of a line, that stays as it is. -/
theorem Trace.pin_replay {l : Line} {t : Trace} (h : ∀ e ∈ t, l.Spares e.action) (b : Bench) :
    (t.replay Bench.answer b).pin l.group.id = b.pin l.group.id := by
  induction t generalizing b with
  | nil => rfl
  | cons e t ih =>
    obtain ⟨he, ht⟩ := List.forall_mem_cons.mp h
    refine (ih ht _).trans (Bench.pin_answer ?_ b)
    rintro g level haction
    rw [haction] at he
    exact he

/-- After a procedure that returns, what happens is what happens in the next one. -/
theorem Procedure.RunsTo.trace_bind {σ : Type} {env : Environment σ} {p : Procedure α} {s s₁ : σ}
    {a : α} (h : p.RunsTo env s (.ok a) s₁) (f : α → Procedure β) :
    (p >>= f).run.trace env s = p.run.trace env s ++ (f a).run.trace env s₁ := by
  rw [run_bind, Program.trace_bind, h.value, h.final]
  rfl

/-- A session sets no level of the group of a line that is on none of the groups that select the
module. -/
theorem Eeprom.hosts_spares {l : Line} (e : Eeprom)
    (h : ∀ t ∈ e.selector.targets, t.group.id ≠ l.group.id) :
    Parts.Hosts (Single l.Spares) (Single l.Spares) e := by
  have hoff : (Single l.Spares).Includes Action.IsOffPins := l.includes_isOffPins
  refine ⟨fun l' ↦ l.read_spares l', fun hbody ↦ e.session_madeOf (fun l' ↦ l.read_spares l') ?_⟩
  exact Selector.during_spares h <| .bind (.lift (settle_madeOf _)) fun _ ↦ hbody

namespace Line

variable {l : Line} {b : Bench}

/-- The bench with a line set or cleared. -/
def put (l : Line) (on : Bool) (b : Bench) : Bench :=
  b.withLevel l.group.id (l.assigned on (b.pin l.group.id).level)

@[simp] theorem pin_put (on : Bool) : (l.put on b).pin l.group.id =
    { b.pin l.group.id with level := l.assigned on (b.pin l.group.id).level } := if_pos rfl

/-- A level is an older one with the line set or cleared, and the others of the group as in that. -/
structure Turned (l : Line) (on : Bool) (old new : UInt32) : Prop where
  own : ∃ h : l.bit.toNat < 32, levelBit new ⟨l.bit.toNat, h⟩ = on
  others : ∀ i : Fin 32, l.bit.toNat ≠ i → levelBit new i = levelBit old i

theorem turned_assigned (h : l.bit < 32) (on : Bool) (old : UInt32) :
    l.Turned on old (l.assigned on old) :=
  ⟨⟨h, (levelBit_assigned h on old _).trans (if_pos rfl)⟩,
    fun i hi ↦ (levelBit_assigned h on old i).trans (if_neg hi)⟩

/-- A line that is turned twice is as it was turned last. -/
theorem Turned.trans {on on' : Bool} {v w x : UInt32} (h : l.Turned on v w)
    (h' : l.Turned on' w x) : l.Turned on' v x :=
  ⟨h'.own, fun i hi ↦ (h'.others i hi).trans (h.others i hi)⟩

/-- Set a line while a procedure runs that returns. -/
def pulse (l : Line) (body : Procedure α) : Procedure α := do
  l.write true
  let a ← body
  l.write false
  return a

section Pulse

variable (h : l.Works b) {body : Procedure α} (hbody : body.MadeOf (Single l.Spares)) {a : α}
  (hvalue : body.run.value Bench.answer (l.put true b) = .ok a)
include h hbody hvalue

/-- A line that works is set, and cleared after a procedure that leaves its group alone. -/
theorem trace_pulse : ∃ b',
    b'.pin l.group.id = (l.put true b).pin l.group.id ∧
    (l.pulse body).RunsTo Bench.answer b (.ok a) (l.put false b') ∧
    (l.pulse body).run.trace Bench.answer b = (l.write true).run.trace Bench.answer b ++
      (body.run.trace Bench.answer (l.put true b) ++ (l.write false).run.trace Bench.answer b') := by
  generalize hfinal : body.run.final Bench.answer (l.put true b) = b'
  have hpin : b'.pin l.group.id = (l.put true b).pin l.group.id := by
    rw [← hfinal, ← Program.replay_trace]
    exact Trace.pin_replay (hbody.forall_trace _ _) _
  have hworks : l.Works b' := by
    refine ⟨?_, h.2⟩
    rw [hpin, pin_put]
    exact h.1
  have hset : (l.write true).RunsTo Bench.answer b (.ok ()) (l.put true b) :=
    write_runsTo_iff.mpr ⟨h, rfl⟩
  have hrun : body.RunsTo Bench.answer (l.put true b) (.ok a) b' := ⟨hvalue, hfinal⟩
  have hclear : (l.write false).RunsTo Bench.answer b' (.ok ()) (l.put false b') :=
    write_runsTo_iff.mpr ⟨hworks, rfl⟩
  refine ⟨b', hpin, hset.bind (hrun.bind (hclear.bind (.pure a _))), ?_⟩
  unfold pulse
  rw [hset.trace_bind, hrun.trace_bind, hclear.trace_bind]
  change _ ++ (_ ++ (_ ++ [])) = _
  rw [List.append_nil]

/-- What is exchanged meanwhile is what the procedure exchanges. -/
theorem exchanges_pulse : ((l.pulse body).run.trace Bench.answer b).exchanges =
    (body.run.trace Bench.answer (l.put true b)).exchanges := by
  obtain ⟨b', -, -, htrace⟩ := trace_pulse h hbody hvalue
  have hoff (on : Bool) (b : Bench) : ((l.write on).run.trace Bench.answer b).exchanges = [] :=
    Program.MadeOf.exchanges_eq_nil (l.write_madeOf on) _ b
  rw [htrace, Trace.exchanges_append, Trace.exchanges_append, hoff, hoff, List.nil_append,
    List.append_nil]

/-- At every transaction the line is set. -/
theorem pin_pulse {past future : Trace} {e : Event}
    (hsplit : (l.pulse body).run.trace Bench.answer b = past ++ e :: future)
    (he : e.action.transaction? ≠ none) :
    (past.replay Bench.answer b).pin l.group.id = (l.put true b).pin l.group.id := by
  obtain ⟨b', -, -, htrace⟩ := trace_pulse h hbody hvalue
  have hoff (on : Bool) (b : Bench) : ∀ e' ∈ (l.write on).run.trace Bench.answer b,
      e'.action.IsOffBus := by
    have hwrite : (l.write on).MadeOf (Single Action.IsOffBus) := l.write_madeOf on
    exact hwrite.forall_trace _ b
  rw [htrace] at hsplit
  rcases Trace.split_append hsplit with ⟨mid, hset, -⟩ | ⟨mid, rfl, hrest⟩
  · exact absurd (hoff true b e (by simp [hset])) he
  · rcases Trace.split_append hrest with ⟨mid', hrun, -⟩ | ⟨mid', -, hclear⟩
    · have hset : Trace.replay Bench.answer ((l.write true).run.trace Bench.answer b) b =
          l.put true b :=
        (Program.replay_trace _ _ b).trans (write_runsTo_iff.mpr ⟨h, rfl⟩).final
      have hspares : ∀ e' ∈ mid, l.Spares e'.action := fun e' he' ↦
        hbody.forall_trace Bench.answer (l.put true b) e' (by simp [hrun, he'])
      unfold Trace.replay at hset ⊢
      rw [List.foldl_append, hset]
      exact Trace.pin_replay hspares _
    · exact absurd (hoff false b' e (by simp [hclear])) he

end Pulse

end Line

/-! ## The adapter -/

/-- What an adapter is, by what it tells of its maker if it was asked at all. -/
def AdapterKind.told : Option (Except BusFault (Vector UInt8 3)) → AdapterKind
  | some (.ok oui) => if oui.toList = QsfpMap.qsa28Oui then .qsa28 else .qsa
  | some (.error _) => .unknown
  | .none => .unknown

/-- An operation that is refused tells all of the refusal. -/
theorem Bus.eq_of_mapError {address offset : UInt8} {r r' : Except BusFault α}
    (h : r.mapError (Error.bus address offset) = r'.mapError (.bus address offset)) : r = r' := by
  cases r with
  | ok a =>
    cases r' with
    | ok a' =>
      cases h
      rfl
    | error fault => cases h
  | error fault =>
    cases r' with
    | ok a' => cases h
    | error fault' =>
      cases h
      rfl

namespace Eeprom

variable {e : Eeprom} {b : Bench}

/-- A session that does not open exchanges nothing. -/
theorem session_of_not_opens (h : ¬ e.Opens b) (body : Selected → Procedure α) :
    ∃ err, (e.session body).run.value Bench.answer b = .error err ∧
      ((e.session body).run.trace Bench.answer b).exchanges = [] := by
  rcases e.session_opens Bench.answer b with hfails | ⟨s', hopens⟩
  · exact hfails (body e.selected)
  · have hvalue := (hopens (pure ())).1
    exact absurd (session_runsTo_iff.mp ⟨hvalue, rfl⟩).1 h

/-- One that opens exchanges what its body does, and returns what that returns. -/
theorem session_of_opens (h : e.Opens b) : ∃ b', ∀ {α : Type} (body : Selected → Procedure α),
    (e.session body).run.value Bench.answer b =
        (body e.selected).run.value Bench.answer b' ∧
      ((e.session body).run.trace Bench.answer b).exchanges =
        ((body e.selected).run.trace Bench.answer b').exchanges := by
  rcases e.session_opens Bench.answer b with hfails | ⟨b', hopens⟩
  · obtain ⟨err, herr, -⟩ := hfails (pure ())
    have hvalue := (h.sameRun fun _ ↦ pure ()).value
    exact nomatch herr.symm.trans hvalue
  · exact ⟨b', fun body ↦ hopens (body e.selected)⟩

/-- A range that no page is needed for is read in one transaction. -/
theorem read_of_opens (h : e.Opens b) {offset : UInt8} {length : Nat}
    (hrange : offset.toNat + length ≤ addressSpace) :
    let p := (e.read (.unpaged offset) length).run
    let r := (b.segment.read e.address offset length).1
    p.value Bench.answer b = r.mapError (.bus e.address offset) ∧
      (p.trace Bench.answer b).exchanges = [⟨.read e.address offset length, r⟩] := by
  intro p r
  have hbody : e.selected.read (.unpaged offset) length = Bus.read e.address offset length := by
    unfold Selected.read
    rw [Selected.checkRange_bind hrange, Selected.paged_unpaged rfl]
    rfl
  have hvalue : p.value Bench.answer b = r.mapError (.bus e.address offset) := by
    have hsame := (h.sameRun fun m ↦ m.read (.unpaged offset) length).value
    rw [hbody, Bus.value_read, Selector.segment_applied] at hsame
    exact hsame
  obtain ⟨b', hopened⟩ := session_of_opens h
  obtain ⟨hvalue', hexchanges⟩ := hopened fun m ↦ m.read (.unpaged offset) length
  rw [hbody] at hvalue' hexchanges
  refine ⟨hvalue, hexchanges.trans ?_⟩
  rw [Bus.value_read] at hvalue'
  have hreply : (b'.segment.read e.address offset length).1 = r :=
    Bus.eq_of_mapError (hvalue'.symm.trans hvalue)
  rw [Bus.run_read, ← hreply]
  rfl

end Eeprom

namespace Qsfp

variable (q : Qsfp)

/-- The adapter is asked if a session opens, and is what it tells then. -/
theorem readAdapter_told (b : Bench) : ∃ asked,
    (asked = none ↔ ¬ q.eeprom.Opens b) ∧
    (∀ r ∈ asked, r = (b.segment.read q.cage.address QsfpMap.adapterOui 3).1) ∧
    (q.readAdapter.trace Bench.answer b).exchanges =
      asked.toList.map (Event.mk (.read q.cage.address QsfpMap.adapterOui 3)) ∧
    q.readAdapter.value Bench.answer b = .told asked := by
  obtain ⟨tell, hbind, hok, herror⟩ : ∃ tell : Except Error (Vector UInt8 3) → Program AdapterKind,
      q.readAdapter = (q.eeprom.read (.unpaged QsfpMap.adapterOui) 3).run.bind tell ∧
      (∀ oui, tell (.ok oui) = .done (adapterOfOui oui.toList)) ∧
      ∀ err, tell (.error err) = (report .warning "failed to read QSA adapter OUI"
        [("reason", err.wording)]).bind fun _ ↦ .done .unknown :=
    ⟨_, rfl, fun _ ↦ rfl, fun _ ↦ rfl⟩
  have hquiet (r : Except Error (Vector UInt8 3)) (b : Bench) :
      ((tell r).trace Bench.answer b).exchanges = [] := by
    cases r with
    | ok oui =>
      rw [hok]
      rfl
    | error err =>
      rw [herror]
      rfl
  rw [hbind, Program.trace_bind, Program.value_bind, Trace.exchanges_append, hquiet,
    List.append_nil]
  by_cases h : q.eeprom.Opens b
  · have hrange : QsfpMap.adapterOui.toNat + 3 ≤ addressSpace := by decide
    obtain ⟨hvalue, hexchanges⟩ := Eeprom.read_of_opens h hrange
    refine ⟨some _, by simp [h], fun r hr ↦ (Option.some.inj hr).symm, hexchanges, ?_⟩
    rw [hvalue]
    change Program.value (tell ((b.segment.read q.cage.address QsfpMap.adapterOui 3).1.mapError _))
      _ _ = _
    cases (b.segment.read q.cage.address QsfpMap.adapterOui 3).1 with
    | ok oui =>
      change (tell (.ok oui)).value _ _ = _
      rw [hok]
      rfl
    | error fault =>
      change (tell (.error _)).value _ _ = _
      rw [herror]
      rfl
  · obtain ⟨err, hvalue, hexchanges⟩ :=
      Eeprom.session_of_not_opens h fun m ↦ m.read (.unpaged QsfpMap.adapterOui) 3
    refine ⟨none, by simp [h], nofun, hexchanges, ?_⟩
    change (tell ((q.eeprom.session fun m ↦ m.read (.unpaged QsfpMap.adapterOui) 3).run.value
      Bench.answer b)).value _ _ = _
    rw [hvalue, herror]
    rfl

variable {q} {l : Line}

theorem readAdapter_spares (hapart : ∀ t ∈ q.cage.selector.targets, t.group.id ≠ l.group.id) :
    q.readAdapter.MadeOf (Single l.Spares) := by
  have hoff : (Single l.Spares).Includes Action.IsOffPins := l.includes_isOffPins
  have hhosts := q.eeprom.hosts_spares hapart
  exact q.readAdapter_madeOf

/-- Wait for the reset to take, and ask the adapter. -/
def probe (q : Qsfp) : Procedure AdapterKind := do
  settle q.cage.resetDelay
  q.readAdapter

theorem probe_spares (hapart : ∀ t ∈ q.cage.selector.targets, t.group.id ≠ l.group.id) :
    q.probe.MadeOf (Single l.Spares) := by
  have hoff : (Single l.Spares).Includes Action.IsOffPins := l.includes_isOffPins
  exact .bind (.lift (settle_madeOf _)) fun _ ↦ .lift (readAdapter_spares hapart)

theorem value_probe (b : Bench) :
    q.probe.run.value Bench.answer b = .ok (q.readAdapter.value Bench.answer b) :=
  ((settle_runsTo q.cage.resetDelay b).bind (.lift q.readAdapter b)).value

/-- Waiting exchanges nothing. -/
theorem exchanges_probe (b : Bench) : (q.probe.run.trace Bench.answer b).exchanges =
    (q.readAdapter.trace Bench.answer b).exchanges := by
  have hsettle : (liftM (settle q.cage.resetDelay) : Procedure Unit).MadeOf
      (Single Action.IsOffBus) := .lift (settle_madeOf _)
  unfold probe
  rw [(settle_runsTo q.cage.resetDelay b).trace_bind, Trace.exchanges_append,
    Program.MadeOf.exchanges_eq_nil hsettle, Procedure.run_lift, Program.trace_bind]
  exact congrArg Trace.exchanges (List.append_nil _)

/-- With an adapter and a reset line its kind is asked for while the line is set. -/
theorem perform_adapterKind (hadapted : q.found.adapted = true) (hreset : q.cage.reset = some l) :
    q.perform .adapterKind = keeping q (l.pulse q.probe) := by
  have hserve : q.serve .adapterKind = q.adapterKind := by
    unfold serve
    cases q.adapter? <;> rfl
  change keeping q (q.serve .adapterKind) = _
  rw [hserve]
  unfold adapterKind Line.pulse probe
  rw [hadapted, hreset]
  simp

/-- Once the reset line of the cage is set, whatever the state of the segment and of the other pin
groups, the kind of the adapter is returned: unknown if it could not be asked or did not answer.  It
is asked at most once, with the line set, and in the end the line is clear.  The other lines of its
group stay as they are throughout. -/
theorem adapterKind_resets (hadapted : q.found.adapted = true) (hreset : q.cage.reset = some l)
    (hapart : ∀ t ∈ q.cage.selector.targets, t.group.id ≠ l.group.id) {b b' : Bench}
    (hset : (l.write true).RunsTo Bench.answer b (.ok ()) b') :
    let p := q.perform .adapterKind
    let level (b : Bench) := (b.pin l.group.id).level
    (∃ asked,
      (asked = none ↔ ¬ q.eeprom.Opens b') ∧
      (∀ r ∈ asked, r = (b.segment.read q.cage.address QsfpMap.adapterOui 3).1) ∧
      (p.trace Bench.answer b).exchanges =
        asked.toList.map (Event.mk (.read q.cage.address QsfpMap.adapterOui 3)) ∧
      p.value Bench.answer b = (.ok (.told asked), q)) ∧
    (∀ (past : Trace) e future, p.trace Bench.answer b = past ++ e :: future →
      e.action.transaction? ≠ none →
        l.Turned true (level b) (level (past.replay Bench.answer b))) ∧
    l.Turned false (level b) (level (p.final Bench.answer b)) := by
  intro p level
  obtain ⟨hworks, rfl⟩ := Line.write_runsTo_iff.mp hset
  have hprobe : q.probe.MadeOf (Single l.Spares) := probe_spares hapart
  obtain ⟨asked, hnone, hread, hexchanges, htold⟩ := q.readAdapter_told (l.put true b)
  have hvalue : q.probe.run.value Bench.answer (l.put true b) = .ok (.told asked) := by
    rw [value_probe, htold]
  obtain ⟨b', hpin, hpulse, -⟩ := Line.trace_pulse hworks hprobe hvalue
  have hperform : p = keeping q (l.pulse q.probe) := perform_adapterKind hadapted hreset
  rw [hperform, trace_keeping, final_keeping, hpulse.final,
    Line.exchanges_pulse hworks hprobe hvalue, exchanges_probe]
  have hturned := Line.turned_assigned hworks.2 true (level b)
  refine ⟨⟨asked, hnone, hread, hexchanges, ?_⟩, fun past e future hsplit he ↦ ?_, ?_⟩
  · refine Prod.ext ?_ (keeping_value ..)
    rw [value_keeping, hpulse.value]
  · dsimp only [level]
    rw [Line.pin_pulse hworks hprobe hvalue hsplit he, Line.pin_put]
    exact hturned
  · dsimp only [level]
    rw [Line.pin_put, hpin, Line.pin_put]
    exact hturned.trans (Line.turned_assigned hworks.2 false _)

/-- An adapter that tells its maker, and one behind a mux that refuses all accesses. -/
theorem adapterKind_resets_stuck_mux :
    let l : Line := ⟨⟨"reset", 3⟩, 1⟩
    let c : Cage := {
      instanceId := 0, name := "port0", family := .qsfp, portType := .qsfp, address := 0x50
      selector := ⟨some ⟨⟨"mux", 1⟩, 5⟩, none⟩, selectDelay := .zero, presence := ⟨⟨"reset", 3⟩, 0⟩
      reset := some l, resetDelay := .ofMillis 2, lowPower := none, txControl := none
      rxLoss := none, txFault := none, portLed := none, defaultSpeedMbps := none
      channelOffset := 0, maxPowerMw := 3500 }
    let q : Qsfp := ⟨c, .standard, ⟨.qsfp, 0, none, true⟩⟩
    let s := (Segment.blank.addModule 0x50).poke 0x50 0 QsfpMap.adapterOui [0x00, 0x02, 0xc9]
    let b : Bench := ⟨s, fun _ ↦ .ofLevel 5⟩
    let stuck := b.setPin 1 ⟨0, false, true⟩
    let p := q.perform .adapterKind
    (p.value Bench.answer b).1 = .ok .qsa28 ∧ (p.value Bench.answer stuck).1 = .ok .unknown ∧
      l.Turned false 5 ((p.final Bench.answer stuck).pin 3).level := by
  intro l c q s b stuck p
  have hapart : ∀ t ∈ q.cage.selector.targets, t.group.id ≠ l.group.id := by decide
  have hset : (l.write true).RunsTo Bench.answer b (.ok ()) _ :=
    Line.write_runsTo_iff.mpr ⟨⟨⟨rfl, rfl⟩, by decide⟩, rfl⟩
  have hset' : (l.write true).RunsTo Bench.answer stuck (.ok ()) _ :=
    Line.write_runsTo_iff.mpr ⟨⟨⟨rfl, rfl⟩, by decide⟩, rfl⟩
  obtain ⟨⟨asked, hnone, hread, -, hvalue⟩, -, -⟩ :=
    adapterKind_resets (q := q) rfl rfl hapart hset
  obtain ⟨⟨asked', hnone', -, -, hvalue'⟩, -, hcleared⟩ :=
    adapterKind_resets (q := q) rfl rfl hapart hset'
  have hshut : asked' = none := by
    refine hnone'.mpr fun hopens ↦ ?_
    exact nomatch (hopens.groups _ (.head _)).2
  refine ⟨?_, ?_, hcleared⟩
  · cases asked with
    | none =>
      refine absurd ⟨?_, ?_⟩ (hnone.mp rfl)
      · rintro _ ⟨⟩
        exact Line.value_read_eq_ok.mpr ⟨⟨⟨rfl, rfl⟩, by decide⟩, by decide⟩
      · rintro t (_ | ⟨_, ⟨⟩⟩)
        exact ⟨rfl, rfl⟩
    | some r =>
      have htold : r = .ok ⟨#[0x00, 0x02, 0xc9], rfl⟩ := hread r rfl
      rw [hvalue, htold]
      rfl
  · rw [hvalue', hshut]
    rfl

end Qsfp

end Transceiver
