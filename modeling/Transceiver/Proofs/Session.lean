import Transceiver.Proofs.Conduct.Operation
import Transceiver.Proofs.Transactions

/-!
# Sessions on a bench

When the module is there and the groups that select it work, a procedure runs in a session as it
does without one: selecting the module changes levels of pin groups, and nothing on the bus.
-/

namespace Transceiver

/-- The group can be acquired, read and written. -/
def Pin.Works (p : Pin) : Prop := p.failAcquire = false ∧ p.failAccess = false

/-- The bench with another level of a group. -/
def Bench.withLevel (b : Bench) (id : Nat) (level : UInt32) : Bench :=
  b.setPin id { b.pin id with level := level }

/-- A group works whatever its level is. -/
@[simp] theorem Bench.works_withLevel (b : Bench) (id id' : Nat) (level : UInt32) :
    ((b.withLevel id level).pin id').Works ↔ (b.pin id').Works := by
  by_cases hid : id' = id <;> simp [withLevel, setPin, Pin.Works, hid]

/-- The bench with the level of a target that may be absent. -/
def Bench.withTarget (b : Bench) (t? : Option SelectTarget) : Bench :=
  match t? with
  | none => b
  | some t => b.withLevel t.group.id t.value

/-- The bench while a module is selected. -/
def Selector.applied (s : Selector) (b : Bench) : Bench :=
  (b.withTarget s.mux).withTarget s.module

@[simp] theorem Bench.segment_withTarget (b : Bench) (t? : Option SelectTarget) :
    (b.withTarget t?).segment = b.segment := by
  cases t? <;> rfl

@[simp] theorem Bench.works_withTarget (b : Bench) (t? : Option SelectTarget) (id : Nat) :
    ((b.withTarget t?).pin id).Works ↔ (b.pin id).Works := by
  cases t? with
  | none => rfl
  | some t => exact b.works_withLevel _ _ _

@[simp] theorem Selector.segment_applied (s : Selector) (b : Bench) :
    (s.applied b).segment = b.segment := by
  rw [applied, Bench.segment_withTarget, Bench.segment_withTarget]

/-- A session gets to the module: it is there, and the groups that select it work. -/
structure Eeprom.Opens (e : Eeprom) (b : Bench) : Prop where
  present : ∀ l ∈ e.presence, l.read.run.value Bench.answer b = .ok true
  groups : ∀ t ∈ e.selector.targets, (b.pin t.group.id).Works

/-- A program runs from one bench as another does from a second one. -/
structure SameRun {α : Type} (p q : Program α) (b b' : Bench) : Prop where
  value : p.value Bench.answer b = q.value Bench.answer b'
  final : p.final Bench.answer b = q.final Bench.answer b'
  transactions : (p.trace Bench.answer b).transactions = (q.trace Bench.answer b').transactions

theorem SameRun.trans {α : Type} {p q r : Program α} {b b' b'' : Bench} (h : SameRun p q b b')
    (h' : SameRun q r b' b'') : SameRun p r b b'' :=
  ⟨h.value.trans h'.value, h.final.trans h'.final, h.transactions.trans h'.transactions⟩

/-- Actions off the bus are no transactions. -/
theorem Program.MadeOf.transactions_eq_nil {σ α : Type} {p : Program α}
    (h : p.MadeOf (Single Action.IsOffBus)) (env : Environment σ) (s : σ) :
    (p.trace env s).transactions = [] :=
  List.filterMap_eq_nil_iff.mpr (h.forall_trace env s)

/-- After a procedure that does nothing on the bus, the next one runs as from where that ends. -/
theorem Procedure.sameRun_bind {α β : Type} {p : Procedure α} {f : α → Procedure β} {a : α}
    {b b' : Bench} (h : p.RunsTo Bench.answer b (.ok a) b')
    (hp : p.MadeOf (Single Action.IsOffBus)) : SameRun (p >>= f).run (f a).run b b' := by
  rw [run_bind]
  constructor
  · rw [Program.value_bind, h.value, h.final]
    rfl
  · rw [Program.final_bind, h.value, h.final]
    rfl
  · rw [Program.trace_bind, Trace.transactions_append, hp.transactions_eq_nil, h.value, h.final]
    rfl

/-! ## Pin groups -/

section Pins

variable {α : Type} {b : Bench}

/-- Around a procedure a group is acquired and released. -/
theorem PinGroup.sameRun_hold {g : PinGroup} (body : Procedure α)
    (hb : (b.pin g.id).failAcquire = false) : SameRun (g.hold body).run body.run b b := by
  have hacquire : (Bench.answer (.acquire g) b).1 = .ok () := by
    simp [Bench.answer, Pin.acquire, hb]
  constructor
  · change Program.value (.ask _ _) _ _ = _
    rw [Program.value_ask, hacquire]
    change (body.run.bind _).value Bench.answer b = _
    exact Program.value_bind ..
  · change Program.final (.ask _ _) _ _ = _
    rw [Program.final_ask, hacquire]
    change (body.run.bind _).final Bench.answer b = _
    exact Program.final_bind ..
  · change Trace.transactions (Program.trace (.ask _ _) _ _) = _
    rw [Program.trace_ask, hacquire]
    change Trace.transactions
      (_ :: (body.run.bind fun r ↦ .ask (.release g) fun _ ↦ .done r).trace Bench.answer b) = _
    rw [Program.trace_bind]
    simp [Trace.transactions, Action.transaction?, Program.trace_ask]

theorem PinGroup.run_readLevel (g : PinGroup) :
    g.readLevel.run = .ask (.readLevel g) fun r ↦ .done (r.mapError (.gpio g.name)) := by
  refine congrArg (Program.ask _) (funext fun r ↦ ?_)
  cases r <;> rfl

theorem PinGroup.run_writeLevel (g : PinGroup) (level : UInt32) :
    (g.writeLevel level).run =
      .ask (.writeLevel g level) fun r ↦ .done (r.mapError (.gpio g.name)) := by
  refine congrArg (Program.ask _) (funext fun r ↦ ?_)
  cases r <;> rfl

/-- A group that works tells its level. -/
theorem PinGroup.readLevel_runsTo {g : PinGroup} (hb : (b.pin g.id).Works) :
    g.readLevel.RunsTo Bench.answer b (.ok (b.pin g.id).level) b := by
  have hanswer : Bench.answer (.readLevel g) b = (.ok (b.pin g.id).level, b) := by
    simp [Bench.answer, Pin.read, hb.2]
  constructor
  · rw [run_readLevel, Program.value_ask, hanswer]
    rfl
  · rw [run_readLevel, Program.final_ask, hanswer]
    rfl

/-- A group that works takes a level. -/
theorem PinGroup.writeLevel_runsTo {g : PinGroup} (level : UInt32) (hb : (b.pin g.id).Works) :
    (g.writeLevel level).RunsTo Bench.answer b (.ok ()) (b.withLevel g.id level) := by
  have hanswer : Bench.answer (.writeLevel g level) b = (.ok (), b.withLevel g.id level) := by
    simp [Bench.answer, Pin.write, hb.2, Bench.withLevel]
  constructor
  · rw [run_writeLevel, Program.value_ask, hanswer]
    rfl
  · rw [run_writeLevel, Program.final_ask, hanswer]
    rfl

/-- A level that is written before a procedure is there when that runs. -/
theorem SelectTarget.sameRun_during (t : SelectTarget) (body : Procedure α)
    (hb : (b.pin t.group.id).Works) :
    SameRun (t.during body).run body.run b (b.withLevel t.group.id t.value) :=
  (PinGroup.sameRun_hold _ hb.1).trans <|
    Procedure.sameRun_bind (PinGroup.writeLevel_runsTo t.value hb) (t.group.writeLevel_madeOf _)

theorem Selector.sameRun_under (t? : Option SelectTarget) (body : Procedure α)
    (hb : ∀ t ∈ t?, (b.pin t.group.id).Works) :
    SameRun (under t? body).run body.run b (b.withTarget t?) := by
  cases t? with
  | none => exact ⟨rfl, rfl, rfl⟩
  | some t => exact t.sameRun_during body (hb t rfl)

/-- Selecting a module whose groups work sets their levels and nothing else. -/
theorem Selector.sameRun_during {s : Selector} (hs : ∀ t ∈ s.targets, (b.pin t.group.id).Works)
    (body : Procedure α) : SameRun (s.during body).run body.run b (s.applied b) := by
  refine (sameRun_under s.mux _ fun t ht ↦ ?_).trans (sameRun_under s.module body fun t ht ↦ ?_)
  · exact hs t (List.mem_append_left _ (Option.mem_toList.mpr ht))
  · rw [Bench.works_withTarget]
    exact hs t (List.mem_append_right _ (Option.mem_toList.mpr ht))

end Pins

/-! ## Opening a session -/

/-- Reading a line changes nothing. -/
theorem Line.final_read (l : Line) (b : Bench) : l.read.run.final Bench.answer b = b := by
  have quiet {a : Action} (ha : ∀ b, (Bench.answer a b).2 = b) :
      (perform a).MadeOf (Single fun a ↦ ∀ b, (Bench.answer a b).2 = b) := .part (.perform a ha)
  have made : l.read.MadeOf (Single fun a ↦ ∀ b, (Bench.answer a b).2 = b) :=
    l.group.hold_madeOf (quiet fun _ ↦ rfl) (quiet fun _ ↦ rfl) (l.get_madeOf (quiet fun _ ↦ rfl))
  have hfinal : b = l.read.run.final Bench.answer b := by
    refine made.final_rel .refl .trans (fun β q hq b ↦ ?_) b
    cases hq with
    | perform a ha => exact (ha b).symm
  exact hfinal.symm

/-- A line of a group that works reads as its bit. -/
theorem Line.value_read {l : Line} {b : Bench} (hb : (b.pin l.group.id).Works)
    (hbit : l.bit < 32) :
    l.read.run.value Bench.answer b =
      .ok ((b.pin l.group.id).level &&& (1 <<< l.bit.toUInt32) != 0) := by
  have hmask : l.mask = .ok (1 <<< l.bit.toUInt32) := if_pos hbit
  have hget : l.get.RunsTo Bench.answer b
      (.ok ((b.pin l.group.id).level &&& (1 <<< l.bit.toUInt32) != 0)) b := by
    unfold get
    rw [hmask]
    exact (Procedure.RunsTo.liftExcept _ _).bind ((PinGroup.readLevel_runsTo hb).bind (.pure _ _))
  exact (PinGroup.sameRun_hold _ hb.1).value.trans hget.value

namespace Eeprom

variable {α : Type} {e : Eeprom} {b : Bench}

/-- A session that opens runs its body as on a bench where the module is selected. -/
theorem Opens.sameRun (h : e.Opens b) (body : Selected → Procedure α) :
    SameRun (e.session body).run (body e.selected).run b (e.selector.applied b) := by
  have hvisit := Selector.sameRun_during h.groups (do
    settle e.settleTime
    body e.selected)
  have hrest := hvisit.trans (Procedure.sameRun_bind (f := fun _ ↦ body e.selected)
    (settle_runsTo e.settleTime _) (.lift (settle_madeOf _)))
  unfold session
  split
  · rename_i l hl
    have hread : l.read.RunsTo Bench.answer b (.ok true) b := ⟨h.present l hl, l.final_read b⟩
    exact (Procedure.sameRun_bind hread l.read_madeOf).trans hrest
  · exact hrest

end Eeprom

end Transceiver
