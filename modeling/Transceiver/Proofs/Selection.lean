import Transceiver.Proofs.Conduct.Driver
import Transceiver.Proofs.Observer
import Transceiver.Simulation.Bench
import Transceiver.Trace

/-!
# Selection

Modules on a bus share the groups that select them, so a group that is left held, or a transaction
while another module is selected, harms the module next to it.  An observer keeps the groups held at
each moment with the levels written to them, and refuses what breaks the discipline.

Main statement: whatever goes wrong on the way, an operation on a cage gives back every group that
it takes, the last one first, and there are transactions only while the module is selected.
-/

namespace Transceiver

/-- A group that is held, and its level once that was written. -/
structure Hold where
  group : PinGroup
  level : Option UInt32
deriving DecidableEq, Repr

/-- Whether a group is among those held; groups are told apart by their numbers. -/
def Held (holds : List Hold) (g : PinGroup) : Prop := ∃ h ∈ holds, h.group.id = g.id

instance (holds : List Hold) (g : PinGroup) : Decidable (Held holds g) :=
  inferInstanceAs (Decidable (∃ h ∈ holds, _))

/-- Note a level of a group. -/
def Hold.noted (g : PinGroup) (level : Option UInt32) (h : Hold) : Hold :=
  if h.group.id = g.id then { h with level := level } else h

/-- The groups held, the last one first.  None is acquired while it is held, only the last one is
released, and levels are read and written of those held alone. -/
def holding : Observer (List Hold)
  | holds, ⟨.acquire g, .ok ()⟩ => if Held holds g then none else some (⟨g, none⟩ :: holds)
  | holds, ⟨.acquire g, .error _⟩ => if Held holds g then none else some holds
  | holds, ⟨.release g, _⟩ =>
    match holds with
    | [] => none
    | last :: others => if last.group = g then some others else none
  | holds, ⟨.readLevel g, _⟩ => if Held holds g then some holds else none
  | holds, ⟨.writeLevel g level, .ok ()⟩ =>
    if Held holds g then some (holds.map (.noted g (some level))) else none
  | holds, ⟨.writeLevel g _, .error _⟩ =>
    if Held holds g then some (holds.map (.noted g none)) else none
  | holds, ⟨.read _ _ _, _⟩ => some holds
  | holds, ⟨.write _ _ _, _⟩ => some holds
  | holds, ⟨.pause _, _⟩ => some holds
  | holds, ⟨.log _, _⟩ => some holds

/-- The hold of a group at the level that selects a module. -/
def SelectTarget.held (t : SelectTarget) : Hold := ⟨t.group, some t.value⟩

namespace Selector

/-- The module is selected: every group of it is held at its level. -/
def Selects (s : Selector) (holds : List Hold) : Prop := ∀ t ∈ s.targets, t.held ∈ holds

instance (s : Selector) (holds : List Hold) : Decidable (s.Selects holds) :=
  inferInstanceAs (Decidable (∀ t ∈ s.targets, _))

/-- A mux is not the group that selects a module behind it. -/
def Distinct (s : Selector) : Prop :=
  ∀ mux ∈ s.mux, ∀ module ∈ s.module, mux.group.id ≠ module.group.id

end Selector

/-- Transactions take place only while the module is selected. -/
def selecting (s : Selector) : Observer (List Hold) := fun holds e ↦
  if e.action.transaction? = none ∨ s.Selects holds then holding holds e else none

/-- What passes while only one module may be accessed passes as well while any may. -/
theorem holding_of_selecting {s : Selector} {holds holds' : List Hold} {e : Event}
    (h : selecting s holds e = some holds') : holding holds e = some holds' := by
  unfold selecting at h
  split at h
  · exact h
  · cases h

/-- A transaction that passes finds the module selected. -/
theorem selects_of_selecting {s : Selector} {holds holds' : List Hold} {e : Event}
    (h : selecting s holds e = some holds') (he : e.action.transaction? ≠ none) :
    s.Selects holds := by
  unfold selecting at h
  split at h
  · rename_i h'
    exact h'.resolve_left he
  · cases h

/-! ## Pin groups and lines -/

section Groups

variable {s : Selector} {holds : List Hold} {g : PinGroup}

/-- To note a level changes nothing where the group is not held. -/
theorem map_noted_of_not_held (hg : ¬ Held holds g) (level : Option UInt32) :
    holds.map (.noted g level) = holds := by
  have h : ∀ h ∈ holds, Hold.noted g level h = h := fun h hh ↦ if_neg fun hid ↦ hg ⟨h, hh, hid⟩
  rw [List.map_congr_left h, List.map_id']

/-- The group is held last, on top of others. -/
def OnTop (holds : List Hold) (g : PinGroup) (holds' : List Hold) : Prop :=
  ∃ level, holds' = ⟨g, level⟩ :: holds

/-- Writing a level of the group held last notes that level. -/
theorem selecting_writeLevel (hg : ¬ Held holds g) (old : Option UInt32) (level : UInt32)
    (reply : Except PinFault Unit) :
    selecting s (⟨g, old⟩ :: holds) ⟨.writeLevel g level, reply⟩ =
      some (⟨g, match reply with | .ok _ => some level | .error _ => none⟩ :: holds) := by
  have held : Held (⟨g, old⟩ :: holds) g := ⟨_, List.mem_cons_self, rfl⟩
  cases reply with
  | ok _ =>
    simp only [selecting, holding, Action.transaction?, true_or, if_true, if_pos held,
      List.map_cons, map_noted_of_not_held hg]
    simp [Hold.noted]
  | error _ =>
    simp only [selecting, holding, Action.transaction?, true_or, if_true, if_pos held,
      List.map_cons, map_noted_of_not_held hg]
    simp [Hold.noted]

/-- A procedure that keeps a group on top is let pass around which that group is held, and others
are held then as before. -/
theorem PinGroup.hold_passes {α : Type} {body : Procedure α} (hg : ¬ Held holds g)
    (hbody : body.run.Passes (selecting s) (⟨g, none⟩ :: holds) fun _ ↦ OnTop holds g) :
    (g.hold body).run.Passes (selecting s) holds fun _ holds' ↦ holds' = holds := by
  intro reply
  cases reply with
  | error fault =>
    refine ⟨holds, ?_, rfl⟩
    simp [selecting, holding, Action.transaction?, hg]
  | ok _ =>
    refine ⟨⟨g, none⟩ :: holds, ?_, hbody.bind ?_⟩
    · simp [selecting, holding, Action.transaction?, hg]
    · rintro r _ ⟨level, rfl⟩ _
      refine ⟨holds, ?_, rfl⟩
      simp [selecting, holding, Action.transaction?]

end Groups

namespace Line

variable {s : Selector} {holds : List Hold} (l : Line)

/-- Accesses of a group that is held last keep it there. -/
theorem onTop_of_accesses {g : PinGroup} (hg : ¬ Held holds g) {α : Type} {p : Program α}
    (h : p.MadeOf (Single g.Accesses)) : p.Preserves (selecting s) (OnTop holds g) := by
  refine h.preserves fun β q hq ↦ ?_
  cases hq with
  | perform action ha =>
    refine Program.preserves_perform ?_
    rintro reply _ ⟨level, rfl⟩
    cases action with
    | readLevel g' =>
      cases ha
      exact ⟨_, by simp [selecting, holding, Action.transaction?, Held], level, rfl⟩
    | writeLevel g' level' =>
      cases ha
      exact ⟨_, selecting_writeLevel hg level level' reply, _, rfl⟩
    | _ => cases ha

/-- Reading a line is let pass while no group is held. -/
theorem read_preserves : l.read.run.Preserves (selecting s) (· = []) := by
  rintro _ rfl
  have hg : ¬ Held [] l.group := by simp [Held]
  have get : (perform (.readLevel l.group)).MadeOf (Single l.group.Accesses) :=
    .part (.perform _ rfl)
  exact PinGroup.hold_passes hg (onTop_of_accesses hg (l.get_madeOf get) _ ⟨none, rfl⟩)

theorem write_preserves (on : Bool) : (l.write on).run.Preserves (selecting s) (· = []) := by
  rintro _ rfl
  have hg : ¬ Held [] l.group := by simp [Held]
  exact PinGroup.hold_passes hg (onTop_of_accesses hg (l.assign_madeOf on) _ ⟨none, rfl⟩)

end Line

/-! ## Sessions -/

section Sessions

variable {s : Selector} {holds : List Hold}

/-- A target adds its hold on top for as long as the body runs. -/
theorem SelectTarget.during_passes {α : Type} (t : SelectTarget) {body : Procedure α}
    (ht : ¬ Held holds t.group)
    (hbody : body.run.Passes (selecting s) (t.held :: holds) fun _ holds' ↦
      holds' = t.held :: holds) :
    (t.during body).run.Passes (selecting s) holds fun _ holds' ↦ holds' = holds := by
  refine PinGroup.hold_passes ht ?_
  rw [Procedure.run_bind]
  intro reply
  refine ⟨_, selecting_writeLevel ht none t.value reply, ?_⟩
  cases reply with
  | ok _ => exact hbody.imp fun r _ h ↦ ⟨some t.value, h⟩
  | error fault => exact ⟨none, rfl⟩

theorem Selector.under_passes {α : Type} (t? : Option SelectTarget) {body : Procedure α}
    (ht : ∀ t ∈ t?, ¬ Held holds t.group)
    (hbody : body.run.Passes (selecting s) (t?.toList.map SelectTarget.held ++ holds)
      fun _ holds' ↦ holds' = t?.toList.map SelectTarget.held ++ holds) :
    (under t? body).run.Passes (selecting s) holds fun _ holds' ↦ holds' = holds := by
  cases t? with
  | none => exact hbody
  | some t => exact t.during_passes (ht t rfl) hbody

/-- Selecting a module holds all of its groups for as long as the body runs. -/
theorem Selector.during_passes (hs : s.Distinct) {α : Type} {body : Procedure α}
    (hbody : ∀ holds, s.Selects holds → body.run.Preserves (selecting s) (· = holds)) :
    (s.during body).run.Preserves (selecting s) (· = []) := by
  rintro _ rfl
  refine under_passes s.mux (fun t _ ↦ by simp [Held]) (under_passes s.module ?_ ?_)
  · intro module hmodule
    rintro ⟨h, hh, hid⟩
    obtain ⟨mux, hmux, rfl⟩ : ∃ mux ∈ s.mux, mux.held = h := by simpa using hh
    exact hs mux hmux module hmodule hid
  · refine hbody _ ?_ _ rfl
    intro t ht
    rcases List.mem_append.mp ht with h | h
    · exact List.mem_append_right _ (List.mem_append_left _ (List.mem_map_of_mem h))
    · exact List.mem_append_left _ (List.mem_map_of_mem h)

/-- Idling is let pass at any time, and accesses of the module while it is selected. -/
theorem preserves_of_isOffPins {action : Action} (h : action.IsOffPins)
    (hs : action.IsIdle ∨ s.Selects holds) :
    (perform action).Preserves (selecting s) (· = holds) := by
  refine Program.preserves_perform ?_
  rintro reply _ rfl
  refine ⟨_, ?_, rfl⟩
  cases action with
  | read _ _ _ => simpa [selecting, holding, Action.transaction?, Action.IsIdle] using hs
  | write _ _ _ => simpa [selecting, holding, Action.transaction?, Action.IsIdle] using hs
  | pause _ => simp [selecting, holding, Action.transaction?]
  | log _ => simp [selecting, holding, Action.transaction?]
  | _ => cases h

/-- A session consists of actions that leave the pin groups alone. -/
theorem SessionPart.madeOf_isOffPins {A : Action → Prop} (hA : ∀ a, A a → a.IsOffPins) {α : Type}
    {p : Program α} (h : SessionPart A α p) : p.MadeOf (Single Action.IsOffPins) := by
  have hpage (device page : UInt8) :
      (Selected.selectPage device page).MadeOf (Single Action.IsOffPins) :=
    Bus.write_madeOf (.part (.perform _ trivial))
  cases h with
  | single action ha => exact .part (.perform _ (hA _ ha))
  | home device => exact hpage device 0
  | onPage device page hbody =>
    refine Program.MadeOf.bind (hpage device page) fun r ↦ ?_
    cases r with
    | error e => exact .done _
    | ok _ =>
      refine .bind (hbody.imp fun _ _ hq ↦ ?_) fun r ↦ .bind (hpage device 0) fun r' ↦ ?_
      · cases hq with
        | perform action ha => exact .perform _ (hA _ ha)
      · cases r' with
        | ok _ => exact .done _
        | error e => exact .bind (report_madeOf _ _ _) fun _ ↦ .done _

/-- A session is let pass while no group is held. -/
theorem Eeprom.session_preserves (hs : s.Distinct) (e : Eeprom) (he : e.selector = s)
    {A : Action → Prop} (hA : ∀ a, A a → a.IsOffPins) {α : Type} {body : Selected → Procedure α}
    (hbody : ∀ m, (body m).MadeOf (SessionPart A)) :
    (e.session body).run.Preserves (selecting s) (· = []) := by
  have visit : (e.selector.during (do
      settle e.settleTime
      body ⟨e.address, e.scheme⟩)).run.Preserves (selecting s) (· = []) := by
    rw [he]
    refine Selector.during_passes hs fun holds hholds ↦ ?_
    have made : Procedure.MadeOf (Single Action.IsOffPins) (do
        settle e.settleTime
        body ⟨e.address, e.scheme⟩) :=
      .bind (.lift (settle_madeOf _)) fun _ ↦
        (hbody _).trans fun _ _ hq ↦ hq.madeOf_isOffPins hA
    refine Program.MadeOf.preserves made fun β q hq ↦ ?_
    cases hq with
    | perform action ha => exact preserves_of_isOffPins ha (.inr hholds)
  have made : (e.session body).MadeOf fun _ p ↦ p.Preserves (selecting s) (· = []) :=
    e.session_madeOf (fun l ↦ .part l.read_preserves) (.part visit)
  exact made.preserves fun _ _ hq ↦ hq

end Sessions

/-! ## Operations -/

/-- A cage is selected as its draft says, and the groups of that are not shared. -/
theorem Draft.selector_of_build {d : Draft} {c : Cage} (h : d.build = .ok c) :
    d.sharedGroup? = none ∧ c.selector = ⟨d.mux, d.module⟩ := by
  unfold build at h
  split at h
  · split at h
    · cases h
    · rename_i hnone
      dsimp only at h
      split at h
      · cases h
        exact ⟨Option.eq_none_iff_forall_ne_some.mpr hnone, rfl⟩
      · cases h
  · cases h

theorem Draft.distinct_of_build {d : Draft} {c : Cage} (h : d.build = .ok c) :
    c.selector.Distinct := by
  obtain ⟨hshared, hc⟩ := selector_of_build h
  rw [hc]
  intro mux hmux module hmodule hid
  unfold sharedGroup? at hshared
  rw [show d.mux = some mux from hmux, show d.module = some module from hmodule] at hshared
  simp [hid] at hshared

/-- The parts of an operation are let pass while no group is held. -/
theorem OperationPart.preserves {c : Cage} (hc : c.selector.Distinct) {A : Action → Prop}
    (hA : ∀ a, A a → a.IsOffPins) {α : Type} {p : Program α} (h : OperationPart c A α p) :
    p.Preserves (selecting c.selector) (· = []) := by
  cases h with
  | idle action ha =>
    exact preserves_of_isOffPins ha.isQuery.sparesPage.isOffPins (.inl ha)
  | read l => exact l.read_preserves
  | write l on => exact l.write_preserves on
  | session e he _ hbody => exact e.session_preserves hc he hA hbody

/-! ## Levels -/

/-- The pins have the levels that are noted of them. -/
def Agrees (holds : List Hold) (b : Bench) : Prop :=
  ∀ h ∈ holds, ∀ level, h.level = some level → (b.pin h.group.id).level = level

/-- Levels noted after a write that succeeded, or forgotten after one that failed, are true if they
were before. -/
theorem Agrees.writeLevel {holds : List Hold} {b : Bench} (h : Agrees holds b) (g : PinGroup)
    (level : UInt32) :
    Agrees (holds.map (.noted g (if (b.pin g.id).failAccess then none else some level)))
      (Bench.answer (.writeLevel g level) b).2 := by
  intro h' hh' l hl
  obtain ⟨h₀, hh₀, rfl⟩ := List.mem_map.mp hh'
  unfold Hold.noted at hl ⊢
  by_cases hid : h₀.group.id = g.id
  · rw [if_pos hid] at hl ⊢
    cases hf : (b.pin g.id).failAccess with
    | true => simp [hf] at hl
    | false => simpa [hf, Bench.answer, Bench.setPin, Pin.write, hid] using hl
  · rw [if_neg hid] at hl ⊢
    have hpin : (Bench.answer (.writeLevel g level) b).2.pin h₀.group.id = b.pin h₀.group.id :=
      if_neg hid
    rw [hpin]
    exact h h₀ hh₀ l hl

/-- What is noted of a pin group stays true. -/
theorem Agrees.step {holds holds' : List Hold} {b : Bench} (h : Agrees holds b) (action : Action)
    (hstep : holding holds ⟨action, (Bench.answer action b).1⟩ = some holds') :
    Agrees holds' (Bench.answer action b).2 := by
  cases action with
  | acquire g =>
    change Agrees holds' b
    generalize (Bench.answer (.acquire g) b).1 = reply at hstep
    cases reply with
    | ok _ =>
      obtain ⟨-, hstep⟩ := Option.ite_none_left_eq_some.mp hstep
      cases hstep
      rintro _ (_ | ⟨_, hh⟩) level hlevel
      · cases hlevel
      · exact h _ hh level hlevel
    | error _ =>
      obtain ⟨-, hstep⟩ := Option.ite_none_left_eq_some.mp hstep
      cases hstep
      exact h
  | release g =>
    change Agrees holds' b
    cases holds with
    | nil => cases hstep
    | cons last others =>
      obtain ⟨-, hstep⟩ := Option.ite_none_right_eq_some.mp hstep
      cases hstep
      exact fun h' hh' ↦ h h' (List.mem_cons_of_mem _ hh')
  | readLevel g =>
    obtain ⟨-, hstep⟩ := Option.ite_none_right_eq_some.mp hstep
    cases hstep
    exact h
  | writeLevel g level =>
    have hreply : (Bench.answer (.writeLevel g level) b).1 =
        if (b.pin g.id).failAccess then .error Pin.refusal else .ok () := by
      cases hf : (b.pin g.id).failAccess <;> simp [Bench.answer, Pin.write, hf]
    have hnoted := h.writeLevel g level
    rw [hreply] at hstep
    cases hf : (b.pin g.id).failAccess <;> rw [hf] at hstep hnoted
    · obtain ⟨-, hstep⟩ := Option.ite_none_right_eq_some.mp hstep
      cases hstep
      exact hnoted
    · obtain ⟨-, hstep⟩ := Option.ite_none_right_eq_some.mp hstep
      cases hstep
      exact hnoted
  | read _ _ _ | write _ _ _ | pause _ | log _ =>
    cases hstep
    exact h

/-- Along a trace what is noted of the pin groups stays true. -/
theorem Agrees.watch {t : Trace} {holds holds' : List Hold} {b : Bench} (h : Agrees holds b)
    (ht : t.Answered Bench.answer b) (hwatch : t.watch holding holds = some holds') :
    Agrees holds' (t.replay Bench.answer b) :=
  Trace.watch_keeps (fun _ _ h action _ hstep ↦ h.step action hstep) h ht hwatch

/-! ## Counting -/

@[simp] theorem Hold.group_noted (g : PinGroup) (level : Option UInt32) (h : Hold) :
    (h.noted g level).group = h.group := by
  unfold noted
  split <;> rfl

/-- An event moves a group between those acquired, those held and those released. -/
theorem count_holding {e : Event} {holds holds' : List Hold}
    (h : holding holds e = some holds') (g : PinGroup) :
    e.acquired?.toList.count g + (holds.map Hold.group).count g =
      e.released?.toList.count g + (holds'.map Hold.group).count g := by
  obtain ⟨action, reply⟩ := e
  cases action with
  | acquire g' =>
    cases reply with
    | ok _ =>
      obtain ⟨-, h⟩ := Option.ite_none_left_eq_some.mp h
      cases h
      simp [Event.acquired?, Event.released?, List.count_cons, Nat.add_comm]
    | error _ =>
      obtain ⟨-, h⟩ := Option.ite_none_left_eq_some.mp h
      cases h
      rfl
  | release g' =>
    cases holds with
    | nil => cases h
    | cons last others =>
      obtain ⟨hlast, h⟩ := Option.ite_none_right_eq_some.mp h
      cases h
      simp [hlast, Event.acquired?, Event.released?, List.count_cons, Nat.add_comm]
  | readLevel g' =>
    obtain ⟨-, h⟩ := Option.ite_none_right_eq_some.mp h
    cases h
    rfl
  | writeLevel g' level =>
    cases reply with
    | ok _ =>
      obtain ⟨-, h⟩ := Option.ite_none_right_eq_some.mp h
      cases h
      simp [Event.acquired?, Event.released?, Function.comp_def]
    | error _ =>
      obtain ⟨-, h⟩ := Option.ite_none_right_eq_some.mp h
      cases h
      simp [Event.acquired?, Event.released?, Function.comp_def]
  | read _ _ _ | write _ _ _ | pause _ | log _ =>
    cases h
    rfl

/-- What is acquired is released, but for what is held. -/
theorem acquired_eq_released {t : Trace} {holds holds' : List Hold}
    (h : t.watch holding holds = some holds') (g : PinGroup) :
    (t.use g).acquired + (holds.map Hold.group).count g =
      (t.use g).released + (holds'.map Hold.group).count g := by
  induction t generalizing holds with
  | nil =>
    cases h
    rfl
  | cons e t ih =>
    rw [Trace.watch_cons] at h
    obtain ⟨holds₁, hstep, h⟩ := Option.bind_eq_some_iff.mp h
    have hcons (f : Event → Option PinGroup) :
        ((e :: t).filterMap f).count g = (f e).toList.count g + (t.filterMap f).count g := by
      cases hf : f e <;> simp [hf, List.count_cons, Nat.add_comm]
    have hrest := ih h
    have hfirst := count_holding hstep g
    unfold Trace.use Trace.released at hrest ⊢
    dsimp only at hrest ⊢
    rw [hcons, hcons]
    omega

/-! ## Main statement -/

/-- What the trace of an operation has to be, on a module that is selected by `s`, from a bench. -/
structure WellBracketed (s : Selector) (b : Bench) (t : Trace) : Prop where
  /-- Groups are taken and given back by the rules, and none is held in the end. -/
  holds : t.watch holding [] = some []
  /-- Every group is given back as often as it is taken. -/
  balanced : ∀ g, (t.use g).acquired = (t.use g).released
  /-- At a transaction every group that selects the module is held, and at its level. -/
  selected : ∀ (past : Trace) e future, t = past ++ e :: future → e.action.transaction? ≠ none →
    ∀ target ∈ s.targets,
      (∃ holds, past.watch holding [] = some holds ∧ target.group ∈ holds.map Hold.group) ∧
        ((past.replay Bench.answer b).pin target.group.id).level = target.value

/-- A program made of the parts of an operation is well bracketed. -/
theorem Program.MadeOf.wellBracketed {c : Cage} (hc : c.selector.Distinct) {A : Action → Prop}
    (hA : ∀ a, A a → a.IsOffPins) {α : Type} {p : Program α} (h : p.MadeOf (OperationPart c A))
    (b : Bench) : WellBracketed c.selector b (p.trace Bench.answer b) := by
  have hpasses := h.preserves (fun β q hq ↦ hq.preserves hc hA) [] rfl
  obtain ⟨_, hwatch, rfl⟩ := hpasses.watch_trace Bench.answer b
  have hholding := Trace.watch_of_imp (fun _ _ _ ↦ holding_of_selecting) hwatch
  refine ⟨hholding, fun g ↦ by simpa using acquired_eq_released hholding g, ?_⟩
  intro past e future hsplit he target htarget
  have hanswered := p.answered_trace Bench.answer b
  rw [hsplit] at hwatch hanswered
  obtain ⟨holds, _, hpast, hstep⟩ := Trace.watch_split hwatch
  have hpast := Trace.watch_of_imp (fun _ _ _ ↦ holding_of_selecting) hpast
  have hmem := selects_of_selecting hstep he target htarget
  refine ⟨⟨holds, hpast, List.mem_map_of_mem hmem⟩, ?_⟩
  have hagrees : Agrees [] b := by simp [Agrees]
  exact hagrees.watch hanswered.of_append hpast _ hmem _ rfl

section Cage

variable {σ : Type} (env : Environment σ) (x : σ)

theorem keeping_value {δ α : Type} (d : δ) (p : Procedure α) :
    ((keeping d p).value env x).2 = d := by
  unfold keeping
  rw [Program.bind_eq, Program.value_bind]
  rfl

/-- What is found of a module leaves the cage as it is. -/
theorem Qsfp.cage_moduleInit (q : Qsfp) (present : Bool) :
    ((q.moduleInit present).value env x).2.cage = q.cage := by
  cases present with
  | false =>
    dsimp only [moduleInit]
    rw [if_neg Bool.false_ne_true]
    split
    · rfl
    · rfl
  | true =>
    dsimp only [moduleInit]
    rw [if_pos rfl, Program.bind_eq, Program.value_bind]
    generalize q.discover.run.value env x = r
    cases r with
    | error e => rfl
    | ok found => rfl

theorem Qsfp.cage_perform (q : Qsfp) (op : Operation) :
    ((q.perform op).value env x).2.cage = q.cage := by
  cases op with
  | moduleInit present => exact q.cage_moduleInit env x present
  | _ => exact congrArg cage (keeping_value env x q _)

theorem SubPort.cage_perform (p : SubPort) (op : Operation) :
    ((p.perform op).value env x).2.inner.cage = p.inner.cage := by
  cases op with
  | moduleInit present =>
    dsimp only [perform]
    rw [Program.bind_eq, Program.value_bind]
    exact p.inner.cage_moduleInit env x present
  | _ => exact congrArg (fun p ↦ p.inner.cage) (keeping_value env x p _)

/-- An operation leaves a driver on its cage. -/
theorem Driver.cage_perform (v : Driver) (op : Operation) :
    ((v.perform op).value env x).2.cage = v.cage := by
  cases v with
  | sfp d =>
    dsimp only [perform]
    rw [Program.bind_eq, Program.value_bind]
    exact congrArg Sfp.cage (keeping_value env x d _)
  | qsfp d =>
    dsimp only [perform]
    rw [Program.bind_eq, Program.value_bind]
    exact d.cage_perform env x op
  | subPort d =>
    dsimp only [perform]
    rw [Program.bind_eq, Program.value_bind]
    exact d.cage_perform env x op

end Cage

/-- On every cage that a draft makes, each operation of a driver in any state, from any state of the
segment and the pin groups, is well bracketed, and leaves the driver on the cage.  So is running
packets. -/
theorem operation_wellBracketed {d : Draft} {v : Driver} (hv : d.build = .ok v.cage) (b : Bench) :
    (∀ op, WellBracketed v.cage.selector b ((v.perform op).trace Bench.answer b) ∧
      ((v.perform op).value Bench.answer b).2.cage = v.cage) ∧
    ∀ ps, WellBracketed v.cage.selector b ((v.chain ps).trace Bench.answer b) := by
  have hdistinct := Draft.distinct_of_build hv
  refine ⟨fun op ↦ ⟨?_, v.cage_perform _ b op⟩, fun ps ↦ ?_⟩
  · exact (v.perform_madeOf op).wellBracketed hdistinct (fun _ ha ↦ ha.isOffPins) b
  · exact (v.chain_madeOf ps).wellBracketed hdistinct (fun _ ↦ Action.SparesPage.isOffPins) b

/-- A cage behind a mux, whose module select group refuses all accesses. -/
theorem operation_wellBracketed_stuck_module :
    let mux : PinGroup := ⟨"mux", 1⟩
    let module : PinGroup := ⟨"modsel", 2⟩
    let d : Draft := {
      name := "port0", family := .sfp, presence := some ⟨⟨"presence", 0⟩, 3⟩,
      mux := some ⟨mux, 5⟩, module := some ⟨module, 1⟩ }
    let b := (Bench.blank.setPin 0 (.ofLevel 8)).setPin 2 ⟨0, false, true⟩
    ∃ c, d.build = .ok c ∧
      WellBracketed c.selector b
        (((Driver.sfp (.ofCage c)).perform .transceiverCode).trace Bench.answer b) := by
  intro mux module d b
  refine ⟨_, rfl, ?_⟩
  exact ((operation_wellBracketed (d := d) (v := .sfp (.ofCage _)) rfl b).1 .transceiverCode).1

end Transceiver
