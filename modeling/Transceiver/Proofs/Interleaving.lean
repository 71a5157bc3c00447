import Mathlib.Data.List.Induction
import Mathlib.Logic.Function.Basic
import Transceiver.Proofs.Selection

/-!
# Interleaved operations

Drivers of modules that share a bus run their operations side by side.  An action of one may come
between any two of another; the only rule is that who asks for a group that is held has to wait.

Main statement: whatever the order in which the tasks take their turns, a task that accesses the
bus holds every group that selects its module, at its level, and no other task accesses the bus
through a group from the moment it is taken until it is given back.
-/

namespace Transceiver

/-! ## Logs -/

/-- What tasks did on a bench and by whom it was done, in order. -/
abbrev Log (ι : Type) := List (ι × Event)

namespace Log

variable {ι : Type}

/-- Who holds each group after an event. -/
def noted (holder : Nat → Option ι) (x : ι × Event) : Nat → Option ι :=
  match x.2.acquired?, x.2.released? with
  | some g, _ => Function.update holder g.id (some x.1)
  | none, some g => Function.update holder g.id none
  | none, none => holder

/-- The task that holds a group. -/
def holder (log : Log ι) : Nat → Option ι := log.foldl noted fun _ ↦ none

/-- The bench that the events lead to. -/
def bench (log : Log ι) (b : Bench) : Bench := Trace.replay Bench.answer (log.map Prod.snd) b

section Noted

variable {holder : Nat → Option ι} {i : ι} {e : Event} {g : PinGroup}

theorem noted_of_acquired (h : e.acquired? = some g) :
    noted holder (i, e) = Function.update holder g.id (some i) := by
  unfold noted
  rw [h]

theorem noted_of_released (h : e.acquired? = none) (h' : e.released? = some g) :
    noted holder (i, e) = Function.update holder g.id none := by
  unfold noted
  rw [h, h']

theorem noted_of_none (h : e.acquired? = none) (h' : e.released? = none) :
    noted holder (i, e) = holder := by
  unfold noted
  rw [h, h']

end Noted

theorem holder_concat (log : Log ι) (x : ι × Event) :
    (log ++ [x]).holder = noted log.holder x := List.foldl_append

theorem bench_concat (log : Log ι) (x : ι × Event) (b : Bench) :
    (log ++ [x]).bench b = (Bench.answer x.2.action (log.bench b)).2 := by
  simp [bench, Trace.replay]

/-- What holds wherever a log is split at an event holds so of a longer log if it does at the last
event. -/
theorem forall_split_concat {log : Log ι} {x : ι × Event} {P : Log ι → ι × Event → Prop}
    (h : ∀ past y future, log = past ++ y :: future → P past y) (hx : P log x) :
    ∀ past y future, log ++ [x] = past ++ y :: future → P past y := by
  intro past y future hsplit
  rcases List.eq_nil_or_concat future with rfl | ⟨future, z, rfl⟩
  · obtain ⟨rfl, hy⟩ := List.append_inj' hsplit rfl
    cases hy
    exact hx
  · rw [List.concat_eq_append, ← List.cons_append, ← List.append_assoc] at hsplit
    exact h past y future (List.append_inj' hsplit rfl).1

end Log

/-! ## Tasks -/

/-- Tasks on a bench. -/
structure Tasks (ι α : Type) where
  bench : Bench
  log : Log ι
  /-- What each task has yet to do. -/
  rest : ι → Program α

namespace Tasks

variable {ι α : Type}

/-- Tasks before the first action. -/
def start (b : Bench) (p : ι → Program α) : Tasks ι α := ⟨b, [], p⟩

/-- Whether an action has to wait, as one for a group that is held has. -/
def blocks (log : Log ι) : Action → Bool
  | .acquire g => (log.holder g.id).isSome
  | _ => false

variable [DecidableEq ι]

/-- The turn of a task, in which it does its next action unless that has to wait. -/
def turn (t : Tasks ι α) (i : ι) : Tasks ι α :=
  match t.rest i with
  | .done _ => t
  | .ask action next =>
    if blocks t.log action then t
    else
      let (reply, bench) := Bench.answer action t.bench
      ⟨bench, t.log ++ [(i, ⟨action, reply⟩)], Function.update t.rest i (next reply)⟩

/-- Tasks take turns. -/
def run (t : Tasks ι α) (schedule : List ι) : Tasks ι α := schedule.foldl turn t

/-- In a turn a task does its next action, or nothing. -/
theorem turn_cases (t : Tasks ι α) (i : ι) :
    t.turn i = t ∨ ∃ action next, t.rest i = .ask action next ∧ blocks t.log action = false ∧
      t.turn i = ⟨(Bench.answer action t.bench).2,
        t.log ++ [(i, ⟨action, (Bench.answer action t.bench).1⟩)],
        Function.update t.rest i (next (Bench.answer action t.bench).1)⟩ := by
  unfold turn
  split
  · exact .inl rfl
  · rename_i action next hrest
    split
    · exact .inl rfl
    · rename_i hblocks
      exact .inr ⟨action, next, hrest, Bool.eq_false_iff.mpr hblocks, rfl⟩

/-- What observers of the tasks note stays related to the bench and the log if it does so at each
action that they let pass. -/
theorem run_invariant {S : Type} {m : ι → Observer S} {Q : ι → α → S → Prop}
    {R : Bench → Log ι → (ι → S) → Prop}
    (hact : ∀ b log x i action x', blocks log action = false →
      m i (x i) ⟨action, (Bench.answer action b).1⟩ = some x' → R b log x →
      R (Bench.answer action b).2 (log ++ [(i, ⟨action, (Bench.answer action b).1⟩)])
        (Function.update x i x'))
    {t : Tasks ι α} {x : ι → S} (hpasses : ∀ i, (t.rest i).Passes (m i) (x i) (Q i))
    (hR : R t.bench t.log x) (schedule : List ι) :
    ∃ x', (∀ i, ((t.run schedule).rest i).Passes (m i) (x' i) (Q i)) ∧
      R (t.run schedule).bench (t.run schedule).log x' := by
  induction schedule generalizing t x with
  | nil => exact ⟨x, hpasses, hR⟩
  | cons i schedule ih =>
    change ∃ x', (∀ j, (((t.turn i).run schedule).rest j).Passes (m j) (x' j) (Q j)) ∧
      R ((t.turn i).run schedule).bench ((t.turn i).run schedule).log x'
    rcases t.turn_cases i with hturn | ⟨action, next, hrest, hblocks, hturn⟩
    · rw [hturn]
      exact ih hpasses hR
    · have hi := hpasses i
      rw [hrest] at hi
      obtain ⟨x', hx', hnext⟩ := hi (Bench.answer action t.bench).1
      rw [hturn]
      refine ih (x := Function.update x i x') (fun j ↦ ?_) (hact _ _ _ _ _ _ hblocks hx' hR)
      by_cases hj : j = i
      · subst hj
        simpa using hnext
      · simpa [Function.update_of_ne hj] using hpasses j

end Tasks

/-! ## What is held -/

/-- The numbers of the groups held. -/
def heldIds (holds : List Hold) : List Nat := holds.map fun h ↦ h.group.id

theorem held_iff {holds : List Hold} {g : PinGroup} : Held holds g ↔ g.id ∈ heldIds holds := by
  simp [Held, heldIds]

theorem heldIds_noted (holds : List Hold) (g : PinGroup) (level : Option UInt32) :
    heldIds (holds.map (.noted g level)) = heldIds holds := by
  simp [heldIds]

/-- What an event does to the groups that its task holds: it takes one that is not held, gives one
back, or leaves them as they are. -/
theorem heldIds_holding {holds holds' : List Hold} {e : Event}
    (h : holding holds e = some holds') :
    (∃ g, e.acquired? = some g ∧ g.id ∉ heldIds holds ∧ heldIds holds' = g.id :: heldIds holds) ∨
    (∃ g, e.acquired? = none ∧ e.released? = some g ∧ heldIds holds = g.id :: heldIds holds') ∨
    e.acquired? = none ∧ e.released? = none ∧ heldIds holds' = heldIds holds := by
  obtain ⟨action, reply⟩ := e
  cases action with
  | acquire g =>
    cases reply with
    | ok _ =>
      obtain ⟨hg, h⟩ := Option.ite_none_left_eq_some.mp h
      cases h
      exact .inl ⟨g, rfl, mt held_iff.mpr hg, rfl⟩
    | error _ =>
      obtain ⟨-, h⟩ := Option.ite_none_left_eq_some.mp h
      cases h
      exact .inr (.inr ⟨rfl, rfl, rfl⟩)
  | release g =>
    cases holds with
    | nil => cases h
    | cons last others =>
      obtain ⟨hlast, h⟩ := Option.ite_none_right_eq_some.mp h
      cases h
      cases hlast
      exact .inr (.inl ⟨last.group, rfl, rfl, rfl⟩)
  | readLevel g =>
    obtain ⟨-, h⟩ := Option.ite_none_right_eq_some.mp h
    cases h
    exact .inr (.inr ⟨rfl, rfl, rfl⟩)
  | writeLevel g level =>
    cases reply with
    | ok _ | error _ =>
      obtain ⟨-, h⟩ := Option.ite_none_right_eq_some.mp h
      cases h
      exact .inr (.inr ⟨rfl, rfl, heldIds_noted _ _ _⟩)
  | read _ _ _ | write _ _ _ | pause _ | log _ =>
    cases h
    exact .inr (.inr ⟨rfl, rfl, rfl⟩)

/-- A level is written only to a group that is held. -/
theorem mem_heldIds_of_writeLevel {holds holds' : List Hold} {g : PinGroup} {level : UInt32}
    {reply : Except PinFault Unit}
    (h : holding holds ⟨.writeLevel g level, reply⟩ = some holds') : g.id ∈ heldIds holds := by
  cases reply with
  | ok _ | error _ => exact held_iff.mp (Option.ite_none_right_eq_some.mp h).1

/-- Only writing its level changes a group of the bench. -/
theorem Bench.pin_answer {action : Action} {id : Nat}
    (h : ∀ g level, action = .writeLevel g level → g.id ≠ id) (b : Bench) :
    (answer action b).2.pin id = b.pin id := by
  cases action with
  | writeLevel g level => exact if_neg (h g level rfl).symm
  | _ => rfl

/-! ## Order among tasks -/

/-- What the tasks hold is what the log tells, no group is held twice, and the levels noted are
those of the bench. -/
structure Orderly {ι : Type} (b : Bench) (log : Log ι) (holds : ι → List Hold) : Prop where
  holder : ∀ i id, log.holder id = some i ↔ id ∈ heldIds (holds i)
  nodup : ∀ i, (heldIds (holds i)).Nodup
  agrees : ∀ i, Agrees (holds i) b

namespace Orderly

variable {ι : Type} {b : Bench} {log : Log ι} {holds : ι → List Hold} (h : Orderly b log holds)

/-- Nothing is held before the first action. -/
theorem start (b : Bench) : Orderly b ([] : Log ι) fun _ ↦ [] :=
  ⟨fun _ _ ↦ ⟨nofun, nofun⟩, fun _ ↦ .nil, fun _ ↦ nofun⟩

include h

/-- Two tasks do not hold the same group. -/
theorem eq_of_mem {i j : ι} {id : Nat} (hi : id ∈ heldIds (holds i))
    (hj : id ∈ heldIds (holds j)) : i = j :=
  Option.some_inj.mp (((h.holder i id).mpr hi).symm.trans ((h.holder j id).mpr hj))

/-- The groups that select a module are held by its task, and at their levels. -/
theorem of_selects {sel : Selector} {i : ι} (hsel : sel.Selects (holds i)) {t : SelectTarget}
    (ht : t ∈ sel.targets) :
    log.holder t.group.id = some i ∧ (b.pin t.group.id).level = t.value :=
  ⟨(h.holder i _).mpr (List.mem_map_of_mem (hsel t ht)), h.agrees i _ (hsel t ht) _ rfl⟩

variable {i : ι} {action : Action} {holds' : List Hold}
  (hstep : holding (holds i) ⟨action, (Bench.answer action b).1⟩ = some holds')
include hstep

theorem nodup_act : (heldIds holds').Nodup := by
  have hnodup := h.nodup i
  rcases heldIds_holding hstep with ⟨g, -, hfree, hids⟩ | ⟨g, -, -, hids⟩ | ⟨-, -, hids⟩
  · rw [hids]
    exact List.nodup_cons.mpr ⟨hfree, hnodup⟩
  · rw [hids] at hnodup
    exact (List.nodup_cons.mp hnodup).2
  · rw [hids]
    exact hnodup

/-- A group that an action gives back is one that its task holds. -/
theorem holder_of_released {g : PinGroup}
    (hg : (⟨action, (Bench.answer action b).1⟩ : Event).released? = some g) :
    log.holder g.id = some i := by
  rw [h.holder]
  rcases heldIds_holding hstep with ⟨g', hg', -, -⟩ | ⟨g', -, hg', hids⟩ | ⟨-, hnone, -⟩
  · cases action with
    | release g'' => cases hg'
    | _ => cases hg
  · cases hg.symm.trans hg'
    simp [hids]
  · cases hg.symm.trans hnone

variable [DecidableEq ι] (hblocks : Tasks.blocks log action = false)
include hblocks

omit h hstep [DecidableEq ι] in
/-- A group that an action takes was free, if the action need not wait. -/
theorem holder_of_acquired {reply : action.Reply} {g : PinGroup}
    (hg : (⟨action, reply⟩ : Event).acquired? = some g) : log.holder g.id = none := by
  cases action with
  | acquire g' =>
    cases reply with
    | ok _ =>
      cases hg
      simpa [Tasks.blocks] using hblocks
    | error _ => cases hg
  | _ => cases hg

theorem holder_act (j : ι) (id : Nat) :
    Log.noted log.holder (i, ⟨action, (Bench.answer action b).1⟩) id = some j ↔
      id ∈ heldIds (Function.update holds i holds' j) := by
  have hj := h.holder j id
  rcases heldIds_holding hstep with
    ⟨g, hg, -, hids⟩ | ⟨g, hnone, hg, hids⟩ | ⟨hnone, hnone', hids⟩
  · -- a group that was free is held by the task now
    have hfree := holder_of_acquired hblocks hg
    rw [Log.noted_of_acquired hg]
    by_cases hid : id = g.id
    · subst hid
      rw [Function.update_self, Option.some_inj]
      by_cases hij : j = i
      · simp [hij, hids]
      · rw [hfree] at hj
        simpa [hij, Ne.symm hij] using hj
    · rw [Function.update_of_ne hid, hj]
      by_cases hij : j = i
      · simp [hij, hids, hid]
      · simp [hij]
  · -- a group that the task held is free now, since it was not held twice
    have hmine : log.holder g.id = some i := (h.holder i g.id).mpr (by simp [hids])
    have hnodup := h.nodup i
    rw [hids, List.nodup_cons] at hnodup
    rw [Log.noted_of_released hnone hg]
    by_cases hid : id = g.id
    · subst hid
      by_cases hij : j = i
      · simp [hij, hnodup.1]
      · rw [hmine, Option.some_inj] at hj
        simpa [hij, Ne.symm hij] using hj
    · rw [Function.update_of_ne hid, hj]
      by_cases hij : j = i
      · simp [hij, hids, hid]
      · simp [hij]
  · rw [Log.noted_of_none hnone hnone', hj]
    by_cases hij : j = i
    · simp [hij, hids]
    · simp [hij]

/-- An action that need not wait and is in order for its task is in order for all. -/
theorem act : Orderly (Bench.answer action b).2
    (log ++ [(i, ⟨action, (Bench.answer action b).1⟩)]) (Function.update holds i holds') := by
  refine ⟨fun j id ↦ ?_, fun j ↦ ?_, fun j ↦ ?_⟩
  · rw [Log.holder_concat]
    exact h.holder_act hstep hblocks j id
  · by_cases hij : j = i
    · subst hij
      simpa using h.nodup_act hstep
    · simpa [hij] using h.nodup j
  · by_cases hij : j = i
    · subst hij
      simpa using (h.agrees j).step action hstep
    · -- the levels of what another task holds are not written
      rw [Function.update_of_ne hij]
      intro held hheld level hlevel
      have hid : held.group.id ∈ heldIds (holds j) := List.mem_map_of_mem hheld
      refine (congrArg Pin.level (Bench.pin_answer ?_ b)).trans (h.agrees j held hheld level hlevel)
      rintro g level rfl hg
      exact hij (h.eq_of_mem hid (hg ▸ mem_heldIds_of_writeLevel hstep))

end Orderly

/-! ## Exclusive selection -/

namespace Log

variable {ι : Type} {sel : ι → Selector} {b : Bench}

/-- What an event of a task is like after a log: only groups that are free are taken and only those
of the task are given back, and a transaction finds the module of the task selected by it. -/
structure Rightful (sel : ι → Selector) (b : Bench) (past : Log ι) (x : ι × Event) : Prop where
  acquired : ∀ g, x.2.acquired? = some g → past.holder g.id = none
  released : ∀ g, x.2.released? = some g → past.holder g.id = some x.1
  selected : x.2.action.transaction? ≠ none → ∀ t ∈ (sel x.1).targets,
    past.holder t.group.id = some x.1 ∧ ((past.bench b).pin t.group.id).level = t.value

/-- All events of the log are rightful. -/
def Exclusive (sel : ι → Selector) (b : Bench) (log : Log ι) : Prop :=
  ∀ past x future, log = past ++ x :: future → Rightful sel b past x

/-- A task gives a group back nowhere in a log. -/
def Keeps (i : ι) (g : PinGroup) (log : Log ι) : Prop :=
  ∀ g', (i, ⟨.release g', ()⟩) ∈ log → g'.id ≠ g.id

theorem eq_of_released {e : Event} {g : PinGroup} (h : e.released? = some g) :
    e = ⟨.release g, ()⟩ := by
  obtain ⟨action, reply⟩ := e
  cases action with
  | release g' =>
    cases h
    rfl
  | _ => cases h

namespace Exclusive

theorem nil : Exclusive sel b [] := fun past x future h ↦ by simp at h

variable {log past during future : Log ι} {i : ι} {g : PinGroup} (h : Exclusive sel b log)
include h

/-- A group that was taken is held until it is given back. -/
theorem holder_of_keeps
    (hlog : log = past ++ (i, ⟨.acquire g, .ok ()⟩) :: (during ++ future))
    (hkeeps : Keeps i g during) :
    (past ++ (i, ⟨.acquire g, .ok ()⟩) :: during).holder g.id = some i := by
  induction during using List.reverseRecOn generalizing future with
  | nil =>
    rw [holder_concat, noted_of_acquired rfl, Function.update_self]
  | append_singleton during x ih =>
    have hlog' : log = past ++ (i, ⟨.acquire g, .ok ()⟩) :: (during ++ x :: future) := by
      rw [hlog, List.append_assoc, List.singleton_append]
    have hx := h (past ++ (i, ⟨.acquire g, .ok ()⟩) :: during) x future (by simp [hlog'])
    have hheld := ih hlog' fun g' hg' ↦ hkeeps g' (List.mem_append_left _ hg')
    have hconcat : past ++ (i, ⟨.acquire g, .ok ()⟩) :: (during ++ [x]) =
        (past ++ (i, ⟨.acquire g, .ok ()⟩) :: during) ++ [x] := by simp
    rw [hconcat, holder_concat]
    obtain ⟨j, e⟩ := x
    cases hacquired : e.acquired? with
    | some g' =>
      have hne : g.id ≠ g'.id := fun hid ↦ by
        have hfree := hx.acquired g' hacquired
        rw [← hid, hheld] at hfree
        cases hfree
      rw [noted_of_acquired hacquired, Function.update_of_ne hne, hheld]
    | none =>
      cases hreleased : e.released? with
      | some g' =>
        have hne : g.id ≠ g'.id := fun hid ↦ by
          have hmine := hx.released g' hreleased
          rw [← hid, hheld] at hmine
          cases hmine
          rw [eq_of_released hreleased] at hkeeps
          exact hkeeps g' (List.mem_append_right _ List.mem_cons_self) hid.symm
        rw [noted_of_released hacquired hreleased, Function.update_of_ne hne, hheld]
      | none => rw [noted_of_none hacquired hreleased, hheld]

/-- While a group is held no other task accesses the bus through it. -/
theorem eq_of_keeps {j : ι} {e : Event}
    (hlog : log = past ++ (i, ⟨.acquire g, .ok ()⟩) :: (during ++ (j, e) :: future))
    (hkeeps : Keeps i g during) (he : e.action.transaction? ≠ none)
    (hg : ∃ t ∈ (sel j).targets, t.group.id = g.id) : j = i := by
  obtain ⟨t, ht, hid⟩ := hg
  have hj := h (past ++ (i, ⟨.acquire g, .ok ()⟩) :: during) (j, e) future (by simp [hlog])
  have hholder := (hj.selected he t ht).1
  rw [hid, h.holder_of_keeps hlog hkeeps] at hholder
  exact (Option.some_inj.mp hholder).symm

end Exclusive

end Log

/-! ## Runs -/

/-- An action of a task in whose sessions alone the bus is accessed is rightful. -/
theorem Orderly.rightful {ι : Type} {sel : ι → Selector} {b b' : Bench} {log : Log ι}
    {holds : ι → List Hold} {i : ι} {action : Action} {holds' : List Hold}
    (h : Orderly b' log holds) (hb : log.bench b = b') (hblocks : Tasks.blocks log action = false)
    (hstep : selecting (sel i) (holds i) ⟨action, (Bench.answer action b').1⟩ = some holds') :
    Log.Rightful sel b log (i, ⟨action, (Bench.answer action b').1⟩) := by
  have hholding := holding_of_selecting hstep
  refine ⟨fun g hg ↦ holder_of_acquired hblocks hg,
    fun g hg ↦ h.holder_of_released hholding hg, fun he t ht ↦ ?_⟩
  rw [hb]
  exact h.of_selects (selects_of_selecting hstep he) ht

namespace Tasks

variable {ι α : Type} [DecidableEq ι] {sel : ι → Selector} {b : Bench}

/-- Tasks that access the bus only while they have selected their modules do so exclusively. -/
theorem exclusive_run {p : ι → Program α} {Q : ι → α → List Hold → Prop}
    (hp : ∀ i, (p i).Passes (selecting (sel i)) [] (Q i)) (schedule : List ι) :
    Log.Exclusive sel b ((start b p).run schedule).log := by
  obtain ⟨holds, -, -, -, h⟩ := run_invariant (t := start b p)
    (R := fun b' log holds ↦ log.bench b = b' ∧ Orderly b' log holds ∧ Log.Exclusive sel b log)
    (fun b' log holds i action holds' hblocks hstep ⟨hb, horderly, hlog⟩ ↦
      ⟨by rw [Log.bench_concat, hb],
        horderly.act (holding_of_selecting hstep) hblocks,
        Log.forall_split_concat hlog (horderly.rightful hb hblocks hstep)⟩)
    hp ⟨rfl, .start b, .nil⟩ schedule
  exact h

end Tasks

/-! ## Drivers -/

namespace Program

variable {S α : Type} {m : Observer S} {p : Program α}

/-- Whatever the first reply is, the rest returns what the whole may return. -/
theorem Returns.next {action : Action} {next : action.Reply → Program α} {Q : α → Prop}
    (h : (Program.ask action next).Returns Q) (reply : action.Reply) : (next reply).Returns Q := by
  intro σ env s
  -- surroundings that give this reply once, and go on as the others
  let env' : Environment (Option σ) := fun a x ↦
    x.elim (if ha : a = action then ha ▸ reply else (env a s).1, some s)
      fun s ↦ ((env a s).1, some (env a s).2)
  have hrest (q : Program α) : ∀ s, q.value env' (some s) = q.value env s := by
    induction q with
    | done a => exact fun _ ↦ rfl
    | ask a next ih => exact fun s ↦ ih _ _
  have hreply : (env' action none).1 = reply := dif_pos rfl
  have hfirst := h (Option σ) env' none
  rw [value_ask, hreply] at hfirst
  exact hrest (next reply) s ▸ hfirst

/-- What passes an observer returns what it always returns. -/
theorem Passes.and_returns {s : S} {Q : α → S → Prop} {R : α → Prop} (h : p.Passes m s Q)
    (hR : p.Returns R) : p.Passes m s fun a s' ↦ Q a s' ∧ R a := by
  induction p generalizing s with
  | done a => exact ⟨h, hR Bench Bench.answer .blank⟩
  | ask action next ih =>
    intro reply
    obtain ⟨s', hs', hnext⟩ := h reply
    exact ⟨s', hs', ih reply hnext (hR.next reply)⟩

end Program

namespace Driver

/-- What operations return, in order, with the driver after them. -/
abbrev Outcome := List ((op : Operation) × Except Error op.Answer) × Driver

/-- A driver performs operations, one after the other. -/
def work (v : Driver) : List Operation → Program Outcome
  | [] => return ([], v)
  | op :: ops => do
    let (r, v) ← v.perform op
    let (rs, v) ← v.work ops
    return (⟨op, r⟩ :: rs, v)

theorem work_passes {v : Driver} {c : Cage} (hv : v.cage = c) (hc : c.selector.Distinct)
    (ops : List Operation) :
    (v.work ops).Passes (selecting c.selector) [] fun _ holds ↦ holds = [] := by
  induction ops generalizing v with
  | nil => rfl
  | cons op ops ih =>
    subst hv
    have hperform := (v.perform_madeOf op).preserves
      (fun _ _ hq ↦ hq.preserves hc fun _ ha ↦ ha.isOffPins) [] rfl
    have hcage : (v.perform op).Returns fun r ↦ r.2.cage = v.cage :=
      fun _ env s ↦ v.cage_perform env s op
    refine (hperform.and_returns hcage).bind ?_
    rintro ⟨r, v'⟩ _ ⟨rfl, hv'⟩
    exact (ih hv').bind fun _ _ hholds ↦ hholds

end Driver

end Transceiver
