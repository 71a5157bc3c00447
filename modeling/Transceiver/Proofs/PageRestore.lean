import Transceiver.Proofs.Conduct.Driver
import Transceiver.Proofs.Transactions

/-!
# Back to page zero

The upper memory of a module is read without a page by most accesses, which therefore rely on page
zero.  Main statement: whatever operations are done on a segment, by whatever drivers and with
whatever transactions failing, every module shows page zero after each of them.

The faults stay as they are during an operation, so that a page that could be selected can be left
as well.
-/

namespace Transceiver

/-! ## Pages of a segment -/

namespace Segment

/-- The page that a module shows. -/
def page? (s : Segment) (address : UInt8) : Option UInt8 :=
  (s.module? address).map ModuleMemory.currentPage

/-- The modules show the same pages, and the same transactions go wrong. -/
structure SamePages (s s' : Segment) : Prop where
  page : ∀ address, s'.page? address = s.page? address
  faults : s'.faults = s.faults

namespace SamePages

variable {s s' s'' : Segment}

theorem refl (s : Segment) : SamePages s s := ⟨fun _ ↦ rfl, rfl⟩

theorem trans (h : SamePages s s') (h' : SamePages s' s'') : SamePages s s'' :=
  ⟨fun a ↦ (h'.page a).trans (h.page a), h'.faults.trans h.faults⟩

theorem atHome (h : SamePages s s') (hs : s.AtHome) : s'.AtHome := fun a ↦
  (congrArg (·.getD 0) (h.page a)).trans (hs a)

end SamePages

variable {s : Segment}

theorem page?_of_atHome (h : s.AtHome) (address : UInt8) :
    (s.page? address).map (fun _ ↦ (0 : UInt8)) = s.page? address := by
  have h : (s.page? address).getD 0 = 0 := h address
  cases hp : s.page? address with
  | none => rfl
  | some page =>
    rw [hp] at h
    exact congrArg some h.symm

/-- A module is replaced by one that shows some page. -/
theorem page?_setDevice (address : UInt8) (m : ModuleMemory) (a : UInt8) :
    (s.setDevice address (some (.memory m))).page? a =
      if a = address then some m.currentPage else s.page? a := by
  by_cases h : a = address <;> simp [page?, module?, setDevice, h]

/-- A module is replaced by one that shows the same page. -/
theorem samePages_setDevice {address : UInt8} {m m' : ModuleMemory}
    (h : s.device? address = some (.memory m)) (hm : m'.currentPage = m.currentPage) :
    SamePages s (s.setDevice address (some (.memory m'))) := by
  refine ⟨fun a ↦ ?_, rfl⟩
  rw [page?_setDevice]
  split
  · rename_i ha
    simp [page?, module?, ha, h, hm]
  · rfl

/-- A bank of registers has no page to show. -/
theorem samePages_setRegisters {address : UInt8} {bank bank' : RegisterBank}
    (h : s.device? address = some (.registers bank)) :
    SamePages s (s.setDevice address (some (.registers bank'))) := by
  refine ⟨fun a ↦ ?_, rfl⟩
  by_cases ha : a = address <;> simp [page?, module?, setDevice, ha, h]

theorem samePages_read (address offset : UInt8) (length : Nat) :
    SamePages s (s.read address offset length).2 := by
  unfold read
  split
  · exact .refl s
  · split
    · exact .refl s
    · rename_i m hm
      exact samePages_setDevice hm (m.currentPage_afterRead offset length)
    · exact .refl s

theorem samePages_write {address offset : UInt8} {data : List UInt8}
    (h : ¬ Covers offset data.length QsfpMap.pageSelect) :
    SamePages s (s.write address offset data).2 := by
  rcases s.write_cases address offset data with ⟨-, hw⟩ | ⟨-, ⟨m, hm, hw⟩ | ⟨bank, hbank, hw⟩⟩
  · rw [hw]
    exact .refl s
  · rw [hw]
    exact samePages_setDevice hm (m.currentPage_write _ h)
  · rw [hw]
    exact samePages_setRegisters hbank

/-- A write that is refused changes nothing. -/
theorem write_of_error {address offset : UInt8} {data : List UInt8} {fault : BusFault}
    (h : (s.write address offset data).1 = .error fault) :
    (s.write address offset data).2 = s := by
  rcases s.write_cases address offset data with ⟨-, hw⟩ | ⟨-, ⟨m, hm, hw⟩ | ⟨bank, hbank, hw⟩⟩
  · rw [hw]
  · rw [hw] at h
    cases h
  · rw [hw] at h
    cases h

theorem faults_write (address offset : UInt8) (data : List UInt8) :
    (s.write address offset data).2.faults = s.faults := by
  rcases s.write_cases address offset data with ⟨-, hw⟩ | ⟨-, ⟨m, hm, hw⟩ | ⟨bank, hbank, hw⟩⟩ <;>
    rw [hw] <;> rfl

/-- The faults of a segment let a page be selected. -/
def SelectsPage (f : Faults) (address : UInt8) : Prop :=
  touches f.writes address QsfpMap.pageSelect 1 = false ∧
    f.discards.contains ⟨address, QsfpMap.pageSelect⟩ = false

instance (f : Faults) (address : UInt8) : Decidable (SelectsPage f address) :=
  inferInstanceAs (Decidable (_ ∧ _))

/-- To select a page changes the page of that module, unless a fault prevents it. -/
theorem page?_write_pageSelect (address page a : UInt8) :
    (s.write address QsfpMap.pageSelect [page]).2.page? a =
      if a = address ∧ SelectsPage s.faults address then (s.page? a).map fun _ ↦ page
      else s.page? a := by
  rcases s.write_cases address QsfpMap.pageSelect [page] with
    ⟨ht | hnone, hw⟩ | ⟨ht, ⟨m, hm, hw⟩ | ⟨bank, hbank, hw⟩⟩ <;> rw [hw]
  · have : ¬ SelectsPage s.faults address := fun h ↦ by simp [h.1] at ht
    rw [if_neg fun h ↦ this h.2]
  · split
    · rename_i h
      simp [page?, module?, h.1, hnone]
    · rfl
  · rw [page?_setDevice, ModuleMemory.write_pageSelect]
    by_cases ha : a = address
    · have hp : s.page? a = some m.currentPage := by simp [page?, module?, ha, hm]
      have hs : SelectsPage s.faults address ↔ s.discards address QsfpMap.pageSelect = false :=
        ⟨fun h ↦ h.2, fun h ↦ ⟨ht, h⟩⟩
      rw [if_pos ha, hp]
      cases hd : s.discards address QsfpMap.pageSelect with
      | true => simp [ha, hs, hd]
      | false => simp [ha, hs, hd, ModuleMemory.currentPage]
    · rw [if_neg ha, if_neg fun h ↦ ha h.1]
  · rw [(samePages_setRegisters hbank).page a]
    split
    · rename_i h
      simp [page?, module?, h.1, hbank]
    · rfl

end Segment

/-! ## Programs -/

/-- What each part makes of a segment is made of it by the whole. -/
theorem Program.MadeOf.segment_rel {R : Segment → Segment → Prop} (hrefl : ∀ s, R s s)
    (htrans : ∀ {s s' s''}, R s s' → R s' s'' → R s s'') {part : Parts} {α : Type}
    {p : Program α} (h : p.MadeOf part)
    (hpart : ∀ (β : Type) (q : Program β), part β q →
      ∀ b, R b.segment (q.final Bench.answer b).segment) (b : Bench) :
    R b.segment (p.final Bench.answer b).segment :=
  h.final_rel (R := fun b b' : Bench ↦ R b.segment b'.segment) (fun b ↦ hrefl b.segment) htrans
    hpart b

/-- An action that spares the byte that selects a page leaves all pages as they are. -/
theorem Action.samePages_answer {action : Action}
    (h : action.IsOffBus ∨ action.SparesPage) (b : Bench) :
    b.segment.SamePages (Bench.answer action b).2.segment := by
  cases action with
  | read address offset length => exact Segment.samePages_read address offset length
  | write address offset data => exact Segment.samePages_write (h.resolve_left nofun)
  | _ => exact .refl _

/-- Single actions that spare the byte that selects a page leave all pages as they are. -/
theorem Program.MadeOf.samePages {A : Action → Prop}
    (hA : ∀ a, A a → a.IsOffBus ∨ a.SparesPage) {α : Type} {p : Program α}
    (h : p.MadeOf (Single A)) (b : Bench) :
    b.segment.SamePages (p.final Bench.answer b).segment := by
  refine h.segment_rel .refl .trans (fun β q hq b ↦ ?_) b
  cases hq with
  | perform action ha => exact Action.samePages_answer (hA _ ha) b

/-- What is kept from the start to the end of an operation: modules that show page zero go on to do
so, and the faults stay as they are. -/
def Segment.StaysHome (s s' : Segment) : Prop := s'.faults = s.faults ∧ (s.AtHome → s'.AtHome)

namespace Segment.StaysHome

variable {s s' s'' : Segment}

theorem refl (s : Segment) : StaysHome s s := ⟨rfl, id⟩

theorem trans (h : StaysHome s s') (h' : StaysHome s' s'') : StaysHome s s'' :=
  ⟨h'.1.trans h.1, fun hs ↦ h'.2 (h.2 hs)⟩

theorem of_samePages (h : SamePages s s') : StaysHome s s' := ⟨h.faults, h.atHome⟩

end Segment.StaysHome

namespace Selected

variable (device page : UInt8)

/-- To go to page zero keeps modules there. -/
theorem staysHome_home (b : Bench) : b.segment.StaysHome (turned device 0 b).segment := by
  refine ⟨Segment.faults_write _ _ _, fun h a ↦ ?_⟩
  change ((turned device 0 b).segment.page? a).getD 0 = 0
  unfold turned
  rw [Segment.page?_write_pageSelect, b.segment.page?_of_atHome h]
  split
  · exact h a
  · exact h a

/-- A page that is selected for the length of a procedure that leaves pages alone is left again. -/
theorem staysHome_onPage {α : Type} {body : Procedure α}
    (hbody : ∀ b : Bench, b.segment.SamePages (body.run.final Bench.answer b).segment)
    (b : Bench) :
    b.segment.StaysHome ((onPage device page body).run.final Bench.answer b).segment := by
  cases hselect : (b.segment.write device QsfpMap.pageSelect [page]).1 with
  | error fault =>
    rw [final_onPage_of_error body hselect]
    unfold turned
    rw [Segment.write_of_error hselect]
    exact .refl _
  | ok _ =>
    have hsame := hbody (turned device page b)
    have hfaults : (body.run.final Bench.answer (turned device page b)).segment.faults =
        b.segment.faults := hsame.faults.trans (Segment.faults_write _ _ _)
    rw [final_onPage body hselect]
    refine ⟨(Segment.faults_write _ _ _).trans hfaults, fun h a ↦ ?_⟩
    change (Segment.page? (Segment.write _ _ _ _).2 a).getD 0 = 0
    -- the page is left if it was selected: the faults are those that it was selected under
    rw [Segment.page?_write_pageSelect, hfaults, hsame.page a]
    unfold turned
    rw [Segment.page?_write_pageSelect]
    by_cases hc : a = device ∧ Segment.SelectsPage b.segment.faults device
    · rw [if_pos hc, if_pos hc]
      cases b.segment.page? a <;> rfl
    · rw [if_neg hc, if_neg hc]
      exact h a

end Selected

/-- The parts of a session keep modules on page zero. -/
theorem SessionPart.staysHome {A : Action → Prop}
    (hA : ∀ a, A a → a.IsOffBus ∨ a.SparesPage) {α : Type} {p : Program α}
    (h : SessionPart A α p) (b : Bench) :
    b.segment.StaysHome (p.final Bench.answer b).segment := by
  cases h with
  | single action ha => exact .of_samePages (Action.samePages_answer (hA _ ha) b)
  | home device =>
    rw [Selected.final_selectPage]
    exact Selected.staysHome_home device b
  | onPage device page hbody =>
    exact Selected.staysHome_onPage device page (fun b ↦ hbody.samePages hA b) b

/-- An operation that asks for no raw write to the byte that selects a page keeps modules on page
zero. -/
theorem Driver.staysHome (v : Driver) {op : Operation} (hop : op.SparesPage) (b : Bench) :
    b.segment.StaysHome ((v.perform op).final Bench.answer b).segment := by
  have made : (v.perform op).MadeOf (SessionPart fun a ↦ a.IsOffBus ∨ op.Allows a) :=
    (v.perform_madeOf op).trans fun _ _ hp ↦ hp.madeOf_sessionPart
  refine made.segment_rel .refl .trans (fun β q hq b ↦ hq.staysHome ?_ b) b
  exact fun a ha ↦ ha.imp_right fun h ↦ h.sparesPage hop

/-! ## Runs -/

/-- A segment with the drivers that work on it. -/
structure Host where
  bench : Bench
  driver : Nat → Driver

/-- An operation of one of the drivers, with what goes wrong in the surroundings meanwhile. -/
structure Turn where
  faults : Faults
  pins : Nat → Pin
  port : Nat
  op : Operation

namespace Host

/-- The bench during a turn. -/
def during (h : Host) (t : Turn) : Bench :=
  ⟨{ h.bench.segment with faults := t.faults }, t.pins⟩

/-- The host after a turn. -/
def turn (h : Host) (t : Turn) : Host :=
  let p := (h.driver t.port).perform t.op
  { bench := p.final Bench.answer (h.during t)
    driver := fun port ↦
      if port = t.port then (p.value Bench.answer (h.during t)).2 else h.driver port }

/-- The host after some turns, in order. -/
def run (h : Host) (ts : List Turn) : Host := ts.foldl turn h

theorem atHome_turn {h : Host} (hh : h.bench.segment.AtHome) {t : Turn} (ht : t.op.SparesPage) :
    (h.turn t).bench.segment.AtHome := by
  have hduring : (h.during t).segment.AtHome := hh
  exact ((h.driver t.port).staysHome ht (h.during t)).2 hduring

theorem atHome_run {h : Host} (hh : h.bench.segment.AtHome) {ts : List Turn}
    (hts : ∀ t ∈ ts, t.op.SparesPage) : (h.run ts).bench.segment.AtHome := by
  induction ts generalizing h with
  | nil => exact hh
  | cons t ts ih =>
    have hturn : (h.turn t).bench.segment.AtHome := atHome_turn hh (hts t List.mem_cons_self)
    exact ih hturn fun t' ht' ↦ hts t' (List.mem_cons_of_mem _ ht')

/-- Whatever operations are done, by whatever drivers and with whatever going wrong, all modules
show page zero after each of them.  Only raw writes to the byte that selects a page are excepted. -/
theorem pages_restored {h : Host} (hh : h.bench.segment.AtHome) {ts : List Turn}
    (hts : ∀ t ∈ ts, t.op.SparesPage) :
    ∀ done, done <+: ts → ∀ address, (h.run done).bench.segment.currentPage address = 0 := by
  rintro done ⟨rest, rfl⟩
  exact atHome_run hh fun t ht ↦ hts t (List.mem_append_left _ ht)

/-- A paged write that fails half way, and then a threshold, on a bus of two modules. -/
theorem pages_restored_failed_write :
    let c : Cage := {
      instanceId := 0, name := "port0", family := .qsfp, portType := .qsfp, address := 0x50
      selector := ⟨none, none⟩, selectDelay := .zero, presence := ⟨⟨"presence", 0⟩, 0⟩
      reset := none, resetDelay := .zero, lowPower := none, txControl := none, rxLoss := none
      txFault := none, portLed := none, defaultSpeedMbps := none, channelOffset := 0
      maxPowerMw := 3500 }
    let h : Host := ⟨⟨(Segment.blank.addModule 0x50).addModule 0x51, fun _ ↦ .ofLevel 1⟩,
      fun port ↦ if port = 0 then .qsfp (.ofCage c) else .sfp (.ofCage c)⟩
    let failed : Turn := ⟨⟨[], [⟨0x50, 130⟩], []⟩, fun _ ↦ .ofLevel 1, 0,
      .writeGeneric (.paged 3 130) [1, 2]⟩
    let next : Turn := ⟨⟨[], [], [⟨0x50, 127⟩]⟩, fun _ ↦ .ofLevel 1, 1,
      .threshold ⟨.temperature, .highAlarm⟩⟩
    h.bench.segment.AtHome ∧ failed.op.SparesPage ∧ next.op.SparesPage ∧
      (h.run [failed]).bench.segment.currentPage 0x50 = 0 ∧
      (h.run [failed, next]).bench.segment.currentPage 0x50 = 0 := by
  intro c h failed next
  have hh : h.bench.segment.AtHome := by
    intro a
    by_cases h₁ : a = 0x51 <;> by_cases h₀ : a = 0x50 <;>
      simp [h, Segment.currentPage, Segment.module?, Segment.addModule, Segment.setDevice,
        Segment.blank, h₀, h₁] <;> rfl
  have hfailed : failed.op.SparesPage := by
    change ¬ Covers _ _ _
    decide
  have hnext : next.op.SparesPage := trivial
  have hts : ∀ t ∈ [failed, next], t.op.SparesPage := by
    rintro t (_ | ⟨_, _ | ⟨_, ⟨⟩⟩⟩)
    · exact hfailed
    · exact hnext
  refine ⟨hh, hfailed, hnext, ?_, ?_⟩
  · exact pages_restored hh hts [failed] ⟨[next], rfl⟩ 0x50
  · exact pages_restored hh hts [failed, next] ⟨[], rfl⟩ 0x50

end Host

end Transceiver
