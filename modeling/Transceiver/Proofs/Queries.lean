import Transceiver.Proofs.Discovery
import Transceiver.Proofs.Surfacing

/-!
# Queries leave no trace

A query selects the module, reads, and may select a page that it leaves again.  Main statement: on a
segment where every module shows page zero, whatever faults it has, queries in any number and order
change nothing but the levels of the groups that select the module, and each one returns what it
returns alone.

The page of a bank of registers, which has none, is left by writing zero to a register: only where
that holds zero before is nothing changed.  And the state of a mailbox is not read without a
change, so no query may ask for that byte by its place.
-/

namespace Transceiver

variable {α β : Type}

/-! ## Benches that are alike -/

namespace Selector

/-- The benches differ in the levels of groups that select the module, if in anything. -/
structure Alike (s : Selector) (b b' : Bench) : Prop where
  segment : b'.segment = b.segment
  pin : ∀ id, (∀ t ∈ s.targets, t.group.id ≠ id) → b'.pin id = b.pin id
  failAcquire : ∀ id, (b'.pin id).failAcquire = (b.pin id).failAcquire
  failAccess : ∀ id, (b'.pin id).failAccess = (b.pin id).failAccess

/-- The second bench is the first one, but that groups were set to select the module. -/
structure Reselected (s : Selector) (b b' : Bench) : Prop where
  segment : b'.segment = b.segment
  pin : ∀ id, b'.pin id = b.pin id ∨
    ∃ t ∈ s.targets, t.group.id = id ∧ b'.pin id = { b.pin id with level := t.value }

variable {s : Selector} {b b' b'' : Bench}

namespace Alike

theorem refl (b : Bench) : s.Alike b b := ⟨rfl, fun _ _ ↦ rfl, fun _ ↦ rfl, fun _ ↦ rfl⟩

theorem symm (h : s.Alike b b') : s.Alike b' b :=
  ⟨h.segment.symm, fun id hid ↦ (h.pin id hid).symm, fun id ↦ (h.failAcquire id).symm,
    fun id ↦ (h.failAccess id).symm⟩

theorem trans (h : s.Alike b b') (h' : s.Alike b' b'') : s.Alike b b'' :=
  ⟨h'.segment.trans h.segment, fun id hid ↦ (h'.pin id hid).trans (h.pin id hid),
    fun id ↦ (h'.failAcquire id).trans (h.failAcquire id),
    fun id ↦ (h'.failAccess id).trans (h.failAccess id)⟩

end Alike

namespace Reselected

theorem refl (b : Bench) : s.Reselected b b := ⟨rfl, fun _ ↦ .inl rfl⟩

theorem trans (h : s.Reselected b b') (h' : s.Reselected b' b'') : s.Reselected b b'' := by
  refine ⟨h'.segment.trans h.segment, fun id ↦ ?_⟩
  rcases h'.pin id with h₂ | ⟨t, ht, hid, h₂⟩
  · rw [h₂]
    exact h.pin id
  · refine .inr ⟨t, ht, hid, h₂.trans ?_⟩
    rcases h.pin id with h₁ | ⟨_, _, _, h₁⟩ <;> rw [h₁]

theorem alike (h : s.Reselected b b') : s.Alike b b' := by
  refine ⟨h.segment, fun id hid ↦ ?_, fun id ↦ ?_, fun id ↦ ?_⟩
  · exact (h.pin id).resolve_right fun ⟨t, ht, hid', _⟩ ↦ hid t ht hid'
  all_goals rcases h.pin id with hpin | ⟨_, _, _, hpin⟩ <;> rw [hpin]

end Reselected

end Selector

/-! ## What may be looked at -/

namespace Segment

/-- To read these bytes changes nothing. -/
def Still (s : Segment) (device offset : UInt8) (length : Nat) : Prop :=
  ∀ m, s.device? device = some (.memory m) → m.mailbox = none ∨ offset.toNat + length ≤ 255

/-- A page of the device is left without a change. -/
def TurnsBack (s : Segment) (device : UInt8) : Prop :=
  ∀ bank, s.device? device = some (.registers bank) → bank QsfpMap.pageSelect = some 0

variable {s : Segment} {device offset : UInt8} {length : Nat}

theorem Still.read (h : s.Still device offset length) : (s.read device offset length).2 = s := by
  unfold Segment.read
  split
  · rfl
  · split
    · rfl
    · rename_i m hm
      have hm' : m.afterRead offset length = m := by
        unfold ModuleMemory.afterRead
        split
        · rename_i hreach
          have hnone : m.mailbox = none :=
            (h m hm).resolve_right (Nat.not_le.mpr hreach)
          obtain ⟨cell, mailbox⟩ := m
          cases hnone
          rfl
        · rfl
      rw [hm']
      exact Segment.setDevice_self hm
    · rfl

/-- What a device shows does not matter. -/
theorem Still.write_pageSelect (h : s.Still device offset length) (device' page : UInt8) :
    (s.write device' QsfpMap.pageSelect [page]).2.Still device offset length := by
  rcases s.write_cases device' QsfpMap.pageSelect [page] with
    ⟨-, hw⟩ | ⟨-, ⟨m, hm, hw⟩ | ⟨bank, hbank, hw⟩⟩ <;> rw [hw]
  · exact h
  · intro m' hm'
    by_cases hdevice : device = device'
    · subst hdevice
      cases (if_pos rfl).symm.trans hm'
      have hmailbox : (m.write (s.discards device) QsfpMap.pageSelect [page]).mailbox =
          m.mailbox := by
        rw [ModuleMemory.write_byte]
        split <;> rfl
      rw [hmailbox]
      exact h m hm
    · exact h m' ((if_neg hdevice).symm.trans hm')
  · intro m' hm'
    by_cases hdevice : device = device'
    · cases (if_pos hdevice).symm.trans hm'
    · exact h m' ((if_neg hdevice).symm.trans hm')

variable {data : List UInt8} (ht : touches s.faults.writes device offset data.length = false)
include ht

/-- A write to a module that was put at an address. -/
theorem write_setMemory (m : ModuleMemory) :
    ((s.setDevice device (some (.memory m))).write device offset data).2 =
      s.setDevice device (some (.memory (m.write (s.discards device) offset data))) := by
  have hm : (s.setDevice device (some (.memory m))).device? device = some (.memory m) := if_pos rfl
  rw [Segment.write_memory hm ht, setDevice_setDevice]
  rfl

/-- A write to a bank that was put at an address. -/
theorem write_setRegisters (bank : RegisterBank) :
    ((s.setDevice device (some (.registers bank))).write device offset data).2 =
      s.setDevice device (some (.registers (bank.write offset data))) := by
  have hbank : (s.setDevice device (some (.registers bank))).device? device =
      some (.registers bank) := if_pos rfl
  have ht' : touches (s.setDevice device (some (.registers bank))).faults.writes device offset
      data.length = false := ht
  unfold write
  rw [ht', hbank]
  exact setDevice_setDevice s device _ _

end Segment

/-- A byte that is set to what it was before is as before. -/
theorem ModuleMemory.set_set_self (m : ModuleMemory) {page offset value : UInt8} (value' : UInt8)
    (h : m.get page offset = value) : (m.set page offset value').set page offset value = m := by
  obtain ⟨cell, mailbox⟩ := m
  refine congrArg (ModuleMemory.mk · mailbox) (funext fun p ↦ funext fun o ↦ ?_)
  by_cases ho : p = home page offset ∧ o = offset
  · obtain ⟨rfl, rfl⟩ := ho
    simpa [get, set] using h.symm
  · simp [set, ho]

/-- Going to page zero from another page leads back to where a module showed page zero. -/
theorem Selected.turned_turned {b : Bench} (hhome : b.segment.AtHome) {device : UInt8}
    (hdevice : b.segment.TurnsBack device) (page : UInt8) :
    turned device 0 (turned device page b) = b := by
  have hsegment : ((b.segment.write device QsfpMap.pageSelect [page]).2.write device
      QsfpMap.pageSelect [0]).2 = b.segment := by
    rcases b.segment.write_cases device QsfpMap.pageSelect [page] with
      ⟨hrefused, hw⟩ | ⟨ht, ⟨m, hm, hw⟩ | ⟨bank, hbank, hw⟩⟩ <;> rw [hw]
    · rcases b.segment.write_cases device QsfpMap.pageSelect [0] with
        ⟨-, hw'⟩ | ⟨ht, ⟨m, hm, -⟩ | ⟨bank, hbank, -⟩⟩
      · rw [hw']
      · rcases hrefused with h | h
        · cases ht.symm.trans h
        · cases hm.symm.trans h
      · rcases hrefused with h | h
        · cases ht.symm.trans h
        · cases hbank.symm.trans h
    · have ht₀ : touches b.segment.faults.writes device QsfpMap.pageSelect
          [(0 : UInt8)].length = false := ht
      have hpage : m.get 0 QsfpMap.pageSelect = 0 := by
        change m.currentPage = 0
        simpa [Segment.currentPage, Segment.module?, hm] using hhome device
      have hback : (m.write (b.segment.discards device) QsfpMap.pageSelect [page]).write
          (b.segment.discards device) QsfpMap.pageSelect [0] = m := by
        rw [ModuleMemory.write_pageSelect, ModuleMemory.write_pageSelect]
        split
        · rfl
        · exact m.set_set_self page hpage
      rw [Segment.write_setMemory ht₀, hback]
      exact Segment.setDevice_self hm
    · have ht₀ : touches b.segment.faults.writes device QsfpMap.pageSelect
          [(0 : UInt8)].length = false := ht
      have hback : (bank.write QsfpMap.pageSelect [page]).write QsfpMap.pageSelect [0] = bank := by
        funext register
        by_cases hregister : register = QsfpMap.pageSelect
        · rw [hregister, hdevice bank hbank]
          rfl
        · simp [RegisterBank.write, RegisterBank.set, hregister]
      rw [Segment.write_setRegisters ht₀, hback]
      exact Segment.setDevice_self hbank
  exact congrArg (Bench.mk · b.pin) hsegment

/-! ## Programs -/

/-- The devices whose pages are selected are left without a change. -/
def Trace.TurnsBack (t : Trace) (s : Segment) : Prop :=
  ∀ device page, .write device QsfpMap.pageSelect [page] ∈ t.transactions → s.TurnsBack device

theorem Trace.TurnsBack.of_subset {t t' : Trace} {s : Segment} (h : t'.TurnsBack s)
    (ht : t.transactions ⊆ t'.transactions) : t.TurnsBack s :=
  fun device page hmem ↦ h device page (ht hmem)

namespace Program

/-- On every bench that is alike a program does the same, and leaves nothing but levels that select
the module. -/
def Steady (s : Selector) (p : Program α) (b : Bench) : Prop :=
  ∀ b', s.Alike b b' → s.Reselected b' (p.final Bench.answer b') ∧
    p.value Bench.answer b' = p.value Bench.answer b ∧
    (p.trace Bench.answer b').transactions = (p.trace Bench.answer b).transactions

/-- The program is steady if it can leave the pages that it selects. -/
def Repeats (s : Selector) (p : Program α) (b : Bench) : Prop :=
  (p.trace Bench.answer b).TurnsBack b.segment → p.Steady s b

variable {s : Selector} {p : Program α} {f : α → Program β} {b : Bench}

namespace Repeats

theorem done (a : α) : (Program.done a).Repeats s b := fun _ b' _ ↦ ⟨.refl b', rfl, rfl⟩

theorem perform {action : Action} (h : ∀ b', s.Alike b b' →
    s.Reselected b' (Bench.answer action b').2 ∧
      (Bench.answer action b').1 = (Bench.answer action b).1) :
    (Transceiver.perform action).Repeats s b := fun _ b' hb' ↦ ⟨(h b' hb').1, (h b' hb').2, rfl⟩

theorem bind (h : p.Repeats s b)
    (hf : s.Alike b (p.final Bench.answer b) →
      (f (p.value Bench.answer b)).Repeats s (p.final Bench.answer b)) :
    (p.bind f).Repeats s b := by
  intro hturns b' hb'
  rw [trace_bind] at hturns
  have hsplit {t t' : Trace} : (t ++ t').transactions = t.transactions ++ t'.transactions :=
    Trace.transactions_append t t'
  have hp := h (hturns.of_subset (hsplit ▸ List.subset_append_left _ _))
  obtain ⟨hfinal, -, -⟩ := hp b (.refl b)
  obtain ⟨hfinal', hvalue', htrace'⟩ := hp b' hb'
  have hrest := hf hfinal.alike
  have halike : s.Alike (p.final Bench.answer b) (p.final Bench.answer b') :=
    hfinal.alike.symm.trans (hb'.trans hfinal'.alike)
  obtain ⟨hf₁, hf₂, hf₃⟩ := hrest (by
    rw [hfinal.segment]
    exact hturns.of_subset (hsplit ▸ List.subset_append_right _ _)) _ halike
  rw [final_bind, value_bind, value_bind, trace_bind, trace_bind, hsplit, hsplit, hvalue', htrace']
  exact ⟨hfinal'.trans hf₁, hf₂, congrArg (_ ++ ·) hf₃⟩

theorem idle {action : Action} (h : action.IsIdle) : (Transceiver.perform action).Repeats s b := by
  refine perform fun b' _ ↦ ?_
  cases action with
  | pause _ | log _ => exact ⟨.refl b', rfl⟩
  | _ => cases h

theorem report (severity : Severity) (message : String) (fields : List (String × String)) :
    (Transceiver.report severity message fields).Repeats s b := idle trivial

end Repeats

end Program

namespace Procedure

variable {s : Selector} {p : Procedure α} {f : α → Procedure β} {b : Bench}

/-- What follows a procedure may depend on what that returned. -/
theorem repeats_bind (h : p.run.Repeats s b)
    (hf : ∀ a, s.Alike b (p.run.final Bench.answer b) →
      (f a).run.Repeats s (p.run.final Bench.answer b)) : (p >>= f).run.Repeats s b := by
  rw [run_bind]
  refine Program.Repeats.bind h fun halike ↦ ?_
  cases p.run.value Bench.answer b with
  | ok a => exact hf a halike
  | error e => exact .done _

/-- On every bench that is alike the procedure does the same, and it changes none of them. -/
def Unmoved (s : Selector) (p : Procedure α) (b : Bench) : Prop :=
  ∀ b', s.Alike b b' → p.run.final Bench.answer b' = b' ∧
    p.run.value Bench.answer b' = p.run.value Bench.answer b ∧
    (p.run.trace Bench.answer b').transactions = (p.run.trace Bench.answer b).transactions

namespace Unmoved

theorem repeats (h : p.Unmoved s b) : p.run.Repeats s b := by
  intro _ b' hb'
  obtain ⟨hfinal, hrest⟩ := h b' hb'
  rw [hfinal]
  exact ⟨.refl b', hrest⟩

theorem bind (h : p.Unmoved s b) (hf : ∀ a, (f a).Unmoved s b) : Unmoved s (p >>= f) b := by
  have hb := (h b (.refl b)).1
  intro b' hb'
  obtain ⟨hfinal, hvalue, htrace⟩ := h b' hb'
  rw [run_bind, Program.final_bind, Program.value_bind, Program.value_bind, Program.trace_bind,
    Program.trace_bind, Trace.transactions_append, Trace.transactions_append, hfinal, hvalue,
    htrace, hb]
  cases p.run.value Bench.answer b with
  | ok a =>
    obtain ⟨hfinal, hvalue, htrace⟩ := hf a b' hb'
    exact ⟨hfinal, hvalue, congrArg (_ ++ ·) htrace⟩
  | error e => exact ⟨rfl, rfl, rfl⟩

end Unmoved

end Procedure

/-! ## Pin groups and lines -/

section Pins

variable {s : Selector} {b : Bench} {body : Procedure α}

theorem PinGroup.hold_repeats (g : PinGroup)
    (hbody : ∀ b', s.Alike b b' → body.run.Repeats s b') : (g.hold body).run.Repeats s b := by
  refine Program.Repeats.bind (.perform fun b' hb' ↦ ⟨.refl b', ?_⟩) fun halike ↦ ?_
  · simp [Bench.answer, Pin.acquire, hb'.failAcquire]
  · cases (perform (.acquire g)).value Bench.answer b with
    | error fault => exact .done _
    | ok _ =>
      refine Program.Repeats.bind (hbody _ halike) fun _ ↦ .bind (.perform fun b' _ ↦ ?_) fun _ ↦
        .done _
      exact ⟨.refl b', rfl⟩

/-- Writing the level that selects a module leaves just that level. -/
theorem SelectTarget.writeLevel_repeats {t : SelectTarget} (ht : t ∈ s.targets) :
    (t.group.writeLevel t.value).run.Repeats s b := by
  rw [PinGroup.run_writeLevel]
  refine Program.Repeats.bind (p := perform (.writeLevel t.group t.value))
    (.perform fun b' hb' ↦ ?_) fun _ ↦ .done _
  cases hf : (b.pin t.group.id).failAccess with
  | true =>
    have hf' : (b'.pin t.group.id).failAccess = true := (hb'.failAccess _).trans hf
    refine ⟨⟨rfl, fun id ↦ .inl ?_⟩, by simp [Bench.answer, Pin.write, hf, hf']⟩
    by_cases hid : id = t.group.id <;> simp [Bench.answer, Pin.write, hf', Bench.setPin, hid]
  | false =>
    have hf' : (b'.pin t.group.id).failAccess = false := (hb'.failAccess _).trans hf
    refine ⟨⟨rfl, fun id ↦ ?_⟩, by simp [Bench.answer, Pin.write, hf, hf']⟩
    by_cases hid : id = t.group.id
    · refine .inr ⟨t, ht, hid.symm, ?_⟩
      simp [Bench.answer, Pin.write, hf', Bench.setPin, hid]
    · exact .inl (if_neg hid)

theorem SelectTarget.during_repeats {t : SelectTarget} (ht : t ∈ s.targets)
    (hbody : ∀ b', s.Alike b b' → body.run.Repeats s b') : (t.during body).run.Repeats s b :=
  t.group.hold_repeats fun _ hb' ↦
    Procedure.repeats_bind (writeLevel_repeats ht) fun _ hb'' ↦ hbody _ (hb'.trans hb'')

theorem Selector.under_repeats {t? : Option SelectTarget} (ht : ∀ t ∈ t?, t ∈ s.targets)
    (hbody : ∀ b', s.Alike b b' → body.run.Repeats s b') :
    (under t? body).run.Repeats s b := by
  cases t? with
  | none => exact hbody b (.refl b)
  | some t => exact SelectTarget.during_repeats (ht t rfl) hbody

theorem Selector.during_repeats (hbody : ∀ b', s.Alike b b' → body.run.Repeats s b') :
    (s.during body).run.Repeats s b := by
  refine under_repeats (fun t ht ↦ ?_) fun b' hb' ↦ under_repeats (fun t ht ↦ ?_) fun b'' hb'' ↦
    hbody b'' (hb'.trans hb'')
  · exact List.mem_append_left _ (Option.mem_toList.mpr ht)
  · exact List.mem_append_right _ (Option.mem_toList.mpr ht)

/-- A line that is on none of the groups reads the same whatever their levels are. -/
theorem Line.read_unmoved {l : Line} (hl : ∀ t ∈ s.targets, t.group.id ≠ l.group.id) :
    l.read.Unmoved s b := by
  have hlevel {b : Bench} : l.group.readLevel.run.Repeats s b := by
    rw [PinGroup.run_readLevel]
    refine Program.Repeats.bind (p := perform (.readLevel l.group))
      (.perform fun b' hb' ↦ ⟨.refl b', ?_⟩) fun _ ↦ .done _
    simp [Bench.answer, hb'.pin _ hl]
  have hget {b : Bench} : l.get.run.Repeats s b :=
    Procedure.repeats_bind (.done _) fun _ _ ↦ Procedure.repeats_bind hlevel fun _ _ ↦ .done _
  have hread : l.read.run.Repeats s b := l.group.hold_repeats fun _ _ ↦ hget
  have hquiet : (l.read.run.trace Bench.answer b).transactions = [] :=
    Program.MadeOf.transactions_eq_nil l.read_madeOf _ _
  intro b' hb'
  refine ⟨l.final_read b', (hread ?_ b' hb').2⟩
  intro device page hmem
  rw [hquiet] at hmem
  cases hmem

/-- A session selects the module if its line tells that there is one. -/
theorem Eeprom.session_repeats (e : Eeprom) {l : Line} (hselector : e.selector = s)
    (hpresence : e.presence = some l) (hl : ∀ t ∈ s.targets, t.group.id ≠ l.group.id)
    {body : Selected → Procedure α}
    (hbody : ∀ b', s.Alike b b' → (body e.selected).run.Repeats s b') :
    (e.session body).run.Repeats s b := by
  have hvisit {b' : Bench} (hb' : s.Alike b b') : (e.selector.during (do
      settle e.settleTime
      body ⟨e.address, e.scheme⟩)).run.Repeats s b' := by
    rw [hselector]
    refine Selector.during_repeats fun b'' hb'' ↦ ?_
    have hsettle : (liftM (settle e.settleTime) : Procedure Unit).run.Repeats s b'' := by
      unfold settle
      split
      · exact .done _
      · exact Program.Repeats.bind (.idle trivial) fun _ ↦ .done _
    exact Procedure.repeats_bind hsettle fun _ hb ↦ hbody _ (hb'.trans (hb''.trans hb))
  unfold session
  rw [hpresence]
  refine Procedure.repeats_bind (Line.read_unmoved hl).repeats fun present halike ↦ ?_
  split
  · exact hvisit halike
  · exact .done _

end Pins

/-! ## Queries -/

/-- What may be looked at is not changed by that, and not by selecting the module. -/
structure Scope.Fits (S : Scope) (g : Segment) : Prop where
  still : ∀ device offset length, S.bytes device offset length → g.Still device offset length
  line : ∀ l, S.line l → ∀ t ∈ S.selector.targets, t.group.id ≠ l.group.id
  presence : ∀ t ∈ S.selector.targets, t.group.id ≠ S.presence.group.id

section Idle

variable {p : Program α} (h : p.MadeOf (Single Action.IsIdle)) (b b' : Bench)
include h

theorem Program.MadeOf.final_idle : p.final Bench.answer b = b := by
  have hfinal : b = p.final Bench.answer b := by
    refine h.final_rel .refl .trans (fun β q hq b ↦ ?_) b
    cases hq with
    | perform action ha => cases action <;> first | rfl | cases ha
  exact hfinal.symm

/-- What idles does so on every bench. -/
theorem Program.MadeOf.run_idle :
    p.value Bench.answer b' = p.value Bench.answer b ∧
      (p.trace Bench.answer b').transactions = (p.trace Bench.answer b).transactions := by
  induction h generalizing b b' with
  | part h =>
    cases h with
    | perform action ha => cases action <;> first | exact ⟨rfl, rfl⟩ | cases ha
  | done a => exact ⟨rfl, rfl⟩
  | bind _ _ ih ihf =>
    obtain ⟨hvalue, htrace⟩ := ih b b'
    rw [value_bind, value_bind, trace_bind, trace_bind, Trace.transactions_append,
      Trace.transactions_append, hvalue, htrace]
    obtain ⟨hvalue, htrace⟩ := ihf _ _ _
    exact ⟨hvalue, congrArg (_ ++ ·) htrace⟩

end Idle

section Queries

variable {S : Scope} {p : Procedure α} {b : Bench}

theorem Procedure.Looks.unmoved (h : p.Looks S) (hS : S.Fits b.segment) :
    p.Unmoved S.selector b := by
  induction h with
  | pure a => exact fun b' _ ↦ ⟨rfl, rfl, rfl⟩
  | throw e => exact fun b' _ ↦ ⟨rfl, rfl, rfl⟩
  | @idle _ p h =>
    intro b' _
    obtain ⟨hvalue, htrace⟩ := h.run_idle b b'
    rw [Procedure.run_lift, Program.final_bind, Program.value_bind, Program.value_bind,
      Program.trace_bind, Program.trace_bind, Trace.transactions_append,
      Trace.transactions_append, hvalue, htrace, h.final_idle]
    exact ⟨rfl, rfl, rfl⟩
  | line l hl => exact l.read_unmoved (hS.line l hl)
  | bytes device offset length hbytes =>
    intro b' hb'
    rw [Bus.final_read, Bus.value_read, Bus.value_read, hb'.segment]
    refine ⟨?_, rfl, ?_⟩
    · exact congrArg (Bench.mk · b'.pin) ((hS.still _ _ _ hbytes).read.trans hb'.segment.symm)
    · rw [Bus.run_read]
      rfl
  | bind _ _ ih ihf => exact .bind ih ihf

theorem Scope.Fits.turned {g : Segment} (hS : S.Fits g) (device page : UInt8) :
    S.Fits (g.write device QsfpMap.pageSelect [page]).2 :=
  ⟨fun _ _ _ h ↦ (hS.still _ _ _ h).write_pageSelect device page, hS.line, hS.presence⟩

/-- A page is selected, looked at and left. -/
theorem Selected.onPage_repeats {s : Selector} (hhome : b.segment.AtHome) (device page : UInt8)
    {body : Procedure α} (hbody : body.Unmoved s (turned device page b)) :
    (onPage device page body).run.Repeats s b := by
  intro hturns b' hb'
  have hexchanges {b : Bench} : ((onPage device page body).run.trace Bench.answer b).transactions =
      ((onPage device page body).run.trace Bench.answer b).exchanges.transactions :=
    (Trace.transactions_exchanges _).symm
  rw [hexchanges, hexchanges]
  cases hselect : (b.segment.write device QsfpMap.pageSelect [page]).1 with
  | error fault =>
    have hselect' : (b'.segment.write device QsfpMap.pageSelect [page]).1 = .error fault := by
      rw [hb'.segment, hselect]
    have hstay : turned device page b' = b' :=
      congrArg (Bench.mk · b'.pin) (Segment.write_of_error hselect')
    have hreply {b : Bench} (h : (b.segment.write device QsfpMap.pageSelect [page]).1 =
        .error fault) : (Bench.answer (.write device QsfpMap.pageSelect [page]) b).1 =
        .error fault := h
    obtain ⟨hvalue, htrace⟩ := exchanges_onPage_of_error device page body (hreply hselect)
    obtain ⟨hvalue', htrace'⟩ := exchanges_onPage_of_error device page body (hreply hselect')
    rw [final_onPage_of_error body hselect', hstay, hvalue, hvalue', htrace, htrace']
    exact ⟨.refl b', rfl, rfl⟩
  | ok _ =>
    have hselect' : (b'.segment.write device QsfpMap.pageSelect [page]).1 = .ok () := by
      rw [hb'.segment, hselect]
    have halike : s.Alike (turned device page b) (turned device page b') :=
      ⟨by unfold turned; rw [hb'.segment], hb'.pin, hb'.failAcquire, hb'.failAccess⟩
    obtain ⟨hfinal, hvalue, htrace⟩ := hbody _ halike
    have hreply {b : Bench} (h : (b.segment.write device QsfpMap.pageSelect [page]).1 = .ok ()) :
        (Bench.answer (.write device QsfpMap.pageSelect [page]) b).1 = .ok () := h
    obtain ⟨-, _, honPage⟩ := exchanges_onPage device page body (hreply hselect)
    obtain ⟨-, _, honPage'⟩ := exchanges_onPage device page body (hreply hselect')
    have hback : b'.segment.TurnsBack device := by
      rw [hb'.segment]
      refine hturns device page ?_
      rw [hexchanges, honPage]
      exact List.mem_cons_self
    rw [final_onPage body hselect', hfinal,
      turned_turned (fun a ↦ hb'.segment ▸ hhome a) hback, value_onPage body hselect,
      value_onPage body hselect', hvalue, honPage, honPage', final_selectPage, final_selectPage]
    refine ⟨.refl b', rfl, congrArg (_ :: ·) ?_⟩
    change Trace.transactions _ = Trace.transactions _
    rw [Trace.transactions_append, Trace.transactions_append, Trace.transactions_exchanges,
      Trace.transactions_exchanges, htrace]
    rfl

/-- A query changes nothing but levels that select the module, and depends on nothing that such a
level may change. -/
theorem Procedure.Queries.repeats (h : p.Queries S) (hhome : b.segment.AtHome)
    (hS : S.Fits b.segment) : p.run.Repeats S.selector b := by
  induction h generalizing b with
  | looks h => exact (h.unmoved hS).repeats
  | onPage device page h =>
    exact Selected.onPage_repeats hhome device page (h.unmoved (hS.turned device page))
  | @session e _ body hselector hpresence _ ih =>
    refine e.session_repeats hselector hpresence hS.presence fun b' hb' ↦ ih ?_ ?_
    · exact fun a ↦ hb'.segment ▸ hhome a
    · exact hb'.segment ▸ hS
  | after h _ ihf =>
    have hp := h.unmoved hS
    refine Procedure.repeats_bind hp.repeats fun a halike ↦ ?_
    rw [(hp b (.refl b)).1]
    exact ihf a hhome hS
  | before _ hf ih =>
    refine Procedure.repeats_bind (ih hhome hS) fun a _ ↦ ((hf a).unmoved ?_).repeats
    exact ⟨fun _ _ _ h ↦ h.elim, hS.line, hS.presence⟩

end Queries

/-! ## Operations -/

/-- No line of the cage is on a group that selects its module. -/
def Cage.Apart (c : Cage) : Prop := ∀ l ∈ c.lines, ∀ t ∈ c.selector.targets, t.group.id ≠ l.group.id

instance (c : Cage) : Decidable c.Apart := inferInstanceAs (Decidable (∀ l ∈ c.lines, _))

/-- What there is to look at for a cage without a change of the segment. -/
def Cage.sight (c : Cage) (g : Segment) : Scope := ⟨c.selector, c.presence, (· ∈ c.lines), g.Still⟩

theorem Cage.admits_sight (c : Cage) (g : Segment) : (c.sight g).Admits c :=
  ⟨rfl, rfl, fun _ h ↦ h, fun _ _ _ h _ _ ↦ .inr h⟩

theorem Cage.Apart.fits {c : Cage} (h : c.Apart) (g : Segment) : (c.sight g).Fits g :=
  ⟨fun _ _ _ h ↦ h, h, h c.presence List.mem_cons_self⟩

/-- Keeping a driver as it is changes nothing. -/
theorem keeping_repeats {δ : Type} {s : Selector} {b : Bench} (d : δ) {p : Procedure α}
    (h : p.run.Repeats s b) : (keeping d p).Repeats s b :=
  Program.Repeats.bind h fun _ ↦ .done _

section Perform

variable {b : Bench} {op : Operation} (hhome : b.segment.AtHome) (hop : op.IsQuery)
include hhome hop

theorem Sfp.perform_repeats (d : Sfp) (hc : d.cage.Apart)
    (hpeeks : ∀ device offset length, op.Peeks d.cage.address device offset length →
      b.segment.Still device offset length) :
    (MediaControl.perform d op).Repeats d.cage.selector b :=
  keeping_repeats d <| (d.serve_queries (d.cage.admits_sight _) hop hpeeks).repeats hhome
    (hc.fits _)

theorem Qsfp.perform_repeats (d : Qsfp) (hc : d.cage.Apart)
    (hpeeks : ∀ device offset length, op.Peeks d.cage.address device offset length →
      b.segment.Still device offset length) : (d.perform op).Repeats d.cage.selector b := by
  have hserve := (d.serve_queries (d.cage.admits_sight _) hop hpeeks).repeats hhome (hc.fits _)
  cases op with
  | moduleInit _ => exact hop.elim
  | _ => exact keeping_repeats d hserve

omit hop in
/-- A second port is there or not for what can be read, which may be nothing. -/
theorem SubPort.presence_repeats (p : SubPort) (hc : p.inner.cage.Apart) :
    p.presence.run.Repeats p.inner.cage.selector b := by
  have hline (b : Bench) : p.inner.cage.presence.read.Unmoved p.inner.cage.selector b :=
    Line.read_unmoved (hc _ List.mem_cons_self)
  have hidentifier : (p.inner.session fun m ↦ m.lowerByte QsfpMap.identifier).Queries
      (p.inner.cage.sight b.segment) :=
    p.inner.session_looks (p.inner.cage.admits_sight _) <|
      Selected.lowerByte_looks (p.inner.cage.admits_sight _).reads _ (by decide)
  have hdouble : p.doubleDensity.Repeats p.inner.cage.selector b := by
    refine Program.Repeats.bind (hidentifier.repeats hhome (hc.fits _)) fun _ ↦ ?_
    split
    · exact .done _
    · exact .bind (.report _ _ _) fun _ ↦ .done _
  refine Procedure.repeats_bind (hline b).repeats fun present _ ↦ ?_
  rw [(hline b b (.refl b)).1]
  split
  · split
    · exact Program.Repeats.bind hdouble fun _ ↦ .done _
    · exact .done _
  · exact .done _

theorem SubPort.perform_repeats (d : SubPort) (hc : d.inner.cage.Apart)
    (hpeeks : ∀ device offset length, op.Peeks d.inner.cage.address device offset length →
      b.segment.Still device offset length) :
    (d.perform op).Repeats d.inner.cage.selector b := by
  cases op with
  | moduleInit _ => exact hop.elim
  | presence => exact keeping_repeats d (d.presence_repeats hhome hc)
  | _ =>
    exact keeping_repeats d <| (d.serve_queries (d.inner.cage.admits_sight _) hop nofun
      hpeeks).repeats hhome (hc.fits _)

theorem Driver.perform_repeats (v : Driver) (hc : v.cage.Apart)
    (hpeeks : ∀ device offset length, op.Peeks v.cage.address device offset length →
      b.segment.Still device offset length) : (v.perform op).Repeats v.cage.selector b := by
  cases v with
  | sfp d => exact .bind (d.perform_repeats hhome hop hc hpeeks) fun _ ↦ .done _
  | qsfp d => exact .bind (d.perform_repeats hhome hop hc hpeeks) fun _ ↦ .done _
  | subPort d => exact .bind (d.perform_repeats hhome hop hc hpeeks) fun _ ↦ .done _

omit hhome in
/-- A query leaves the driver as it is. -/
theorem Driver.value_perform_of_isQuery (v : Driver) :
    ((v.perform op).value Bench.answer b).2 = v := by
  have hinit {present : Bool} : op ≠ .moduleInit present := fun h ↦ by
    rw [h] at hop
    exact hop
  cases v with
  | sfp d =>
    dsimp only [perform]
    rw [Program.bind_eq, Program.value_bind]
    exact congrArg Driver.sfp (keeping_value Bench.answer b d _)
  | qsfp d =>
    dsimp only [perform]
    rw [Program.bind_eq, Program.value_bind]
    refine congrArg Driver.qsfp ?_
    cases op with
    | moduleInit _ => exact absurd rfl hinit
    | _ => exact keeping_value Bench.answer b d _
  | subPort d =>
    dsimp only [perform]
    rw [Program.bind_eq, Program.value_bind]
    refine congrArg Driver.subPort ?_
    cases op with
    | moduleInit _ => exact absurd rfl hinit
    | _ => exact keeping_value Bench.answer b d _

end Perform

/-! ## Main statement -/

namespace Driver

/-- A driver and a bench after an operation. -/
def step (x : Driver × Bench) (op : Operation) : Driver × Bench :=
  (((x.1.perform op).value Bench.answer x.2).2, (x.1.perform op).final Bench.answer x.2)

/-- A driver and a bench after some operations, in order. -/
def after (v : Driver) (b : Bench) (ops : List Operation) : Driver × Bench :=
  ops.foldl step (v, b)

variable {v : Driver} {b : Bench} (hhome : b.segment.AtHome) (hc : v.cage.Apart)
include hhome hc

/-- One query on a bench that earlier ones may have left. -/
theorem query_step {op : Operation} (hop : op.IsQuery)
    (hpeeks : ∀ device offset length, op.Peeks v.cage.address device offset length →
      b.segment.Still device offset length)
    (hturns : ((v.perform op).trace Bench.answer b).TurnsBack b.segment) {b' : Bench}
    (hb' : v.cage.selector.Reselected b b') :
    (step (v, b') op).1 = v ∧ v.cage.selector.Reselected b (step (v, b') op).2 ∧
      (v.perform op).value Bench.answer b' = (v.perform op).value Bench.answer b := by
  obtain ⟨hfinal, hvalue, -⟩ := v.perform_repeats hhome hop hc hpeeks hturns b' hb'.alike
  exact ⟨v.value_perform_of_isQuery hop, hb'.trans hfinal, hvalue⟩

/-- Queries in any order leave the driver and the bench as they are, but for levels that select the
module, and each returns what it returns alone.  Raw reads of the state of a mailbox are excepted,
and so are queries that select a page of a bank of registers which cannot be left without a
change. -/
theorem queries_repeat {ops : List Operation} (hops : ∀ op ∈ ops, op.IsQuery)
    (hpeeks : ∀ op ∈ ops, ∀ device offset length, op.Peeks v.cage.address device offset length →
      b.segment.Still device offset length)
    (hturns : ∀ op ∈ ops, ((v.perform op).trace Bench.answer b).TurnsBack b.segment) :
    (v.after b ops).1 = v ∧ v.cage.selector.Reselected b (v.after b ops).2 ∧
      ∀ past op future, ops = past ++ op :: future →
        (v.perform op).value Bench.answer (v.after b past).2 =
          (v.perform op).value Bench.answer b := by
  -- on the way the bench has been reselected from the first one, against which all is compared
  have hrun : ∀ past, past ⊆ ops → ∀ b', v.cage.selector.Reselected b b' →
      (v.after b' past).1 = v ∧ v.cage.selector.Reselected b (v.after b' past).2 := by
    intro past
    induction past with
    | nil => exact fun _ _ hb' ↦ ⟨rfl, hb'⟩
    | cons op past ih =>
      intro hsub b' hb'
      have hop : op ∈ ops := hsub List.mem_cons_self
      obtain ⟨hv, hb, -⟩ :=
        query_step hhome hc (hops op hop) (hpeeks op hop) (hturns op hop) hb'
      have hafter : v.after b' (op :: past) = v.after (step (v, b') op).2 past :=
        congrArg (past.foldl step) (Prod.ext hv rfl)
      rw [hafter]
      exact ih (fun _ h ↦ hsub (List.mem_cons_of_mem _ h)) _ hb
  obtain ⟨hv, hb⟩ := hrun ops (fun _ h ↦ h) b (.refl b)
  refine ⟨hv, hb, fun past op future h ↦ ?_⟩
  have hop : op ∈ ops := h ▸ List.mem_append_right _ List.mem_cons_self
  have hpast : past ⊆ ops := h ▸ List.subset_append_left _ _
  exact (query_step hhome hc (hops op hop) (hpeeks op hop) (hturns op hop)
    (hrun past hpast b (.refl b)).2).2.2

omit hhome hc in
/-- A threshold on page three, and then a byte of page two, of a module behind a select group whose
page cannot be written. -/
theorem queries_repeat_paged :
    let c : Cage := {
      instanceId := 0, name := "port0", family := .qsfp, portType := .qsfp, address := 0x50
      selector := ⟨none, some ⟨⟨"select", 1⟩, 2⟩⟩, selectDelay := .zero
      presence := ⟨⟨"control", 0⟩, 0⟩, reset := none, resetDelay := .zero, lowPower := none
      txControl := none, rxLoss := none, txFault := none, portLed := none
      defaultSpeedMbps := none, channelOffset := 0, maxPowerMw := 3500 }
    let v : Driver := .qsfp (.ofCage c)
    let b : Bench := ⟨Segment.blank.addModule 0x50, fun _ ↦ .ofLevel 1⟩
    let first : Operation := .threshold ⟨.temperature, .highAlarm⟩
    let second : Operation := .readGeneric (.paged 2 130) 1
    b.segment.AtHome ∧ c.Apart ∧ first.IsQuery ∧ second.IsQuery ∧
      (v.after b [first, second]).1 = v ∧ c.selector.Reselected b (v.after b [first, second]).2 ∧
      (v.perform second).value Bench.answer (v.after b [first]).2 =
        (v.perform second).value Bench.answer b := by
  intro c v b first second
  have hhome : b.segment.AtHome := by
    intro a
    by_cases ha : a = 0x50 <;>
      simp [b, Segment.currentPage, Segment.module?, Segment.addModule, Segment.setDevice,
        Segment.blank, ha]
    rfl
  have hturns {t : Trace} : t.TurnsBack b.segment := by
    intro device _ _ bank hbank
    by_cases hdevice : device = 0x50 <;>
      simp [b, Segment.addModule, Segment.setDevice, Segment.blank, hdevice] at hbank
  have hpeeks : ∀ op ∈ [first, second], ∀ device offset length,
      op.Peeks c.address device offset length → b.segment.Still device offset length := by
    rintro op (_ | ⟨_, _ | ⟨_, ⟨⟩⟩⟩) device offset length hpeek m hm
    · exact hpeek.elim
    · obtain ⟨-, rfl, rfl⟩ := hpeek
      exact .inr (by decide)
  have hops : ∀ op ∈ [first, second], op.IsQuery := by
    rintro op (_ | ⟨_, _ | ⟨_, ⟨⟩⟩⟩) <;> trivial
  have hc : c.Apart := by decide
  obtain ⟨hv, hb, hrepeat⟩ := queries_repeat (v := v) hhome hc hops hpeeks fun _ _ ↦ hturns
  exact ⟨hhome, hc, trivial, trivial, hv, hb, hrepeat [first] second [] rfl⟩

omit hhome hc in
/-- A register of a PHY lies where a module selects its page: a page that is read from the PHY
leaves zero there. -/
theorem not_queries_repeat_of_registers :
    let d : Draft := { name := "port0", family := .qsfp, presence := some ⟨⟨"control", 0⟩, 0⟩ }
    let s := ((Segment.blank.addModule 0x50).addRegisters 0x56).setRegister 0x56 127 0x1200
    let op : Operation := .readGeneric ⟨.explicit 0x56, .select 3, 0⟩ 2
    ∃ c, d.build = .ok c ∧
      let v := Driver.ofCage c
      let b : Bench := ⟨s, fun _ ↦ .ofLevel 1⟩
      b.segment.AtHome ∧ c.Apart ∧ op.IsQuery ∧
        (∀ device offset length, op.Peeks c.address device offset length →
          b.segment.Still device offset length) ∧
        b.segment.register? 0x56 127 = some 0x1200 ∧
        (v.after b [op]).2.segment.register? 0x56 127 = some 0 := by
  intro d s op
  refine ⟨_, rfl, ?_⟩
  intro v b
  refine ⟨fun a ↦ ?_, by decide, trivial, ?_, rfl, by decide +kernel⟩
  · by_cases h : a = 0x56 <;> by_cases h' : a = 0x50 <;>
      simp [b, s, Segment.currentPage, Segment.module?, Segment.addModule, Segment.addRegisters,
        Segment.setRegister, Segment.bank?, Segment.setDevice, Segment.blank, h, h']
    rfl
  · rintro device offset length ⟨rfl, rfl, rfl⟩ m hm
    exact .inr (by decide)

end Driver

end Transceiver
