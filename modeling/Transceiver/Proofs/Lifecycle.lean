import Transceiver.Proofs.Absence
import Transceiver.Proofs.Adapter
import Transceiver.Proofs.Discovery

/-!
# The life of a module in a cage

A module is initialized when it is inserted, and forgotten when it is removed.  What is found then
decides where every later operation goes, so nothing of a module may outlive it, and nothing may be
half known.  Main statement: whatever a driver did before, initializing a module succeeds if it can
be selected and identified, whatever else goes wrong; then the driver is one that was made anew for
the module, and else it is as it was.
-/

namespace Transceiver

variable {α β : Type}

/-! ## What stays of a segment -/

/-- A transaction that would read some bytes returns them. -/
def Segment.Readable (s : Segment) (address offset : UInt8) (length : Nat) : Prop :=
  ∃ bytes, (s.read address offset length).1 = .ok bytes

/-- The same devices answer, and the same transactions go wrong. -/
structure Segment.SameWiring (s s' : Segment) : Prop where
  faults : s'.faults = s.faults
  devices : ∀ a, (s'.device? a).isSome = (s.device? a).isSome

namespace Segment

variable {s s' : Segment}

/-- A device tells its bytes unless that is made to fail. -/
theorem readable_iff {address offset : UInt8} {length : Nat} :
    s.Readable address offset length ↔
      touches s.faults.reads address offset length = false ∧
        (s.device? address).isSome = true := by
  unfold Readable read
  cases touches s.faults.reads address offset length with
  | true => simp
  | false =>
    cases s.device? address with
    | none => simp
    | some d => cases d <;> simp

namespace SameWiring

theorem refl (s : Segment) : SameWiring s s := ⟨rfl, fun _ ↦ rfl⟩

theorem trans {s'' : Segment} (h : SameWiring s s') (h' : SameWiring s' s'') :
    SameWiring s s'' :=
  ⟨h'.faults.trans h.faults, fun a ↦ (h'.devices a).trans (h.devices a)⟩

/-- What can be read goes on to be readable. -/
theorem readable (h : SameWiring s s') {address offset : UInt8} {length : Nat} :
    s'.Readable address offset length ↔ s.Readable address offset length := by
  rw [readable_iff, readable_iff, h.faults, h.devices]

/-- A device may be replaced by another one. -/
theorem setDevice {address : UInt8} (d : Device) (hd : (s.device? address).isSome = true) :
    SameWiring s (s.setDevice address (some d)) := by
  refine ⟨rfl, fun a ↦ ?_⟩
  by_cases ha : a = address
  · simp [Segment.setDevice, ha, hd]
  · simp [Segment.setDevice, ha]

end SameWiring

theorem sameWiring_read (s : Segment) (address offset : UInt8) (length : Nat) :
    s.SameWiring (s.read address offset length).2 := by
  unfold read
  split
  · exact .refl s
  · split
    · exact .refl s
    · rename_i m hm
      exact .setDevice _ (by rw [hm]; rfl)
    · exact .refl s

theorem sameWiring_write (s : Segment) (address offset : UInt8) (data : List UInt8) :
    s.SameWiring (s.write address offset data).2 := by
  rcases s.write_cases address offset data with ⟨-, hw⟩ | ⟨-, ⟨m, hm, hw⟩ | ⟨bank, hbank, hw⟩⟩
  · rw [hw]
    exact .refl s
  · rw [hw]
    exact .setDevice _ (by rw [hm]; rfl)
  · rw [hw]
    exact .setDevice _ (by rw [hbank]; rfl)

end Segment

/-- No action adds or removes a device. -/
theorem Action.sameWiring_answer (action : Action) (b : Bench) :
    b.segment.SameWiring (Bench.answer action b).2.segment := by
  cases action with
  | read address offset length => exact b.segment.sameWiring_read address offset length
  | write address offset data => exact b.segment.sameWiring_write address offset data
  | _ => exact .refl _

/-- No program does. -/
theorem Program.sameWiring (p : Program α) (b : Bench) :
    b.segment.SameWiring (p.final Bench.answer b).segment := by
  induction p generalizing b with
  | done a => exact .refl _
  | ask action next ih => exact (action.sameWiring_answer b).trans (ih _ _)

/-! ## Success -/

/-- From a bench a procedure returns something. -/
def Procedure.Succeeds (p : Procedure α) (b : Bench) : Prop :=
  ∃ a, p.run.value Bench.answer b = .ok a

namespace Procedure

variable {b : Bench}

theorem succeeds_pure (a : α) : Succeeds (Pure.pure a) b := ⟨a, rfl⟩

theorem not_succeeds_of_error {p : Procedure α} {e : Error}
    (h : p.run.value Bench.answer b = .error e) : ¬ p.Succeeds b := by
  rintro ⟨a, ha⟩
  cases h.symm.trans ha

/-- A sequence succeeds if both parts do. -/
theorem succeeds_bind {p : Procedure α} {f : α → Procedure β} :
    Succeeds (p >>= f) b ↔ ∃ a, p.run.value Bench.answer b = .ok a ∧
      (f a).Succeeds (p.run.final Bench.answer b) := by
  unfold Succeeds
  rw [run_bind, Program.value_bind]
  cases p.run.value Bench.answer b with
  | ok a => simp [andThen]
  | error e => simp [andThen]

/-- What is tried and not minded does not fail. -/
theorem succeeds_lift_bind {p : Program α} {f : α → Procedure β} :
    Succeeds ((liftM p : Procedure α) >>= f) b ↔
      (f (p.value Bench.answer b)).Succeeds (p.final Bench.answer b) := by
  have h : RunsTo Bench.answer (liftM p) b _ _ := .lift p b
  rw [succeeds_bind, h.value, h.final]
  simp

end Procedure

/-- A byte can be asked for if it is readable. -/
theorem Selected.succeeds_lowerByte_bind {m : Selected} {offset : UInt8} {f : UInt8 → Procedure α}
    {b : Bench} :
    Procedure.Succeeds (m.lowerByte offset >>= f) b ↔
      ∃ bytes, (b.segment.read m.address offset 1).1 = .ok bytes ∧
        (f (byteIn bytes)).Succeeds ((m.lowerByte offset).run.final Bench.answer b) := by
  have hvalue : (m.lowerByte offset).run.value Bench.answer b =
      ((b.segment.read m.address offset 1).1.map byteIn).mapError (.bus m.address offset) := by
    rw [lowerByte_eq]
    unfold Bus.readByte
    rw [Procedure.run_bind, Program.value_bind, Bus.value_read]
    cases (b.segment.read m.address offset 1).1 <;> rfl
  rw [Procedure.succeeds_bind, hvalue]
  cases (b.segment.read m.address offset 1).1 with
  | ok bytes =>
    constructor
    · rintro ⟨_, ⟨⟩, h⟩
      exact ⟨bytes, rfl, h⟩
    · rintro ⟨_, ⟨⟩, h⟩
      exact ⟨_, rfl, h⟩
  | error fault =>
    refine iff_of_false ?_ ?_
    · rintro ⟨_, ⟨⟩, -⟩
    · rintro ⟨_, ⟨⟩, -⟩

/-! ## Getting to the module -/

section Select

variable {b : Bench} {body : Procedure α}

/-- A group that does not work keeps a module from being selected. -/
theorem SelectTarget.not_succeeds_during {t : SelectTarget} (ht : ¬ (b.pin t.group.id).Works) :
    ¬ (t.during body).Succeeds b := by
  cases hacquire : (b.pin t.group.id).failAcquire with
  | true =>
    exact Procedure.not_succeeds_of_error (PinGroup.hold_runsTo_of_failAcquire hacquire _).value
  | false =>
    have haccess : (b.pin t.group.id).failAccess = true := by
      simpa [Pin.Works, hacquire] using ht
    have hwrite : (t.group.writeLevel t.value).run.value Bench.answer b =
        .error (.gpio t.group.name Pin.refusal) := by
      have hanswer : (Bench.answer (.writeLevel t.group t.value) b).1 = .error Pin.refusal := by
        simp [Bench.answer, Pin.write, haccess]
      rw [PinGroup.run_writeLevel, Program.value_ask, hanswer]
      rfl
    unfold Procedure.Succeeds SelectTarget.during
    rw [(PinGroup.sameRun_hold _ hacquire).value]
    rintro h
    obtain ⟨_, hok, -⟩ := Procedure.succeeds_bind.mp h
    cases hwrite.symm.trans hok

theorem Selector.not_succeeds_under {t? : Option SelectTarget}
    (ht : ∃ t ∈ t?, ¬ (b.pin t.group.id).Works) : ¬ (under t? body).Succeeds b := by
  obtain ⟨t, rfl, ht⟩ := ht
  exact t.not_succeeds_during ht

/-- A module whose groups do not all work is not selected. -/
theorem Selector.not_succeeds_during {s : Selector}
    (hs : ∃ t ∈ s.targets, ¬ (b.pin t.group.id).Works) : ¬ (s.during body).Succeeds b := by
  by_cases hmux : ∃ t ∈ s.mux, ¬ (b.pin t.group.id).Works
  · exact not_succeeds_under hmux
  · have hworks : ∀ t ∈ s.mux, (b.pin t.group.id).Works := by simpa using hmux
    have hmodule : ∃ t ∈ s.module, ¬ ((b.withTarget s.mux).pin t.group.id).Works := by
      obtain ⟨t, ht, hnot⟩ := hs
      rcases List.mem_append.mp ht with h | h
      · exact absurd (hworks t (Option.mem_toList.mp h)) hnot
      · exact ⟨t, Option.mem_toList.mp h, fun h ↦ hnot ((b.works_withTarget _ _).mp h)⟩
    unfold Procedure.Succeeds during
    rw [(sameRun_under s.mux _ hworks).value]
    exact not_succeeds_under hmodule

end Select

namespace Eeprom

variable {e : Eeprom} {b : Bench} {body : Selected → Procedure α}

/-- A session that succeeds got to the module. -/
theorem opens_of_succeeds (h : (e.session body).Succeeds b) : e.Opens b := by
  have hgroups {rest : Procedure α} (h : (e.selector.during rest).Succeeds b) :
      ∀ t ∈ e.selector.targets, (b.pin t.group.id).Works := by
    refine fun t ht ↦ Classical.byContradiction fun hnot ↦ ?_
    exact Selector.not_succeeds_during ⟨t, ht, hnot⟩ h
  unfold session at h
  split at h
  · rename_i l hl
    obtain ⟨present, hpresent, h⟩ := Procedure.succeeds_bind.mp h
    rw [l.final_read] at h
    cases present with
    | false => exact absurd h (Procedure.not_succeeds_of_error rfl)
    | true =>
      refine ⟨fun l' hl' ↦ ?_, hgroups h⟩
      cases Option.some.inj (hl.symm.trans hl')
      exact hpresent
  · rename_i hnone
    exact ⟨fun l hl ↦ absurd hl (hnone l), hgroups h⟩

/-- A session succeeds if it gets to the module and succeeds there. -/
theorem succeeds_session :
    (e.session body).Succeeds b ↔
      e.Opens b ∧ (body e.selected).Succeeds (e.selector.applied b) := by
  constructor
  · intro h
    have hopens := opens_of_succeeds h
    refine ⟨hopens, ?_⟩
    unfold Procedure.Succeeds at h ⊢
    rw [← (hopens.sameRun body).value]
    exact h
  · rintro ⟨hopens, h⟩
    unfold Procedure.Succeeds
    rw [(hopens.sameRun body).value]
    exact h

end Eeprom

/-! ## Initialization -/

/-- A module in the cage can be identified: it is there, the groups that select it can be acquired
and written, its identifier can be read, and its revision unless it is in an adapter. -/
structure Cage.Identifiable (c : Cage) (b : Bench) : Prop where
  present : c.presence.read.run.value Bench.answer b = .ok true
  groups : ∀ t ∈ c.selector.targets, (b.pin t.group.id).Works
  bytes : ∃ id, (b.segment.read c.address QsfpMap.identifier 1).1 = .ok id ∧
    (byteIn id = 0x03 ∨ byteIn id = 0x0b ∨ b.segment.Readable c.address QsfpMap.revision 1)

/-- Modules in adapters are those of two kinds. -/
theorem Identifier.isAdapted_ofByte {v : UInt8} :
    (ofByte v).isAdapted = true ↔ v = 0x03 ∨ v = 0x0b := by
  constructor
  · intro h
    unfold ofByte at h
    split at h <;> simp_all [isAdapted]
  · rintro (rfl | rfl) <;> rfl

namespace Qsfp

/-- A module that can be identified is one that a session gets to. -/
theorem identifiable_iff {q : Qsfp} {b : Bench} :
    q.cage.Identifiable b ↔ q.eeprom.Opens b ∧
      ∃ id, (b.segment.read q.cage.address QsfpMap.identifier 1).1 = .ok id ∧
        (byteIn id = 0x03 ∨ byteIn id = 0x0b ∨
          b.segment.Readable q.cage.address QsfpMap.revision 1) := by
  constructor
  · rintro ⟨hpresent, hgroups, hbytes⟩
    refine ⟨⟨fun l hl ↦ ?_, hgroups⟩, hbytes⟩
    cases hl
    exact hpresent
  · rintro ⟨hopens, hbytes⟩
    exact ⟨hopens.present _ rfl, hopens.groups, hbytes⟩

/-- Discovery succeeds where the module can be identified; it minds no other failure. -/
theorem succeeds_discover {q : Qsfp} {b : Bench} :
    q.discover.Succeeds b ↔ q.cage.Identifiable b := by
  rw [identifiable_iff]
  unfold discover session
  rw [Eeprom.succeeds_session, Selected.succeeds_lowerByte_bind, Selector.segment_applied]
  refine and_congr_right fun _ ↦ exists_congr fun id ↦ and_congr_right fun _ ↦ ?_
  rw [← or_assoc, ← Identifier.isAdapted_ofByte]
  cases hid : (Identifier.ofByte (byteIn id)).isAdapted with
  | true => simpa [hid] using Procedure.succeeds_pure _
  | false =>
    dsimp only
    rw [hid, if_neg Bool.false_ne_true, Procedure.succeeds_lift_bind,
      Selected.succeeds_lowerByte_bind]
    have hwiring (p : Program (Except Error UInt8)) : b.segment.SameWiring
        ((homePage q.eeprom.selected).final Bench.answer
          (p.final Bench.answer (q.eeprom.selector.applied b))).segment := by
      rw [← q.eeprom.selector.segment_applied b]
      exact (p.sameWiring _).trans (Program.sameWiring _ _)
    rw [or_iff_right Bool.false_ne_true, ← (hwiring _).readable]
    refine exists_congr fun revision ↦ and_iff_left ?_
    -- from here on nothing fails that is minded
    split
    · split
      · exact Procedure.succeeds_lift_bind.mpr (Procedure.succeeds_pure _)
      · exact Procedure.succeeds_pure _
    · exact Procedure.succeeds_lift_bind.mpr (Procedure.succeeds_pure _)

/-! ## Drivers -/

/-- A driver that is made anew, with the same cage and timing. -/
def anew (q : Qsfp) : Qsfp := { ofCage q.cage with txSettle := q.txSettle }

/-- A module is looked into without regard to what is known. -/
theorem discover_anew (q : Qsfp) : q.anew.discover = q.discover := rfl

section Init

variable {σ : Type} (q : Qsfp) (env : Environment σ) (s : σ)

/-- A driver takes what is found of a module, all of it or nothing. -/
theorem value_moduleInit :
    (q.perform (.moduleInit true)).value env s =
      match q.discover.run.value env s with
      | .ok found => (.ok (), { q with found := found })
      | .error e => (.error e, q) := by
  dsimp only [perform, moduleInit]
  rw [if_pos rfl, Program.bind_eq, Program.value_bind]
  cases q.discover.run.value env s <;> rfl

/-- A module is forgotten without a question. -/
theorem value_moduleInit_removed :
    (q.perform (.moduleInit false)).value env s = (.ok (), q.anew) := by
  dsimp only [perform, moduleInit]
  rw [if_neg Bool.false_ne_true]
  split <;> rfl

/-- What a driver returns of a module does not depend on what it knew. -/
theorem fst_moduleInit :
    ((q.perform (.moduleInit true)).value env s).1 =
      ((q.anew.perform (.moduleInit true)).value env s).1 := by
  rw [value_moduleInit, value_moduleInit, discover_anew]
  cases q.discover.run.value env s <;> rfl

/-- If there is a module, neither does what the driver knows of it. -/
theorem snd_moduleInit (h : ((q.perform (.moduleInit true)).value env s).1 = .ok ()) :
    ((q.perform (.moduleInit true)).value env s).2 =
      ((q.anew.perform (.moduleInit true)).value env s).2 := by
  rw [value_moduleInit] at h ⊢
  rw [value_moduleInit, discover_anew]
  cases hdiscover : q.discover.run.value env s with
  | ok found => rfl
  | error e =>
    rw [hdiscover] at h
    cases h

end Init

/-- Initialization succeeds where the module can be identified. -/
theorem moduleInit_ok_iff {q : Qsfp} {b : Bench} :
    ((q.perform (.moduleInit true)).value Bench.answer b).1 = .ok () ↔
      q.cage.Identifiable b := by
  rw [← succeeds_discover, value_moduleInit]
  unfold Procedure.Succeeds
  cases q.discover.run.value Bench.answer b <;> simp

/-! ## Histories -/

/-- The driver after operations that are each on a bench of its own, as modules come and go. -/
def after (q : Qsfp) (history : List (Operation × Bench)) : Qsfp :=
  history.foldl (fun q x ↦ ((q.perform x.1).value Bench.answer x.2).2) q

/-- What becomes of a driver if an operation is asked of a new one: that takes its place once it
initialized or forgot a module. -/
def renewed (new q : Qsfp) : Operation × Bench → Qsfp
  | (.moduleInit present, b) =>
    match (new.perform (.moduleInit present)).value Bench.answer b with
    | (.ok _, q') => q'
    | (.error _, _) => q
  | _ => q

theorem perform_eq_renewed (q : Qsfp) (op : Operation) (b : Bench) :
    ((q.perform op).value Bench.answer b).2 = renewed q.anew q (op, b) := by
  cases op with
  | moduleInit present =>
    cases present with
    | false => rw [value_moduleInit_removed, renewed, value_moduleInit_removed]; rfl
    | true =>
      rw [value_moduleInit, renewed, value_moduleInit, discover_anew]
      cases q.discover.run.value Bench.answer b <;> rfl
  | _ => exact keeping_value _ b q _

/-- An operation leaves the cage and the timing as they are. -/
theorem anew_perform (q : Qsfp) (op : Operation) (b : Bench) :
    ((q.perform op).value Bench.answer b).2.anew = q.anew := by
  cases op with
  | moduleInit present =>
    cases present with
    | false => rw [value_moduleInit_removed]; rfl
    | true =>
      rw [value_moduleInit]
      cases q.discover.run.value Bench.answer b <;> rfl
  | _ => exact congrArg anew (keeping_value _ b q _)

theorem anew_after (q : Qsfp) (history : List (Operation × Bench)) :
    (q.after history).anew = q.anew := by
  induction history generalizing q with
  | nil => rfl
  | cons x history ih => exact (ih _).trans (q.anew_perform x.1 x.2)

/-- All that a driver knows after a history is what a new driver found of the last module. -/
theorem after_eq_foldl (q : Qsfp) (history : List (Operation × Bench)) :
    q.after history = history.foldl (renewed q.anew) q := by
  induction history generalizing q with
  | nil => rfl
  | cons x history ih =>
    change after ((q.perform x.1).value Bench.answer x.2).2 history = _
    rw [ih, anew_perform, perform_eq_renewed]
    rfl

/-- Whatever operations a driver was asked for, on whatever benches, it initializes a module exactly
if that can be identified.  Then it is what a new driver is after the same, also as to the module in
an adapter, and else it stays as it was.  Removing a module always makes a new driver of it, and no
other operation changes it: it is what a new driver was when one last initialized or forgot a
module. -/
theorem moduleInit_lifecycle (q : Qsfp) (history : List (Operation × Bench)) (b : Bench) :
    let q' := q.after history
    let init := (q'.perform (.moduleInit true)).value Bench.answer b
    let init' := (q.anew.perform (.moduleInit true)).value Bench.answer b
    (init.1 = .ok () ↔ q.cage.Identifiable b) ∧ init.1 = init'.1 ∧
      (init.1 = .ok () → init.2 = init'.2 ∧ init.2.adapter? = init'.2.adapter?) ∧
      (∀ e, init.1 = .error e → init.2 = q') ∧
      (q'.perform (.moduleInit false)).value Bench.answer b = (.ok (), q.anew) ∧
      (∀ op, (∀ present, op ≠ .moduleInit present) →
        ((q'.perform op).value Bench.answer b).2 = q') ∧
      q' = history.foldl (renewed q.anew) q := by
  intro q' init init'
  have hanew : q'.anew = q.anew := q.anew_after history
  have hid : q'.cage.Identifiable b ↔ q.cage.Identifiable b := by
    rw [show q'.cage = q'.anew.cage from rfl, hanew]
    rfl
  have hinit' : (q'.anew.perform (.moduleInit true)).value Bench.answer b = init' := by rw [hanew]
  refine ⟨moduleInit_ok_iff.trans hid, ?_, fun h ↦ ?_, fun e he ↦ ?_, ?_, fun op hop ↦ ?_,
    q.after_eq_foldl history⟩
  · rw [← hinit']
    exact q'.fst_moduleInit Bench.answer b
  · have h' : init.2 = init'.2 := by
      rw [← hinit']
      exact q'.snd_moduleInit Bench.answer b h
    exact ⟨h', congrArg adapter? h'⟩
  · exact q'.perform_of_not_moduleInit fun present hpresent ↦ by cases hpresent; exact ⟨e, he⟩
  · rw [← hanew]
    exact q'.value_moduleInit_removed Bench.answer b
  · exact q'.perform_of_not_moduleInit fun present hpresent ↦ absurd hpresent (hop present)

/-- A module in an adapter, followed by one that tells neither its pages nor its power class, and by
none. -/
theorem moduleInit_lifecycle_swapped :
    let c : Cage := {
      instanceId := 0, name := "port0", family := .qsfp, portType := .qsfp, address := 0x50
      selector := ⟨none, none⟩, selectDelay := .zero, presence := ⟨⟨"control", 0⟩, 0⟩
      reset := none, resetDelay := .zero, lowPower := none, txControl := none, rxLoss := none
      txFault := none, portLed := none, defaultSpeedMbps := none, channelOffset := 0
      maxPowerMw := 3500 }
    let adapter : Bench :=
      ⟨(Segment.blank.addModule 0x50).poke 0x50 0 0 [0x03], fun _ ↦ .ofLevel 1⟩
    let mute : Bench :=
      ⟨(((Segment.blank.addModule 0x50).poke 0x50 0 0 [0x11, 7]).failReads
        ⟨0x50, QsfpMap.status⟩).failReads ⟨0x50, QsfpMap.extIdentifier⟩, fun _ ↦ .ofLevel 1⟩
    let q := (ofCage c).after [(.moduleInit true, adapter)]
    let init := q.perform (.moduleInit true)
    q.found.adapted = true ∧ (init.value Bench.answer mute).1 = .ok () ∧
      (init.value Bench.answer mute).2.found = ⟨.qsfp28, 7, none, false⟩ ∧
      (init.value Bench.answer Bench.blank).2 = q := by
  intro c adapter mute q init
  have hid : c.Identifiable mute :=
    ⟨Line.value_read_eq_ok.mpr ⟨⟨⟨rfl, rfl⟩, by decide⟩, by decide⟩, nofun,
      _, rfl, .inr (.inr ⟨_, rfl⟩)⟩
  obtain ⟨hok, -, hfound, -⟩ :=
    moduleInit_lifecycle (ofCage c) [(.moduleInit true, adapter)] mute
  obtain ⟨-, -, -, hkept, -⟩ :=
    moduleInit_lifecycle (ofCage c) [(.moduleInit true, adapter)] Bench.blank
  refine ⟨?_, hok.mpr hid, ?_, hkept .notPresent ?_⟩
  · dsimp only [q, c, adapter]
    decide +kernel
  · have hnew := (hfound (hok.mpr hid)).1
    dsimp only [init, q] at hnew ⊢
    rw [hnew]
    dsimp only [c, mute]
    decide +kernel
  · dsimp only [c, adapter]
    rfl

end Qsfp

end Transceiver
