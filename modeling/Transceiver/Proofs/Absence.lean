import Transceiver.Proofs.Conduct.Driver
import Transceiver.Proofs.Session

/-!
# Cages without a module

Whatever shares the bus with a cage is left alone while the cage is empty.  Main statement: as long
as the presence line of a cage can be read and tells that there is no module, no operation does
anything on the bus, and what the module would have to be asked for is refused.

The line is looked at anew for each session, so it must not be changed in between.  The one
operation that drives a line before a session holds the module in reset; it is excepted where the
line of the reset is the presence line itself.
-/

namespace Transceiver

variable {α β : Type}

/-! ## Errors -/

namespace Error

/-- The bus refused a transaction, maybe one for a packet. -/
def IsBusFailure : Error → Prop
  | .bus _ _ _ => True
  | .chainFailed _ source => source.IsBusFailure
  | _ => False

/-- There is no module, or no such capability, or else the channel is missing. -/
def TellsAbsence (missing : Prop) : Error → Prop
  | .notPresent | .notSupported => True
  | .invalidArgument _ => missing
  | _ => False

theorem TellsAbsence.imp {missing missing' : Prop} {e : Error} (h : e.TellsAbsence missing)
    (hm : missing → missing') : e.TellsAbsence missing' := by
  cases e with
  | invalidArgument _ => exact hm h
  | _ => exact h

theorem TellsAbsence.not_isBusFailure {missing : Prop} {e : Error} (h : e.TellsAbsence missing) :
    ¬ e.IsBusFailure := by
  cases e with
  | bus _ _ _ | chainFailed _ _ => exact h.elim
  | _ => exact id

end Error

/-! ## Lines -/

namespace PinGroup

variable {g : PinGroup} {b : Bench}

/-- A group that cannot be acquired keeps a procedure from being run. -/
theorem hold_runsTo_of_failAcquire (h : (b.pin g.id).failAcquire = true) (body : Procedure α) :
    (g.hold body).RunsTo Bench.answer b (.error (.gpio g.name Pin.refusal)) b := by
  have hacquire : (Bench.answer (.acquire g) b).1 = .error Pin.refusal := by
    simp [Bench.answer, Pin.acquire, h]
  constructor
  · change Program.value (.ask _ _) _ _ = _
    rw [Program.value_ask, hacquire]
    rfl
  · change Program.final (.ask _ _) _ _ = _
    rw [Program.final_ask, hacquire]
    rfl

/-- A group that refuses accesses does not tell its level. -/
theorem readLevel_runsTo_of_failAccess (h : (b.pin g.id).failAccess = true) :
    g.readLevel.RunsTo Bench.answer b (.error (.gpio g.name Pin.refusal)) b := by
  have hanswer : Bench.answer (.readLevel g) b = (.error Pin.refusal, b) := by
    simp [Bench.answer, Pin.read, h]
  constructor
  · rw [run_readLevel, Program.value_ask, hanswer]
    rfl
  · rw [run_readLevel, Program.final_ask, hanswer]
    rfl

/-- While a group that can be acquired is held, a procedure runs as it does alone. -/
theorem hold_runsTo (h : (b.pin g.id).failAcquire = false) {body : Procedure α}
    {r : Except Error α} {b' : Bench} (hbody : body.RunsTo Bench.answer b r b') :
    (g.hold body).RunsTo Bench.answer b r b' :=
  ⟨(sameRun_hold body h).value.trans hbody.value, (sameRun_hold body h).final.trans hbody.final⟩

end PinGroup

namespace Line

/-- The line can be read and written. -/
def Works (l : Line) (b : Bench) : Prop := (b.pin l.group.id).Works ∧ l.bit < 32

/-- The word with the bit of a line that exists. -/
def word (l : Line) : UInt32 := 1 <<< l.bit.toUInt32

/-- A level with the bit of the line set or cleared. -/
def assigned (l : Line) (on : Bool) (level : UInt32) : UInt32 :=
  if on then level ||| l.word else level &&& ~~~ l.word

variable {l l' : Line} {b : Bench}

/-- What depends on the level of a line that works goes on from the level. -/
theorem access_runsTo (h : l.Works b) {f : UInt32 → UInt32 → Procedure α} {r : Except Error α}
    {b' : Bench} (hf : (f l.word (b.pin l.group.id).level).RunsTo Bench.answer b r b') :
    (l.group.hold (do
      let m ← l.mask
      let level ← l.group.readLevel
      f m level)).RunsTo Bench.answer b r b' := by
  have hmask : l.mask = .ok l.word := if_pos h.2
  refine PinGroup.hold_runsTo h.1.1 ?_
  rw [hmask]
  exact (Procedure.RunsTo.liftExcept _ _).bind ((PinGroup.readLevel_runsTo h.1).bind hf)

/-- What depends on the level of a line that does not work fails. -/
theorem access_fails (h : ¬ l.Works b) (f : UInt32 → UInt32 → Procedure α) :
    ∃ e : Error, ¬ e.IsBusFailure ∧ (l.group.hold (do
      let m ← l.mask
      let level ← l.group.readLevel
      f m level)).RunsTo Bench.answer b (.error e) b := by
  cases hacquire : (b.pin l.group.id).failAcquire with
  | true => exact ⟨_, id, PinGroup.hold_runsTo_of_failAcquire hacquire _⟩
  | false =>
    by_cases hbit : l.bit < 32
    · have haccess : (b.pin l.group.id).failAccess = true := by
        simpa [Works, Pin.Works, hbit, hacquire] using h
      have hmask : l.mask = .ok l.word := if_pos hbit
      refine ⟨.gpio l.group.name Pin.refusal, id, PinGroup.hold_runsTo hacquire ?_⟩
      rw [hmask]
      exact (Procedure.RunsTo.liftExcept _ _).bind
        (PinGroup.readLevel_runsTo_of_failAccess haccess).bind_error
    · obtain ⟨reason, hmask⟩ : ∃ reason, l.mask = .error (.invalidArgument reason) :=
        ⟨_, if_neg hbit⟩
      refine ⟨.invalidArgument reason, id, PinGroup.hold_runsTo hacquire ?_⟩
      rw [hmask]
      exact (Procedure.RunsTo.liftExcept _ _).bind_error

/-- A line reads as its bit, if it works. -/
theorem value_read_eq_ok {on : Bool} :
    l.read.run.value Bench.answer b = .ok on ↔
      l.Works b ∧ ((b.pin l.group.id).level &&& l.word != 0) = on := by
  by_cases h : l.Works b
  · have hread : l.read.RunsTo Bench.answer b (.ok _) b := access_runsTo h (.pure _ _)
    rw [hread.value]
    simp [h]
  · obtain ⟨e, -, he⟩ := access_fails h fun m level ↦ pure (level &&& m != 0)
    have hread : l.read.RunsTo Bench.answer b (.error e) b := he
    rw [hread.value]
    simp [h]

/-- Writing a line that works changes its bit, and writing another one nothing. -/
theorem final_write (on : Bool) :
    (l.write on).run.final Bench.answer b = b ∨
      l.Works b ∧ (l.write on).run.final Bench.answer b =
        b.withLevel l.group.id (l.assigned on (b.pin l.group.id).level) := by
  by_cases h : l.Works b
  · have hwrite : (l.write on).RunsTo Bench.answer b (.ok ()) _ :=
      access_runsTo h (PinGroup.writeLevel_runsTo _ h.1)
    exact .inr ⟨h, hwrite.final⟩
  · obtain ⟨e, -, he⟩ := access_fails h fun m level ↦
      l.group.writeLevel (if on then level ||| m else level &&& ~~~ m)
    exact .inl he.final

theorem toNat_word (h : l.bit < 32) : l.word.toNat = 1 <<< l.bit.toNat := by
  have hbit : l.bit.toNat < 32 := h
  have hpow : 2 ^ l.bit.toNat < 2 ^ 32 := Nat.pow_lt_pow_right (by decide) hbit
  unfold word
  rw [UInt32.toNat_shiftLeft, UInt8.toNat_toUInt32, Nat.mod_eq_of_lt hbit]
  change 1 <<< l.bit.toNat % 2 ^ 32 = _
  rw [Nat.one_shiftLeft, Nat.mod_eq_of_lt hpow]

/-- Two lines of a group have no bit in common. -/
theorem word_and_word (h : l.bit < 32) (h' : l'.bit < 32) (hne : l.bit ≠ l'.bit) :
    l.word &&& l'.word = 0 := by
  have hne : l.bit.toNat ≠ l'.bit.toNat := mt UInt8.toNat_inj.mp hne
  rw [← UInt32.toNat_inj, UInt32.toNat_and, toNat_word h, toNat_word h', Nat.one_shiftLeft,
    Nat.one_shiftLeft]
  refine Nat.eq_of_testBit_eq fun i ↦ ?_
  rw [Nat.testBit_and, Nat.testBit_two_pow, Nat.testBit_two_pow]
  simp
  omega

/-- Setting or clearing a line leaves the bits of others as they are. -/
theorem assigned_and (on : Bool) (level : UInt32) {w : UInt32} (h : l.word &&& w = 0) :
    l.assigned on level &&& w = level &&& w := by
  rw [← UInt32.toBitVec_inj] at h ⊢
  ext i hi
  have hbit : l.word.toBitVec[i] = true → w.toBitVec[i] = false := by
    simpa using congrArg (·[i]) h
  cases on <;> simp [assigned] <;> grind

/-- A line reads as it did after another one was written. -/
theorem value_read_of_write (on : Bool) {on' : Bool}
    (hne : l.group.id = l'.group.id → l.bit ≠ l'.bit)
    (h : l'.read.run.value Bench.answer b = .ok on') :
    l'.read.run.value Bench.answer ((l.write on).run.final Bench.answer b) = .ok on' := by
  rcases l.final_write (b := b) on with hfinal | ⟨hl, hfinal⟩
  · rw [hfinal]
    exact h
  · rw [value_read_eq_ok] at h ⊢
    obtain ⟨⟨hgroup, hbit⟩, hlevel⟩ := h
    rw [hfinal]
    refine ⟨⟨(b.works_withLevel _ _ _).mpr hgroup, hbit⟩, ?_⟩
    by_cases hid : l'.group.id = l.group.id
    · have hword : l.word &&& l'.word = 0 := word_and_word hl.2 hbit (hne hid.symm)
      have hpin : ((b.withLevel l.group.id (l.assigned on (b.pin l.group.id).level)).pin
          l'.group.id).level = l.assigned on (b.pin l.group.id).level := by
        simp [Bench.withLevel, Bench.setPin, hid]
      rw [hpin, assigned_and on _ hword, ← hid]
      exact hlevel
    · have hpin : (b.withLevel l.group.id (l.assigned on (b.pin l.group.id).level)).pin
          l'.group.id = b.pin l'.group.id := if_neg hid
      rw [hpin]
      exact hlevel

end Line

/-! ## Nothing on the bus -/

/-- From a bench a program does nothing on the bus; what it returns and where it ends is as `Q`
says. -/
structure Program.Silent (p : Program α) (b : Bench) (Q : α → Bench → Prop) : Prop where
  transactions : (p.trace Bench.answer b).transactions = []
  ends : Q (p.value Bench.answer b) (p.final Bench.answer b)

namespace Program.Silent

variable {p : Program α} {b : Bench} {Q : α → Bench → Prop}

theorem done {a : α} (h : Q a b) : (Program.done a).Silent b Q := ⟨rfl, h⟩

theorem imp {Q' : α → Bench → Prop} (h : p.Silent b Q) (hQ : ∀ a b', Q a b' → Q' a b') :
    p.Silent b Q' := ⟨h.transactions, hQ _ _ h.ends⟩

theorem bind {f : α → Program β} {R : β → Bench → Prop} (h : p.Silent b Q)
    (hf : ∀ a b', Q a b' → (f a).Silent b' R) : (p.bind f).Silent b R := by
  have hrest := hf _ _ h.ends
  constructor
  · rw [trace_bind, Trace.transactions_append, h.transactions, hrest.transactions]
    rfl
  · rw [value_bind, final_bind]
    exact hrest.ends

theorem report (severity : Severity) (message : String) (fields : List (String × String)) :
    (Transceiver.report severity message fields).Silent b fun _ b' ↦ b' = b := ⟨rfl, rfl⟩

theorem settle (span : Duration) : (Transceiver.settle span).Silent b fun _ b' ↦ b' = b := by
  unfold Transceiver.settle
  split <;> exact ⟨rfl, rfl⟩

end Program.Silent

namespace Procedure

/-- From a bench a procedure does nothing on the bus, and does not fail for what happens there. -/
def OffBus (p : Procedure α) (b : Bench) : Prop :=
  p.run.Silent b fun r _ ↦ ∀ e, r = .error e → ¬ e.IsBusFailure

/-- From a bench a procedure fails because of what is not there; nothing happens on the bus, and the
bench stays as it is. -/
def Refused (p : Procedure α) (b : Bench) (missing : Prop) : Prop :=
  p.run.Silent b fun r b' ↦ b' = b ∧ ∃ e, r = .error e ∧ e.TellsAbsence missing

variable {p : Procedure α} {f : α → Procedure β} {b : Bench} {m : Prop}

/-- A procedure in sequence fails where its first part does. -/
theorem silent_bind {Q : Except Error α → Bench → Prop} {R : Except Error β → Bench → Prop}
    (h : p.run.Silent b Q) (hok : ∀ a b', Q (.ok a) b' → (f a).run.Silent b' R)
    (herror : ∀ e b', Q (.error e) b' → R (.error e) b') : (p >>= f).run.Silent b R := by
  rw [run_bind]
  refine h.bind fun r b' hr ↦ ?_
  cases r with
  | ok a => exact hok a b' hr
  | error e => exact .done (herror e b' hr)

theorem silent_lift {p : Program α} {Q : α → Bench → Prop} (h : p.Silent b Q) :
    (liftM p : Procedure α).run.Silent b fun r b' ↦ ∃ a, r = .ok a ∧ Q a b' :=
  h.bind fun a _ ha ↦ .done ⟨a, rfl, ha⟩

namespace OffBus

theorem pure (a : α) : OffBus (Pure.pure a) b := .done nofun

theorem throw {e : Error} (h : ¬ e.IsBusFailure) :
    OffBus (MonadExcept.throw e : Procedure α) b := .done fun _ he ↦ (Except.error.inj he) ▸ h

theorem bind (h : p.OffBus b) (hf : ∀ a b', (f a).OffBus b') : OffBus (p >>= f) b :=
  silent_bind h (fun a b' _ ↦ hf a b') fun _ _ he e' h' ↦ he e' (by cases h'; rfl)

theorem ite {c : Prop} [Decidable c] {p q : Procedure α} (hp : p.OffBus b) (hq : q.OffBus b) :
    OffBus (if c then p else q) b := by
  split
  · exact hp
  · exact hq

/-- A procedure that goes on only if a condition fails. -/
theorem refuse {c : Prop} [Decidable c] {e : Error} (he : ¬ e.IsBusFailure) (h : p.OffBus b) :
    OffBus (if c then (do MonadExcept.throw e; p) else p) b :=
  .ite (.throw he) h

end OffBus

namespace Refused

theorem throw {e : Error} (h : e.TellsAbsence m) :
    Refused (MonadExcept.throw e : Procedure α) b m := .done ⟨rfl, e, rfl, h⟩

theorem bind (h : p.Refused b m) : Refused (p >>= f) b m :=
  silent_bind h (fun _ _ ⟨_, _, he, _⟩ ↦ nomatch he) fun _ _ ⟨hb, _, he, hm⟩ ↦
    ⟨hb, _, by cases he; rfl, hm⟩

/-- A check may fail, and what follows does. -/
theorem check {r : Except Error α} (hr : ∀ e, r = .error e → e.TellsAbsence m)
    (hf : ∀ a, (f a).Refused b m) : Refused (liftM r >>= f) b m := by
  cases r with
  | ok a => exact hf a
  | error e => exact .done ⟨rfl, e, rfl, hr e rfl⟩

/-- A program that leaves the bench as it is may come first. -/
theorem lift {p : Program α} (h : p.Silent b fun _ b' ↦ b' = b) (hf : ∀ a, (f a).Refused b m) :
    Refused (liftM p >>= f) b m := by
  refine silent_bind (silent_lift h) ?_ nofun
  rintro a b' ⟨_, ha, rfl⟩
  exact hf a

theorem offBus (h : p.Refused b True) : p.OffBus b :=
  Program.Silent.imp h fun _ _ ⟨_, _, he, hm⟩ _ he' ↦ by
    cases he.symm.trans he'
    exact hm.not_isBusFailure

end Refused

end Procedure

namespace Line

variable (l : Line) (b : Bench)

theorem offBus_read : l.read.OffBus b := by
  refine ⟨Program.MadeOf.transactions_eq_nil l.read_madeOf _ _, fun e he ↦ ?_⟩
  by_cases h : l.Works b
  · have hread : l.read.RunsTo Bench.answer b (.ok _) b := access_runsTo h (.pure _ _)
    cases hread.value.symm.trans he
  · obtain ⟨e', he', hread⟩ := access_fails h fun m level ↦ pure (level &&& m != 0)
    cases hread.value.symm.trans he
    exact he'

theorem offBus_write (on : Bool) : (l.write on).OffBus b := by
  refine ⟨Program.MadeOf.transactions_eq_nil (l.write_madeOf on) _ _, fun e he ↦ ?_⟩
  by_cases h : l.Works b
  · have hwrite : (l.write on).RunsTo Bench.answer b (.ok ()) _ :=
      access_runsTo h (PinGroup.writeLevel_runsTo _ h.1)
    cases hwrite.value.symm.trans he
  · obtain ⟨e', he', hwrite⟩ := access_fails h fun m level ↦
      l.group.writeLevel (if on then level ||| m else level &&& ~~~ m)
    cases hwrite.value.symm.trans he
    exact he'

end Line

/-! ## Sessions -/

/-- The presence line of the cage can be read, and tells that there is no module. -/
def Cage.Vacant (c : Cage) (b : Bench) : Prop :=
  c.presence.read.run.value Bench.answer b = .ok false

/-- The line that holds the module in reset is not the one that tells its presence. -/
def Cage.ResetSparesPresence (c : Cage) : Prop :=
  ∀ l ∈ c.reset, l.group.id = c.presence.group.id → l.bit ≠ c.presence.bit

/-- There is no session without a module. -/
theorem Eeprom.session_refused {e : Eeprom} {c : Cage} {b : Bench}
    (he : e.presence = some c.presence) (hb : c.Vacant b) (body : Selected → Procedure α)
    {m : Prop} : (e.session body).Refused b m := by
  have hread : c.presence.read.run.Silent b fun r b' ↦ b' = b ∧ r = .ok false :=
    ⟨Program.MadeOf.transactions_eq_nil c.presence.read_madeOf _ _, c.presence.final_read b, hb⟩
  unfold session
  rw [he]
  refine Procedure.silent_bind hread ?_ nofun
  rintro present b' ⟨rfl, hpresent⟩
  cases hpresent
  exact Procedure.Refused.bind (.throw trivial)

/-! ## Operations -/

namespace Operation

/-- The module has to be asked for the answer: a monitor, a threshold, a flag or its serial ID. -/
def AsksModule : Operation → Prop
  | .moduleMonitor _ | .channelMonitor _ _ | .threshold _ | .vendorInfo _ | .transceiverCode
  | .parameter _ | .moduleMonitorStatus _ | .channelMonitorStatus _ _ => True
  | _ => False

/-- The channel that the module is asked for. -/
def channel? : Operation → Option UInt8
  | .channelMonitor channel _ | .channelMonitorStatus channel _ => some channel
  | _ => none

/-- What may become of an operation without a module: nothing fails on the bus, and what the module
would have to be asked for is refused.  `missing` tells whether a channel is missing. -/
def Shut (op : Operation) (missing : UInt8 → Prop) (r : Except Error α) : Prop :=
  (∀ e, r = .error e → ¬ e.IsBusFailure) ∧
    (op.AsksModule → ∃ e, r = .error e ∧ e.TellsAbsence (∃ c ∈ op.channel?, missing c))

end Operation

section Shut

variable {op : Operation} {missing missing' : UInt8 → Prop} {p : Procedure α} {b : Bench}

theorem Operation.Shut.imp {r : Except Error α} (h : op.Shut missing r)
    (hm : ∀ c ∈ op.channel?, missing c → missing' c) : op.Shut missing' r := by
  refine ⟨h.1, fun hop ↦ ?_⟩
  obtain ⟨e, rfl, he⟩ := h.2 hop
  exact ⟨e, rfl, he.imp fun ⟨c, hc, hmissing⟩ ↦ ⟨c, hc, hm c hc hmissing⟩⟩

theorem Procedure.Refused.shut {m : Prop} (h : p.Refused b m)
    (hm : op.AsksModule → m → ∃ c ∈ op.channel?, missing c) :
    p.run.Silent b fun r _ ↦ op.Shut missing r := by
  refine h.imp ?_
  rintro r b' ⟨-, e, rfl, he⟩
  exact ⟨fun _ he' ↦ (Except.error.inj he') ▸ he.not_isBusFailure,
    fun hop ↦ ⟨e, rfl, he.imp (hm hop)⟩⟩

theorem Procedure.OffBus.shut (h : p.OffBus b) (hop : ¬ op.AsksModule) :
    p.run.Silent b fun r _ ↦ op.Shut missing r :=
  Program.Silent.imp h fun _ _ he ↦ ⟨he, fun h ↦ absurd h hop⟩

end Shut

section Lane

variable {channel n : UInt8} {f : Lane n → Procedure α} {b : Bench}

/-- A channel that is not there may be refused. -/
theorem Lane.check_refused {m : Prop} (hm : ¬ channel < n → m)
    (hf : ∀ lane, (f lane).Refused b m) :
    Procedure.Refused (liftM (check channel n) >>= f) b m := by
  refine .check (fun e he ↦ ?_) hf
  unfold check at he
  split at he
  · cases he
  · rename_i hlt
    cases he
    exact hm hlt

theorem Lane.check_offBus (hf : ∀ lane, (f lane).OffBus b) :
    Procedure.OffBus (liftM (check channel n) >>= f) b := by
  unfold check
  split
  · exact hf _
  · exact .throw id

end Lane

namespace Sfp

section Refused

variable {s : Sfp} {b : Bench} (hb : s.cage.Vacant b) {m : Prop}
include hb

theorem session_refused (body : Selected → Procedure α) : (s.session body).Refused b m :=
  Eeprom.session_refused rfl hb body

theorem moduleMonitorStatus_refused (flags : ModuleStatus) :
    (s.moduleMonitorStatus flags).Refused b m := session_refused hb _

theorem channelMonitorStatus_refused (channel : UInt8) (flags : ChannelMonitorStatus) :
    (s.channelMonitorStatus channel flags).Refused b (¬ channel < channels) :=
  Lane.check_refused id fun _ ↦ session_refused hb _

theorem measure_refused (a : Address)
    (interpret : Selected → CalibrationKind → UInt16 → Procedure α) :
    (s.measure a interpret).Refused b m := session_refused hb _

theorem monitor_refused (q : Quantity) : (s.monitor q).Refused b m := measure_refused hb _ _

theorem channelMonitor_refused (channel : UInt8) (q : ChannelMonitor) :
    (s.channelMonitor channel q).Refused b (¬ channel < channels) :=
  Lane.check_refused id fun _ ↦ monitor_refused hb _

theorem read_refused (a : Address) (length : Nat) : (s.eeprom.read a length).Refused b m :=
  session_refused hb _

theorem write_refused (a : Address) (data : List UInt8) :
    (s.eeprom.write a data).Refused b m := session_refused hb _

theorem threshold_refused (t : Threshold) : (s.threshold t).Refused b m := by
  unfold threshold
  split
  · exact .throw trivial
  · exact measure_refused hb _ _

theorem parameter_refused (p : Parameter) : (s.parameter p).Refused b m := by
  dsimp only [parameter]
  split
  · exact .bind (read_refused hb _ _)
  · exact .lift (.report _ _ _) fun _ ↦ Procedure.Refused.bind (.throw trivial)

theorem vendorInfo_refused (v : VendorField) : (s.vendorInfo v).Refused b m :=
  .bind (read_refused hb _ _)

theorem transceiverCode_refused : s.transceiverCode.Refused b m := .bind (read_refused hb _ _)

theorem featureSupport_refused : s.featureSupport.Refused b m := session_refused hb _

theorem wavelengthSet_refused (nm : Float) : (s.wavelengthSet nm).Refused b m :=
  session_refused hb _

/-- No packet is run without a module. -/
theorem chain_refused (ps : List Packet) :
    (s.chain ps).Silent b fun r _ ↦ ∃ e, r = (ps, .error e) ∧ e.TellsAbsence False := by
  refine Program.Silent.bind
    (session_refused (m := False) hb fun m ↦ liftM (Mailbox.chain m s.phy.timing ps)) ?_
  rintro r b' ⟨rfl, e, rfl, he⟩
  exact .done ⟨e, rfl, he⟩

end Refused

section OffBus

variable {s : Sfp} {b : Bench}

theorem condition_offBus (line : Option Line) (soft : SoftStatus) (supportBit stateBit : Bit) :
    (condition line soft supportBit stateBit).OffBus b := by
  unfold condition
  split
  · exact Line.offBus_read _ b
  · split
    · exact .ite (.pure _) (.throw id)
    · exact .throw id

theorem flagIf_offBus (flags flag : ChannelStatus) {holds : Procedure Bool}
    (h : holds.OffBus b) : (flagIf flags flag holds).OffBus b :=
  .ite (.bind h fun _ _ ↦ .ite (.pure _) (.pure _)) (.pure _)

theorem ledSet_offBus (channel : UInt8) (speed : Speed) : (s.ledSet channel speed).OffBus b := by
  refine Lane.check_offBus fun _ ↦ ?_
  split
  · rename_i led _
    unfold ledLevel
    split
    · exact led.line.offBus_write b _
    · exact led.line.offBus_write b _
    · exact .throw id
  · exact .throw id

variable (hb : s.cage.Vacant b)
include hb

/-- The conditions that have lines are told all the same. -/
theorem channelStatus_offBus (channel : UInt8) (flags : ChannelStatus) :
    (s.channelStatus channel flags).OffBus b := by
  have hsession : ∀ rest : SoftStatus → Procedure ChannelStatus,
      (s.session softStatus >>= rest).OffBus b := fun _ ↦ (session_refused hb _).bind.offBus
  refine Lane.check_offBus fun _ ↦ .refuse id (.ite (.bind (.pure _) fun soft b' ↦ ?_) (hsession _))
  exact .bind (flagIf_offBus _ _ (condition_offBus _ _ _ _)) fun _ _ ↦
    .bind (flagIf_offBus _ _ (condition_offBus _ _ _ _)) fun _ _ ↦
    .bind (flagIf_offBus _ _ (condition_offBus _ _ _ _)) fun _ _ ↦ .pure _

theorem txControl_offBus (channel : UInt8) (enable : Bool) :
    (s.txControl channel enable).OffBus b := by
  refine Lane.check_offBus fun _ ↦ ?_
  split
  · exact Line.offBus_write _ b _
  · exact (session_refused hb _).offBus

theorem txControlStatus_offBus (channel : UInt8) : (s.txControlStatus channel).OffBus b := by
  refine Lane.check_offBus fun _ ↦ ?_
  split
  · exact .bind (Line.offBus_read _ b) fun _ _ ↦ .pure _
  · exact (session_refused hb _).offBus

end OffBus

/-- What an operation of the driver comes to without a module. -/
theorem serve_shut {s : Sfp} {b : Bench} (hb : s.cage.Vacant b) (op : Operation) :
    (s.serve op).run.Silent b fun r _ ↦ op.Shut (¬ · < channels) r := by
  cases op with
  | presence => exact (s.cage.presence.offBus_read b).shut id
  | moduleInit _ | speed | portInfo => exact Procedure.OffBus.shut (.pure _) id
  | moduleMonitorStatus flags =>
    exact (moduleMonitorStatus_refused hb flags).shut fun _ ↦ False.elim
  | channelMonitorStatus channel flags =>
    exact (channelMonitorStatus_refused hb channel flags).shut fun _ h ↦ ⟨channel, rfl, h⟩
  | channelStatus channel flags => exact (channelStatus_offBus hb channel flags).shut id
  | txControl channel enable => exact (txControl_offBus hb channel enable).shut id
  | txControlStatus channel => exact (txControlStatus_offBus hb channel).shut id
  | parameter p => exact (parameter_refused hb p).shut fun _ ↦ False.elim
  | vendorInfo v => exact (vendorInfo_refused hb v).shut fun _ ↦ False.elim
  | transceiverCode => exact (transceiverCode_refused hb).shut fun _ ↦ False.elim
  | threshold t => exact (threshold_refused hb t).shut fun _ ↦ False.elim
  | moduleMonitor q => exact (monitor_refused hb _).shut fun _ ↦ False.elim
  | channelMonitor channel q =>
    exact (channelMonitor_refused hb channel q).shut fun _ h ↦ ⟨channel, rfl, h⟩
  | ledSet channel speed => exact (ledSet_offBus channel speed).shut id
  | mailboxChain ps =>
    refine Procedure.OffBus.shut (Procedure.silent_bind
      (Procedure.silent_lift (chain_refused hb ps)) ?_ nofun) id
    rintro r b' ⟨_, hr, e, rfl, he⟩
    cases hr
    exact .done fun _ he' ↦ (Except.error.inj he') ▸ he.not_isBusFailure
  | readGeneric _ _ | read _ _ => exact Procedure.OffBus.shut (read_refused hb _ _).offBus id
  | writeGeneric _ _ | write _ _ => exact Procedure.OffBus.shut (write_refused hb _ _).offBus id
  | featureSupport => exact (featureSupport_refused hb).offBus.shut id
  | wavelengthSet nm => exact (wavelengthSet_refused hb nm).offBus.shut id
  | phyAutonegSet _ _ _ | phyModeSet _ _ _ | phySpeedSet _ _ _ | phyLinkStatus _ _
  | phyPowerDown _ _ _ | phySerdesControl _ _ _ | tenGigSetRate _ | tenGigTxState
  | tenGigSetTxState _ | tenGigSystemStatus | tenGigLineStatus | tenGigLinkStatus =>
    exact Procedure.OffBus.shut (session_refused hb _).offBus id
  | cdrSet _ _ | cdrStatus _ | moduleControl _ _ | moduleControlStatus _ | extRateSelect _ _ _
  | adapterKind | moduleInfo => exact Procedure.OffBus.shut (.throw id) id

end Sfp

/-! ## QSFP cages -/

namespace Qsfp

/-- The number of lanes that a channel of the driver may be. -/
def lanes (q : Qsfp) : UInt8 := if q.found.adapted then Sfp.channels else q.layout.channels

section Refused

variable {q : Qsfp} {b : Bench} (hb : q.cage.Vacant b) {m : Prop}
include hb

theorem session_refused (body : Selected → Procedure α) : (q.session body).Refused b m :=
  Eeprom.session_refused rfl hb body

theorem read_refused (a : Address) (length : Nat) : (q.eeprom.read a length).Refused b m :=
  session_refused hb _

theorem write_refused (a : Address) (data : List UInt8) :
    (q.eeprom.write a data).Refused b m := session_refused hb _

theorem moduleMonitorStatus_refused (flags : ModuleStatus) :
    (q.moduleMonitorStatus flags).Refused b m := session_refused hb _

theorem channelMonitorStatus_refused (channel : UInt8) (flags : ChannelMonitorStatus) :
    (q.channelMonitorStatus channel flags).Refused b (¬ channel < q.layout.channels) :=
  Lane.check_refused id fun _ ↦ session_refused hb _

theorem channelStatus_refused (channel : UInt8) (flags : ChannelStatus) :
    (q.channelStatus channel flags).Refused b True :=
  Lane.check_refused (fun _ ↦ trivial) fun _ ↦ session_refused hb _

theorem txControl_refused (channel : UInt8) (enable : Bool) :
    (q.txControl channel enable).Refused b True :=
  Lane.check_refused (fun _ ↦ trivial) fun _ ↦ .bind (session_refused hb _)

theorem txControlStatus_refused (channel : UInt8) :
    (q.txControlStatus channel).Refused b True :=
  Lane.check_refused (fun _ ↦ trivial) fun _ ↦ .bind (session_refused hb _)

theorem cdrSet_refused (channel : UInt8) (enable : Bool) :
    (q.cdrSet channel enable).Refused b True :=
  Lane.check_refused (fun _ ↦ trivial) fun _ ↦ session_refused hb _

theorem cdrStatus_refused (channel : UInt8) : (q.cdrStatus channel).Refused b True :=
  Lane.check_refused (fun _ ↦ trivial) fun _ ↦ session_refused hb _

theorem extRateSelect_refused (channel : UInt8) (revision : FirmwareRevision) (cdrEnable : Bool) :
    (q.extRateSelect channel revision cdrEnable).Refused b True :=
  Lane.check_refused (fun _ ↦ trivial) fun _ ↦ session_refused hb _

theorem vendorInfo_refused (v : VendorField) : (q.vendorInfo v).Refused b m :=
  .bind (read_refused hb _ _)

theorem transceiverCode_refused : q.transceiverCode.Refused b m := .bind (read_refused hb _ _)

theorem featureSupport_refused : q.featureSupport.Refused b m := session_refused hb _

theorem breakout_refused (channel : UInt8) (media : MediaType) (body : Procedure α) :
    (q.breakout channel media body).Refused b True := by
  dsimp only [breakout]
  split
  · exact Procedure.Refused.bind (.throw trivial)
  · exact session_refused hb _

theorem threshold_refused (t : Threshold) : (q.threshold t).Refused b m := by
  unfold threshold
  split
  · exact session_refused hb _
  · exact .throw trivial

theorem parameter_refused (p : Parameter) : (q.parameter p).Refused b m := by
  dsimp only [parameter]
  split
  · exact session_refused hb _
  · exact .lift (.report _ _ _) fun _ ↦ Procedure.Refused.bind (.throw trivial)

theorem moduleMonitor_refused (monitor : ModuleMonitor) :
    (q.moduleMonitor monitor).Refused b m := by
  cases monitor <;> exact .bind (session_refused hb _)

theorem channelMonitor_refused (channel : UInt8) (monitor : ChannelMonitor) :
    (q.channelMonitor channel monitor).Refused b (¬ channel < q.layout.channels) := by
  refine Lane.check_refused id fun lane ↦ ?_
  split
  · exact .bind (session_refused hb _)
  · exact .throw trivial

end Refused

section OffBus

variable {q : Qsfp} {b : Bench}

theorem driveControl_offBus (control : ModuleControl) (enable : Bool) :
    (q.driveControl control enable).OffBus b := by
  unfold driveControl
  split
  · exact Line.offBus_write _ b _
  · exact .throw id

theorem moduleControlStatus_offBus (control : ModuleControl) :
    (q.moduleControlStatus control).OffBus b := by
  unfold moduleControlStatus
  split
  · exact Line.offBus_read _ b
  · exact .throw id

theorem checkBudget_silent (q : Qsfp) (power : MaxPower) (high : Bool) (b : Bench) :
    (q.checkBudget power high).run.Silent b fun r b' ↦
      b' = b ∧ ∀ e, r = .error e → ¬ e.IsBusFailure := by
  unfold checkBudget
  split
  · refine Procedure.silent_bind (Procedure.silent_lift (.report _ _ _)) ?_ nofun
    rintro _ b' ⟨_, -, rfl⟩
    exact .done ⟨rfl, fun _ he ↦ (Except.error.inj he) ▸ id⟩
  · exact .done ⟨rfl, nofun⟩

variable (hb : q.cage.Vacant b)
include hb

/-- The power class is not set without a module, whatever becomes of the line. -/
theorem setPowerClass_silent (power : MaxPower) (high : Bool) :
    (q.setPowerClass power high).Silent b fun _ b' ↦ b' = b := by
  unfold setPowerClass
  split
  · refine Program.Silent.bind (session_refused (m := False) hb _) ?_
    rintro r b' ⟨rfl, e, rfl, -⟩
    dsimp only
    split
    · exact .done rfl
    · exact .report _ _ _
  · exact .done rfl

theorem moduleControl_offBus (control : ModuleControl) (enable : Bool) :
    (q.moduleControl control enable).OffBus b := by
  dsimp only [moduleControl]
  split
  · split
    · rename_i power _
      refine Procedure.silent_bind (q.checkBudget_silent power (!enable) b) ?_ fun _ _ he ↦ ?_
      · rintro _ b' ⟨rfl, -⟩
        refine Procedure.silent_bind
          (Procedure.silent_lift (setPowerClass_silent hb power _)) ?_ nofun
        exact fun _ _ _ ↦ driveControl_offBus _ _
      · rintro e' h'
        cases h'
        exact he.2 _ rfl
    · exact driveControl_offBus _ _
  · exact driveControl_offBus _ _

/-- Without a module the adapter cannot be asked. -/
theorem readAdapter_silent : q.readAdapter.Silent b fun kind _ ↦ kind = .unknown := by
  refine Program.Silent.bind (read_refused (m := False) hb _ _) ?_
  rintro r b' ⟨rfl, e, rfl, -⟩
  exact Program.Silent.bind (.report _ _ _) fun _ _ _ ↦ .done rfl

/-- Nor is it asked while the module is held in reset, unless the line of the reset makes it look as
if there were one. -/
theorem adapterKind_offBus (hreset : q.cage.ResetSparesPresence) : q.adapterKind.OffBus b := by
  dsimp only [adapterKind]
  split
  · split
    · rename_i reset hl
      have hheld : q.cage.Vacant ((reset.write true).run.final Bench.answer b) :=
        Line.value_read_of_write true (hreset reset hl) hb
      have hwrite := reset.offBus_write b true
      refine Procedure.silent_bind (Q := fun r b' ↦
        (∀ e, r = .error e → ¬ e.IsBusFailure) ∧ q.cage.Vacant b')
        ⟨hwrite.transactions, hwrite.ends, hheld⟩ ?_ ?_
      · rintro _ b₁ ⟨-, hb₁⟩
        refine Procedure.silent_bind (Procedure.silent_lift (.settle q.cage.resetDelay)) ?_ nofun
        rintro _ b₂ ⟨_, -, rfl⟩
        refine Procedure.silent_bind (Procedure.silent_lift (readAdapter_silent hb₁)) ?_ nofun
        exact fun _ b₃ _ ↦ Procedure.OffBus.bind (reset.offBus_write b₃ false) fun _ _ ↦ .pure _
      · rintro e _ ⟨he, -⟩ e' h'
        cases h'
        exact he _ rfl
    · exact .throw id
  · exact .pure _

end OffBus

/-- What an operation that goes to the cage comes to without a module. -/
theorem serveCage_shut {q : Qsfp} {b : Bench} (hb : q.cage.Vacant b) {op : Operation}
    (hop : op = .adapterKind → q.cage.ResetSparesPresence) :
    (q.serveCage op).run.Silent b fun r _ ↦ op.Shut (¬ · < q.layout.channels) r := by
  cases op with
  | presence => exact (q.cage.presence.offBus_read b).shut id
  | speed | portInfo | moduleInfo => exact Procedure.OffBus.shut (.pure _) id
  | moduleMonitorStatus flags =>
    exact (moduleMonitorStatus_refused hb flags).shut fun _ ↦ False.elim
  | channelMonitorStatus channel flags =>
    exact (channelMonitorStatus_refused hb channel flags).shut fun _ h ↦ ⟨channel, rfl, h⟩
  | channelStatus channel flags => exact (channelStatus_refused hb channel flags).offBus.shut id
  | txControl channel enable => exact (txControl_refused hb channel enable).offBus.shut id
  | txControlStatus channel => exact (txControlStatus_refused hb channel).offBus.shut id
  | cdrSet channel enable => exact (cdrSet_refused hb channel enable).offBus.shut id
  | cdrStatus channel => exact (cdrStatus_refused hb channel).offBus.shut id
  | parameter p => exact (parameter_refused hb p).shut fun _ ↦ False.elim
  | vendorInfo v => exact (vendorInfo_refused hb v).shut fun _ ↦ False.elim
  | transceiverCode => exact (transceiverCode_refused hb).shut fun _ ↦ False.elim
  | threshold t => exact (threshold_refused hb t).shut fun _ ↦ False.elim
  | moduleControl control enable => exact (moduleControl_offBus hb control enable).shut id
  | moduleControlStatus control => exact (moduleControlStatus_offBus control).shut id
  | moduleMonitor monitor => exact (moduleMonitor_refused hb monitor).shut fun _ ↦ False.elim
  | channelMonitor channel monitor =>
    exact (channelMonitor_refused hb channel monitor).shut fun _ h ↦ ⟨channel, rfl, h⟩
  | featureSupport => exact (featureSupport_refused hb).offBus.shut id
  | readGeneric _ _ | read _ _ => exact Procedure.OffBus.shut (read_refused hb _ _).offBus id
  | writeGeneric _ _ | write _ _ => exact Procedure.OffBus.shut (write_refused hb _ _).offBus id
  | extRateSelect channel revision cdrEnable =>
    exact (extRateSelect_refused hb channel revision cdrEnable).offBus.shut id
  | adapterKind => exact (adapterKind_offBus hb (hop rfl)).shut id
  | phyAutonegSet _ media _ | phyModeSet _ media _ | phySpeedSet _ media _ =>
    exact Procedure.OffBus.shut (breakout_refused hb _ media _).offBus id
  | moduleInit _ | ledSet _ _ | wavelengthSet _ | phyLinkStatus _ _ | phyPowerDown _ _ _
  | phySerdesControl _ _ _ | mailboxChain _ | tenGigSetRate _ | tenGigTxState
  | tenGigSetTxState _ | tenGigSystemStatus | tenGigLineStatus | tenGigLinkStatus =>
    exact Procedure.OffBus.shut (.throw id) id

/-- What an operation of the driver comes to without a module, also with an adapter that was found
before. -/
theorem serve_shut {q : Qsfp} {b : Bench} (hb : q.cage.Vacant b) {op : Operation}
    (hop : op = .adapterKind → q.cage.ResetSparesPresence) :
    (q.serve op).run.Silent b fun r _ ↦ op.Shut (¬ · < q.lanes) r := by
  unfold serve lanes
  cases hadapted : q.found.adapted with
  | false =>
    have hadapter : q.adapter? = none := by simp [adapter?, hadapted]
    rw [hadapter]
    exact serveCage_shut hb hop
  | true =>
    have hadapter : q.adapter? = some (.ofCage q.cage.adapted) := by simp [adapter?, hadapted]
    rw [hadapter]
    split
    · rename_i s hs _
      cases hs
      exact Sfp.serve_shut (s := .ofCage q.cage.adapted) hb op
    · exact Procedure.Refused.shut (m := False) (.throw trivial) fun _ ↦ False.elim
    · rename_i hroute _
      refine (serveCage_shut hb hop).imp fun _ _ h ↦ h.imp fun c hc ↦ ?_
      -- what is asked of a channel goes to the adapter
      cases op with
      | channelMonitorStatus _ _ | channelMonitor _ _ => exact absurd rfl (hroute _ rfl)
      | _ => exact nomatch hc

/-- No packet is run without a module. -/
theorem chain_refused {q : Qsfp} {b : Bench} (hb : q.cage.Vacant b) (ps : List Packet) :
    (q.chain ps).Silent b fun r _ ↦ ∃ e, r = (ps, .error e) ∧ e.TellsAbsence False := by
  unfold chain
  split
  · rename_i s hs
    cases adapter?_eq_some hs
    exact Sfp.chain_refused (s := .ofCage q.cage.adapted) hb ps
  · exact .done ⟨_, rfl, trivial⟩

/-- A module that is not there is not found, and the driver keeps what it knows. -/
theorem moduleInit_shut {q : Qsfp} {b : Bench} (hb : q.cage.Vacant b) (present : Bool)
    (missing : UInt8 → Prop) :
    (q.moduleInit present).Silent b fun x _ ↦
      (Operation.moduleInit present).Shut missing x.1 := by
  unfold moduleInit
  split
  · refine Program.Silent.bind (session_refused (m := False) hb _) ?_
    rintro r b' ⟨rfl, e, rfl, he⟩
    exact .done ⟨fun _ he' ↦ (Except.error.inj he') ▸ he.not_isBusFailure, False.elim⟩
  · have hforget : (Operation.moduleInit present).Shut missing (.ok () : Except Error Unit) :=
      ⟨nofun, False.elim⟩
    dsimp only
    split
    · exact Program.Silent.bind (.report _ _ _) fun _ _ _ ↦ .done hforget
    · exact .done hforget

end Qsfp

/-! ## Drivers -/

/-- A driver that is kept answers what the procedure returns. -/
theorem Program.Silent.keeping {δ : Type} {d : δ} {p : Procedure α} {b : Bench}
    {P : Except Error α → Prop} (h : p.run.Silent b fun r _ ↦ P r) :
    (Transceiver.keeping d p).Silent b fun x _ ↦ P x.1 :=
  Program.Silent.bind h fun _ _ hr ↦ .done hr

theorem Qsfp.perform_shut {q : Qsfp} {b : Bench} (hb : q.cage.Vacant b) {op : Operation}
    (hop : op = .adapterKind → q.cage.ResetSparesPresence) :
    (q.perform op).Silent b fun x _ ↦ op.Shut (¬ · < q.lanes) x.1 := by
  cases op with
  | moduleInit present => exact moduleInit_shut hb present _
  | _ => exact (serve_shut hb hop).keeping

namespace SubPort

variable {p : SubPort} {b : Bench}

/-- The channel of the port is one of the module. -/
def HasChannel (p : SubPort) (c : UInt8) : Prop := c.toNat + p.offset.toNat < p.inner.lanes.toNat

/-- An operation on a channel of the port comes to what it does on the channel of the cage. -/
theorem channel_shut {op : Operation} {c : UInt8} {op' : UInt8 → Operation}
    {f : UInt8 → Procedure α}
    (hf : ∀ c', (f c').run.Silent b fun r _ ↦ (op' c').Shut (¬ · < p.inner.lanes) r)
    (hop : op.AsksModule → op.channel? = some c ∧
      ∀ c', (op' c').AsksModule ∧ (op' c').channel? = some c') :
    (do f (← p.channel c) : Procedure α).run.Silent b fun r _ ↦ op.Shut (¬ p.HasChannel ·) r := by
  have hlanes := p.inner.lanes.toNat_lt
  unfold channel
  split
  · rename_i hlt
    have hsum : (c + p.offset).toNat = c.toNat + p.offset.toNat := by
      rw [UInt8.toNat_add, Nat.mod_eq_of_lt hlt]
    refine (hf (c + p.offset)).imp fun r _ hr ↦ ⟨hr.1, fun hasks ↦ ?_⟩
    obtain ⟨hc, hop'⟩ := hop hasks
    obtain ⟨e, rfl, he⟩ := hr.2 (hop' _).1
    refine ⟨e, rfl, he.imp fun ⟨c', hc', hmissing⟩ ↦ ⟨c, hc, fun hhas ↦ hmissing ?_⟩⟩
    cases (hop' _).2.symm.trans hc'
    rw [UInt8.lt_iff_toNat_lt, hsum]
    exact hhas
  · rename_i hlt
    refine Procedure.Refused.shut (m := ¬ p.HasChannel c) (.throw fun hhas ↦ hlt ?_)
      fun hasks h ↦ ⟨c, (hop hasks).1, h⟩
    exact Nat.lt_trans hhas hlanes

/-- A port whose cage is empty is empty. -/
theorem presence_offBus (hb : p.inner.cage.Vacant b) : p.presence.OffBus b := by
  have hread : p.inner.cage.presence.read.run.Silent b fun r _ ↦ r = .ok false :=
    ⟨Program.MadeOf.transactions_eq_nil p.inner.cage.presence.read_madeOf _ _, hb⟩
  refine Procedure.silent_bind hread ?_ nofun
  rintro present b' hpresent
  cases hpresent
  exact .done nofun

/-- What an operation of the driver comes to without a module. -/
theorem serve_shut (hb : p.inner.cage.Vacant b) {op : Operation}
    (hop : op = .adapterKind → p.inner.cage.ResetSparesPresence) :
    (p.serve op).run.Silent b fun r _ ↦ op.Shut (¬ p.HasChannel ·) r := by
  have hinner {op' : Operation} (h : op' ≠ .adapterKind) :
      (p.inner.serve op').run.Silent b fun r _ ↦ op'.Shut (¬ · < p.inner.lanes) r :=
    Qsfp.serve_shut hb fun h' ↦ absurd h' h
  cases op with
  | presence => exact (presence_offBus hb).shut id
  | channelMonitorStatus _ _ | channelMonitor _ _ =>
    exact channel_shut (fun _ ↦ hinner nofun) fun _ ↦ ⟨rfl, fun _ ↦ ⟨trivial, rfl⟩⟩
  | channelStatus _ _ | txControl _ _ | txControlStatus _ | cdrSet _ _ | cdrStatus _
  | extRateSelect _ _ _ | phyAutonegSet _ _ _ | phyModeSet _ _ _ | phySpeedSet _ _ _
  | phyLinkStatus _ _ | phyPowerDown _ _ _ | phySerdesControl _ _ _ =>
    exact channel_shut (fun _ ↦ hinner nofun) False.elim
  | _ => exact (Qsfp.serve_shut hb hop).imp fun _ _ h ↦ h.imp nofun

theorem perform_shut (hb : p.inner.cage.Vacant b) {op : Operation}
    (hop : op = .adapterKind → p.inner.cage.ResetSparesPresence) :
    (p.perform op).Silent b fun x _ ↦ op.Shut (¬ p.HasChannel ·) x.1 := by
  cases op with
  | moduleInit present =>
    exact Program.Silent.bind (Qsfp.moduleInit_shut hb present _) fun _ _ h ↦ .done h
  | _ => exact (serve_shut hb hop).keeping

end SubPort

namespace Driver

/-- The channel is one of those that an operation of the driver may name. -/
def HasChannel : Driver → UInt8 → Prop
  | .sfp _, c => c < Sfp.channels
  | .qsfp q, c => c < q.lanes
  | .subPort p, c => p.HasChannel c

section Vacant

variable {v : Driver} {b : Bench} (hb : v.cage.Vacant b)
include hb

theorem perform_shut {op : Operation} (hop : op = .adapterKind → v.cage.ResetSparesPresence) :
    (v.perform op).Silent b fun x _ ↦ op.Shut (¬ v.HasChannel ·) x.1 := by
  cases v with
  | sfp s =>
    exact Program.Silent.bind (Sfp.serve_shut hb op).keeping fun _ _ h ↦ .done h
  | qsfp q => exact Program.Silent.bind (Qsfp.perform_shut hb hop) fun _ _ h ↦ .done h
  | subPort p => exact Program.Silent.bind (SubPort.perform_shut hb hop) fun _ _ h ↦ .done h

theorem chain_refused (ps : List Packet) :
    (v.chain ps).Silent b fun r _ ↦ ∃ e, r = (ps, .error e) ∧ e.TellsAbsence False := by
  cases v with
  | sfp s => exact Sfp.chain_refused hb ps
  | qsfp q => exact Qsfp.chain_refused hb ps
  | subPort p => exact Qsfp.chain_refused hb ps

/-- As long as the presence line of its cage reads that there is no module, no operation of a driver
does anything on the bus or fails there, whatever it found before, and what the module would have to
be asked for is refused.  Only asking an adapter for its kind takes that the reset line is not the
presence line.  No packet is run either. -/
theorem vacant_shut :
    (∀ op, (op = .adapterKind → v.cage.ResetSparesPresence) →
      ((v.perform op).trace Bench.answer b).transactions = [] ∧
        op.Shut (¬ v.HasChannel ·) ((v.perform op).value Bench.answer b).1) ∧
    ∀ ps, ((v.chain ps).trace Bench.answer b).transactions = [] ∧
      ∃ e, (v.chain ps).value Bench.answer b = (ps, .error e) ∧ e.TellsAbsence False := by
  refine ⟨fun op hop ↦ ?_, fun ps ↦ ?_⟩
  · have h := perform_shut hb hop
    exact ⟨h.transactions, h.ends⟩
  · have h := chain_refused hb ps
    exact ⟨h.transactions, h.ends⟩

end Vacant

/-- A cage whose adapter was taken out, with the reset beside the presence on one group. -/
theorem vacant_shut_adapter :
    let control : PinGroup := ⟨"control", 0⟩
    let c : Cage := {
      instanceId := 0, name := "port0", family := .qsfp, portType := .qsfp, address := 0x50
      selector := ⟨none, none⟩, selectDelay := .zero, presence := ⟨control, 0⟩
      reset := some ⟨control, 1⟩, resetDelay := .zero, lowPower := none, txControl := none
      rxLoss := none, txFault := none, portLed := none, defaultSpeedMbps := none
      channelOffset := 0, maxPowerMw := 3500 }
    let v : Driver := .qsfp ⟨c, .standard, { Discovery.nothing with adapted := true }⟩
    let b : Bench := { Bench.blank with segment := Segment.blank.addModule 0x50 }
    c.Vacant b ∧ c.ResetSparesPresence ∧
      ((v.perform .adapterKind).trace Bench.answer b).transactions = [] ∧
      Operation.transceiverCode.Shut (¬ v.HasChannel ·)
        ((v.perform .transceiverCode).value Bench.answer b).1 := by
  intro control c v b
  have hb : c.Vacant b := Line.value_read_eq_ok.mpr ⟨⟨⟨rfl, rfl⟩, by decide⟩, by decide⟩
  have hreset : c.ResetSparesPresence := by
    rintro l hl -
    cases hl
    decide
  have h := (vacant_shut (v := v) hb).1
  exact ⟨hb, hreset, (h .adapterKind fun _ ↦ hreset).1, (h .transceiverCode nofun).2⟩

/-- A draft may name one line for the presence and the reset.  Then an empty cage looks occupied
while it is asked for the kind of an adapter that was found before, and the bus is read. -/
theorem not_vacant_shut_of_shared_line :
    let line : Line := ⟨⟨"control", 0⟩, 0⟩
    let d : Draft := { name := "port0", family := .qsfp, presence := some line, reset := some line }
    let s := (Segment.blank.addModule 0x50).poke 0x50 0 0 [0x03]
    ∃ c, d.build = .ok c ∧
      let init := (Driver.ofCage c).perform (.moduleInit true)
      let occupied : Bench := ⟨s, fun _ ↦ .ofLevel 1⟩
      let v := (init.value Bench.answer occupied).2
      let b := (init.final Bench.answer occupied).setPin 0 (.ofLevel 0)
      (init.value Bench.answer occupied).1 = .ok () ∧ v.cage.Vacant b ∧
        ((v.perform .adapterKind).trace Bench.answer b).transactions = [.read 0x50 64 3] :=
  ⟨_, rfl, rfl, rfl, rfl⟩

end Driver

end Transceiver
