import Transceiver.Proofs.MailboxChain
import Transceiver.TenGigPhy

/-!
# Changing the rate of a 10GBASE-T PHY

Main statements: a change of rate that succeeds leaves every register as it was but those that
restart autonegotiation, which are only written while the transmitter is held off; and a change that
fails leaves the transmitter as it was unless the packet that fails comes after the transmitter was
switched off, in which case it stays off.

Every step of a change sends a script of packets that depends on the registers alone, so that a
sequence of steps is followed by putting their scripts in a row.
-/

namespace Transceiver

/-! ## Registers after a script -/

/-- The packet writes a register. -/
def Packet.Writes (p : Packet) (memory : UInt8) (register : UInt16) : Prop :=
  p.op = .write ∧ p.memory = memory ∧ p.offset = register

instance (p : Packet) (memory : UInt8) (register : UInt16) :
    Decidable (p.Writes memory register) := inferInstanceAs (Decidable (_ ∧ _ ∧ _))

namespace RegisterFile

variable (f : RegisterFile) {memory : UInt8} {register : UInt16}

theorem applyAll_append (ps qs : List Packet) :
    f.applyAll (ps ++ qs) = (f.applyAll ps).applyAll qs := List.foldl_append

theorem apply_of_not_writes {p : Packet} (h : ¬ p.Writes memory register) :
    f.apply p memory register = f memory register := by
  unfold apply
  cases hop : p.op with
  | read => rfl
  | write => exact f.set_of_ne _ fun ⟨hm, hr⟩ ↦ h ⟨hop, hm.symm, hr.symm⟩

/-- A register that no packet writes stays as it is. -/
theorem applyAll_of_not_writes {ps : List Packet} (h : ∀ p ∈ ps, ¬ p.Writes memory register) :
    f.applyAll ps memory register = f memory register := by
  induction ps generalizing f with
  | nil => rfl
  | cons p ps ih =>
    exact (ih _ fun q hq ↦ h q (.tail _ hq)).trans (f.apply_of_not_writes (h p (.head _)))

/-- A register holds what was last written to it. -/
theorem applyAll_write (ps : List Packet) (data : UInt16) {qs : List Packet}
    (h : ∀ q ∈ qs, ¬ q.Writes memory register) :
    f.applyAll (ps ++ .write memory register data :: qs) memory register = some data := by
  rw [applyAll_append]
  exact (applyAll_of_not_writes _ h).trans (set_self _ _ _ _)

end RegisterFile

/-- The packets counted from behind those received. -/
theorem PhyMailbox.TookIn.length_add {mb mb' : PhyMailbox} {ps qs : List Packet}
    (h : mb.TookIn ps qs mb') (i : Nat) :
    mb'.packets.length + i = mb.packets.length + (ps.length + i) := by
  rw [h.packets, List.length_append, Nat.add_assoc]

/-! ## Scripts -/

/-- From a bench with a mailbox a program returns `a`.  The module receives some packets, each in
one write and in order, and carries some of them out. -/
def Exchanges {α : Type} (p : Program α) (b : Bench) (mb : PhyMailbox) (a : α)
    (received carried : List Packet) : Prop :=
  ∃ b' mem' mb', Sends p b a b' (received.map Packet.posting) ∧
    Carries b' mem' mb' ∧ mb.TookIn received carried mb'

namespace Exchanges

variable {α β : Type} {p : Procedure α} {g : α → Procedure β} {b b' : Bench} {mb mb' : PhyMailbox}
  {received received' carried carried' : List Packet}

/-- What follows a step that succeeds. -/
theorem after {a : α} {r : Except Error β}
    (hsend : Sends p.run b (.ok a) b' (received.map Packet.posting))
    (htook : mb.TookIn received carried mb')
    (h : Exchanges (g a).run b' mb' r received' carried') :
    Exchanges (p >>= g).run b mb r (received ++ received') (carried ++ carried') := by
  obtain ⟨b'', mem'', mb'', hsend', hcarries, htook'⟩ := h
  refine ⟨b'', mem'', mb'', ?_, hcarries, htook.trans htook'⟩
  rw [List.map_append]
  exact hsend.andThen hsend'

/-- Nothing follows a step that fails. -/
theorem andThen_error {e : Error} (h : Exchanges p.run b mb (.error e) received carried) :
    Exchanges (p >>= g).run b mb (.error e) received carried := by
  obtain ⟨b', mem', mb', hsend, hend⟩ := h
  exact ⟨b', mem', mb', hsend.andThen_error, hend⟩

theorem runsTo {r : Except Error α} (h : Exchanges p.run b mb r received carried) :
    ∃ b' mem' mb', p.RunsTo Bench.answer b r b' ∧ Carries b' mem' mb' ∧
      mb'.registers = mb.registers.applyAll carried := by
  obtain ⟨b', mem', mb', hsend, hcarries, htook⟩ := h
  exact ⟨b', mem', mb', ⟨hsend.value, hsend.final⟩, hcarries, htook.registers⟩

end Exchanges

namespace Procedure

variable {α β : Type}

/-- Behind a mailbox with registers `f` a procedure sends the packets of a script one after another,
and tells `r` behind the last.  It ends at a packet that the mailbox fails, and at the first if a
packet takes longer than is waited for. -/
structure Follows (t : MailboxTiming) (p : Procedure α) (f : RegisterFile) (ps : List Packet)
    (r : Except Error α) : Prop where
  done {b : Bench} {mem : ModuleMemory} {mb : PhyMailbox} (h : Carries b mem mb)
    (hf : mb.registers = f) (hpolls : ps ≠ [] → mb.busyPolls < t.polls)
    (hok : ∀ i < ps.length, mb.failing ≠ some (mb.packets.length + i)) :
    Exchanges p.run b mb r ps ps
  failed {b : Bench} {mem : ModuleMemory} {mb : PhyMailbox} (h : Carries b mem mb)
    (hf : mb.registers = f) (hpolls : mb.busyPolls < t.polls) {i : Nat} (hi : i < ps.length)
    (hfail : mb.failing = some (mb.packets.length + i)) :
    ∃ e, Exchanges p.run b mb (.error e) (ps.take (i + 1)) (ps.take i)
  late {b : Bench} {mem : ModuleMemory} {mb : PhyMailbox} (h : Carries b mem mb)
    (hf : mb.registers = f) (hpolls : t.polls ≤ mb.busyPolls) (hne : ps ≠ []) :
    ∃ e, ∃ n ≤ 1, Exchanges p.run b mb (.error e) (ps.take 1) (ps.take n)

namespace Follows

variable {t : MailboxTiming} {p : Procedure α} {g : α → Procedure β} {f : RegisterFile}
  {ps qs : List Packet} {r : Except Error β}

/-- A procedure that sends nothing. -/
theorem still {r : Except Error α} (h : ∀ b, Sends p.run b r b []) : p.Follows t f [] r where
  done {b mem mb} hcarries _ _ _ := ⟨b, mem, mb, h b, hcarries, .refl mb⟩
  failed _ _ _ _ hi _ := by cases hi
  late _ _ _ hne := absurd rfl hne

theorem pure (a : α) : Follows t (Pure.pure a) f [] (.ok a) := still fun b ↦ .done _ b

theorem throw (e : Error) : Follows t (MonadExcept.throw e : Procedure α) f [] (.error e) :=
  still fun b ↦ .done _ b

theorem liftExcept (r : Except Error α) : Follows t (liftM r : Procedure α) f [] r :=
  still fun b ↦ .done _ b

theorem settle (span : Duration) : Follows t (liftM (settle span)) f [] (.ok ()) := by
  refine still fun b ↦ .lift ?_
  unfold Transceiver.settle
  split
  · exact .done _ _
  · exact ⟨rfl, rfl, rfl⟩

theorem report (severity : Severity) (message : String) (fields : List (String × String)) :
    Follows t (liftM (report severity message fields)) f [] (.ok ()) :=
  still fun _ ↦ (report_sends _ _ _ _).lift

/-- What follows a step that succeeds: its script comes behind the one of the step. -/
theorem bind {a : α} (h : p.Follows t f ps (.ok a))
    (hg : (g a).Follows t (f.applyAll ps) qs r) : (p >>= g).Follows t f (ps ++ qs) r where
  done {b mem mb} hcarries hf hpolls hok := by
    rw [List.length_append] at hok
    obtain ⟨b', mem', mb', hsend, hcarries', htook⟩ := h.done hcarries hf
      (fun hne ↦ hpolls (List.append_ne_nil_of_left_ne_nil hne _)) fun i hi ↦ hok i (by omega)
    refine .after hsend htook (hg.done hcarries' (by rw [htook.registers, hf]) ?_ fun i hi ↦ ?_)
    · rw [htook.busyPolls]
      exact fun hne ↦ hpolls (List.append_ne_nil_of_right_ne_nil _ hne)
    · rw [htook.failing, htook.length_add]
      exact hok _ (by omega)
  failed {b mem mb} hcarries hf hpolls i hi hfail := by
    by_cases hlt : i < ps.length
    · obtain ⟨e, hstep⟩ := h.failed hcarries hf hpolls hlt hfail
      rw [List.take_append_of_le_length hlt, List.take_append_of_le_length (Nat.le_of_lt hlt)]
      exact ⟨e, hstep.andThen_error⟩
    · -- the step is done, and the packet that fails is one of the rest
      obtain ⟨j, rfl⟩ := Nat.exists_eq_add_of_le (Nat.not_lt.mp hlt)
      obtain ⟨b', mem', mb', hsend, hcarries', htook⟩ := h.done hcarries hf (fun _ ↦ hpolls)
        fun k hk ↦ by
          rw [hfail, ne_eq, Option.some_inj]
          omega
      obtain ⟨e, hrest⟩ := hg.failed hcarries' (by rw [htook.registers, hf])
        (by rw [htook.busyPolls]; exact hpolls)
        (Nat.lt_of_add_lt_add_left (List.length_append ▸ hi))
        (by rw [htook.failing, htook.length_add]; exact hfail)
      rw [Nat.add_assoc, List.take_length_add_append, List.take_length_add_append]
      exact ⟨e, .after hsend htook hrest⟩
  late {b mem mb} hcarries hf hpolls hne := by
    cases ps with
    | nil =>
      obtain ⟨b', mem', mb', hsend, hcarries', htook⟩ := h.done hcarries hf nofun nofun
      obtain ⟨e, n, hn, hrest⟩ := hg.late hcarries' (by rw [htook.registers, hf])
        (by rw [htook.busyPolls]; exact hpolls) hne
      exact ⟨e, n, hn, .after hsend htook hrest⟩
    | cons q ps =>
      have hone : 1 ≤ (q :: ps).length := Nat.le_add_left 1 _
      obtain ⟨e, n, hn, hstep⟩ := h.late hcarries hf hpolls (List.cons_ne_nil _ _)
      refine ⟨e, n, hn, ?_⟩
      rw [List.take_append_of_le_length hone, List.take_append_of_le_length (Nat.le_trans hn hone)]
      exact hstep.andThen_error

/-- What follows a step that sends nothing. -/
theorem past {a : α} (h : p.Follows t f [] (.ok a)) (hg : (g a).Follows t f qs r) :
    (p >>= g).Follows t f qs r := h.bind hg

/-- Nothing follows a step that fails. -/
theorem bind_error {e : Error} (h : p.Follows t f ps (.error e)) :
    (p >>= g).Follows t f ps (.error e) where
  done hcarries hf hpolls hok := (h.done hcarries hf hpolls hok).andThen_error
  failed hcarries hf hpolls _ hi hfail :=
    (h.failed hcarries hf hpolls hi hfail).imp fun _ ↦ Exchanges.andThen_error
  late hcarries hf hpolls hne :=
    (h.late hcarries hf hpolls hne).imp fun _ ⟨n, hn, hstep⟩ ↦ ⟨n, hn, hstep.andThen_error⟩

/-- However a procedure ends, it carries out the start of its script: what comes before the packet
that fails, at most one packet if they are late, and else all. -/
theorem ends {b : Bench} {mem : ModuleMemory} {mb : PhyMailbox} {r : Except Error α}
    (h : p.Follows t f ps r) (hcarries : Carries b mem mb) (hf : mb.registers = f) :
    ∃ r' received n, Exchanges p.run b mb r' received (ps.take n) ∧
      (mb.busyPolls < t.polls ∧ n < ps.length ∧ mb.failing = some (mb.packets.length + n) ∨
        t.polls ≤ mb.busyPolls ∧ n ≤ 1 ∨
        ps.length ≤ n ∧ ∀ i < ps.length, mb.failing ≠ some (mb.packets.length + i)) := by
  by_cases hfail : ∃ i < ps.length, mb.failing = some (mb.packets.length + i)
  · obtain ⟨i, hi, hfail⟩ := hfail
    rcases Nat.lt_or_ge mb.busyPolls t.polls with hpolls | hpolls
    · obtain ⟨e, hex⟩ := h.failed hcarries hf hpolls hi hfail
      exact ⟨.error e, _, i, hex, .inl ⟨hpolls, hi, hfail⟩⟩
    · obtain ⟨e, n, hn, hex⟩ := h.late hcarries hf hpolls (List.ne_nil_of_length_pos (by omega))
      exact ⟨.error e, _, n, hex, .inr (.inl ⟨hpolls, hn⟩)⟩
  · have hok : ∀ i < ps.length, mb.failing ≠ some (mb.packets.length + i) :=
      fun i hi hfails ↦ hfail ⟨i, hi, hfails⟩
    by_cases hlate : ps ≠ [] ∧ t.polls ≤ mb.busyPolls
    · obtain ⟨e, n, hn, hex⟩ := h.late hcarries hf hlate.2 hlate.1
      exact ⟨.error e, _, n, hex, .inr (.inl ⟨hlate.2, hn⟩)⟩
    · have hex := h.done hcarries hf (fun hne ↦ Nat.not_le.mp fun hle ↦ hlate ⟨hne, hle⟩) hok
      rw [← List.take_length (l := ps)] at hex
      exact ⟨r, _, ps.length, hex, .inr (.inr ⟨Nat.le_refl _, hok⟩)⟩

end Follows

end Procedure

/-! ## Packets -/

namespace Mailbox

open Procedure

variable (m : Selected) (t : MailboxTiming) (f : RegisterFile)

theorem execute_exchanges {b : Bench} {mem : ModuleMemory} {mb : PhyMailbox}
    (h : Carries b mem mb) (p : Packet) :
    Exchanges (execute m t p).run b mb (exchanged t mb p) [p]
      (if mb.FailsNext then [] else [p]) := by
  obtain ⟨b', mem', hsend, hcarries⟩ := execute_sends m t h p
  exact ⟨b', mem', _, hsend, hcarries, .submit mb p t.polls⟩

theorem execute_follows (p : Packet) : (execute m t p).Follows t f [p] (.ok (f.word p)) where
  done {b mem mb} h hf hpolls hok := by
    have hnext : ¬ mb.FailsNext := hok 0 Nat.one_pos
    have hexec := execute_exchanges m t h p
    unfold exchanged at hexec
    rw [if_pos (hpolls (List.cons_ne_nil _ _)), if_neg hnext, if_neg hnext, hf] at hexec
    exact hexec
  failed {b mem mb} h hf hpolls i hi hfail := by
    obtain rfl : i = 0 := Nat.lt_one_iff.mp hi
    have hnext : mb.FailsNext := hfail
    have hexec := execute_exchanges m t h p
    unfold exchanged at hexec
    rw [if_pos hpolls, if_pos hnext, if_pos hnext] at hexec
    exact ⟨_, hexec⟩
  late {b mem mb} h hf hpolls _ := by
    have hexec := execute_exchanges m t h p
    unfold exchanged at hexec
    rw [if_neg (Nat.not_lt.mpr hpolls)] at hexec
    by_cases hnext : mb.FailsNext
    · rw [if_pos hnext] at hexec
      exact ⟨_, 0, Nat.zero_le 1, hexec⟩
    · rw [if_neg hnext] at hexec
      exact ⟨_, 1, Nat.le_refl 1, hexec⟩

theorem read_follows (memory : UInt8) (register : UInt16) :
    (read m t memory register).Follows t f [.read memory register]
      (.ok (f.value memory register)) := execute_follows m t f _

theorem write_follows (memory : UInt8) (register data : UInt16) :
    (write m t memory register data).Follows t f [.write memory register data] (.ok ()) :=
  (execute_follows m t f _).bind (.pure ())

/-- The outcome of a chain, as a procedure. -/
def run (ps : List Packet) : Procedure Unit := do
  let (_, r) ← chain m t ps
  r

theorem run_bind (ps : List Packet) {β : Type} (g : Procedure β) :
    (do
      let (_, r) ← chain m t ps
      r
      g) = (do
      run m t ps
      g) := by
  unfold run
  rw [bind_assoc]

theorem run_exchanges {b : Bench} {mb : PhyMailbox} {ps left received carried : List Packet}
    {r : Except Error Unit} (h : Chained (chain m t ps) b mb left r received carried) :
    Exchanges (run m t ps).run b mb r received carried := by
  obtain ⟨b', mem', mb', hsend, hend⟩ := h
  refine ⟨b', mem', mb', ?_, hend⟩
  rw [← List.append_nil (received.map Packet.posting)]
  exact hsend.lift.andThen (.done _ _)

theorem run_follows (ps : List Packet) : (run m t ps).Follows t f ps (.ok ()) where
  done {b mem mb} h hf hpolls hok := by
    by_cases hne : ps = []
    · subst hne
      exact ⟨b, mem, mb, ⟨rfl, rfl, rfl⟩, h, .refl mb⟩
    · exact run_exchanges m t ((chain_sequential m t ps h).1 (hpolls hne) hok)
  failed {b mem mb} h _ hpolls i hi hfail :=
    ⟨_, run_exchanges m t ((chain_sequential m t ps h).2.1 hpolls i hi hfail)⟩
  late {b mem mb} h _ hpolls hne := by
    have hrun := run_exchanges m t ((chain_sequential m t ps h).2.2 hpolls hne)
    by_cases hnext : mb.FailsNext
    · rw [if_pos hnext] at hrun
      exact ⟨_, 0, Nat.zero_le 1, hrun⟩
    · rw [if_neg hnext] at hrun
      exact ⟨_, 1, Nat.le_refl 1, hrun⟩

end Mailbox

/-! ## The bit that holds the transmitter off -/

theorem and_one_eq_zero_iff {v : UInt16} : v &&& 1 = 0 ↔ v.toBitVec[0] = false := by
  rw [← UInt16.toBitVec_inj]
  constructor
  · intro h
    simpa using congrArg (·[0]) h
  · intro h
    ext i hi
    cases i <;> simp [h]

theorem or_one_and_one (v : UInt16) : (v ||| 1) &&& 1 = 1 := by
  apply UInt16.eq_of_toBitVec_eq
  ext i hi
  cases i <;> simp

theorem or_one_of_and_one {v : UInt16} (h : v &&& 1 ≠ 0) : v ||| 1 = v := by
  rw [ne_eq, and_one_eq_zero_iff, Bool.not_eq_false] at h
  apply UInt16.eq_of_toBitVec_eq
  ext i hi
  cases i <;> simp [h]

theorem or_one_and_not_one {v : UInt16} (h : v &&& 1 = 0) : (v ||| 1) &&& ~~~1 = v := by
  rw [and_one_eq_zero_iff] at h
  apply UInt16.eq_of_toBitVec_eq
  rw [UInt16.toBitVec_and, UInt16.toBitVec_or, UInt16.toBitVec_not]
  ext i hi
  rw [BitVec.getElem_and, BitVec.getElem_or, BitVec.getElem_not]
  cases i <;> simp [h]

/-! ## The steps of a change -/

namespace RegisterFile

variable (f : RegisterFile)

/-- The register that holds the transmitter off. -/
def txRegister : UInt16 := f.value TenGigPhy.lineMemory TenGigPhy.txDisable

theorem txRegister_applyAll {f : RegisterFile} {ps : List Packet}
    (h : ∀ p ∈ ps, ¬ p.Writes TenGigPhy.lineMemory TenGigPhy.txDisable) :
    (f.applyAll ps).txRegister = f.txRegister :=
  congrArg (Option.getD · 0) (f.applyAll_of_not_writes h)

theorem txRegister_applyAll_write {f : RegisterFile} (ps : List Packet) (word : UInt16)
    {qs : List Packet} (h : ∀ q ∈ qs, ¬ q.Writes TenGigPhy.lineMemory TenGigPhy.txDisable) :
    (f.applyAll (ps ++ .write TenGigPhy.lineMemory TenGigPhy.txDisable word :: qs)).txRegister =
      word :=
  congrArg (Option.getD · 0) (f.applyAll_write ps word h)

/-- The code of the speed that the line runs at. -/
def lineCode : UInt16 := (f.value TenGigPhy.autonegMemory TenGigPhy.lineSpeed >>> 1) &&& 0x7

end RegisterFile

namespace TenGigPhy

open Procedure

/-- The packets that ask for the line. -/
def linePackets : List Packet := [.read lineMemory lineLink, .read autonegMemory lineSpeed]

/-- The packets that put a word in the register that holds the transmitter off. -/
def switchPackets (word : UInt16) : List Packet :=
  [.read lineMemory txDisable, .write lineMemory txDisable word]

theorem of_mem_ratePackets {values : List UInt16} {p : Packet} (h : p ∈ ratePackets values) :
    p.memory = autonegMemory ∧ p.offset ∈ rateRegisters := by
  unfold ratePackets at h
  obtain ⟨i, hi, rfl⟩ := List.mem_iff_getElem.mp h
  rw [List.getElem_zipWith]
  exact ⟨rfl, List.getElem_mem _⟩

theorem ratePackets_spare {values : List UInt16} {p : Packet} (h : p ∈ ratePackets values) :
    ¬ p.Writes lineMemory txDisable := fun hw ↦
  absurd (hw.2.1.symm.trans (of_mem_ratePackets h).1) (by decide)

/-- The packets of a change of rate.  The transmitter is only switched on if it was on. -/
def changePackets (f : RegisterFile) (values : List UInt16) : List Packet :=
  linePackets ++ .read lineMemory txDisable :: switchPackets (f.txRegister ||| 1) ++
    ratePackets values ++ if f.txRegister &&& 1 = 0 then switchPackets f.txRegister else []

theorem linePackets_read : ∀ p ∈ linePackets, p.op = .read := by decide

variable (phy : TenGigPhy) (m : Selected) (f : RegisterFile)

theorem lineStatus_follows {r : Except Error (Option Speed)} (h : decodeSpeed f.lineCode = r) :
    (phy.lineStatus m).Follows phy.timing f linePackets
      (r.map (⟨f.value lineMemory lineLink &&& 1 != 0, ·⟩)) := by
  have hspeed : Follows phy.timing (liftM (decodeSpeed f.lineCode)) f [] r := by
    rw [h]
    exact .liftExcept r
  refine (Mailbox.read_follows m phy.timing f _ _).bind
    ((Mailbox.read_follows m phy.timing f _ _).bind ?_)
  cases r with
  | ok speed => exact hspeed.bind (.pure _)
  | error e => exact hspeed.bind_error

theorem txEnabled_follows :
    (phy.txEnabled m).Follows phy.timing f [.read lineMemory txDisable]
      (.ok (f.txRegister &&& 1 == 0)) :=
  (Mailbox.read_follows ..).bind (.pure _)

theorem setTxEnabled_follows (enable : Bool) :
    (phy.setTxEnabled m enable).Follows phy.timing f
      (switchPackets (if enable then f.txRegister &&& ~~~1 else f.txRegister ||| 1)) (.ok ()) :=
  (Mailbox.read_follows ..).bind (Mailbox.write_follows ..)

theorem setRate_of_unsupported {speed : Speed} (h : rateValues? speed = none) :
    (phy.setRate m speed).Follows phy.timing f []
      (.error (.invalidArgument ("10GBASE-T PHY cannot run at " ++ speed.text))) := by
  unfold setRate
  rw [h]
  exact .throw _

theorem setRate_of_unknown {speed : Speed} {values : List UInt16} {e : Error}
    (h : rateValues? speed = some values) (hline : decodeSpeed f.lineCode = .error e) :
    (phy.setRate m speed).Follows phy.timing f linePackets (.error e) := by
  unfold setRate
  rw [h]
  exact (lineStatus_follows phy m f hline).bind_error

theorem setRate_of_same {speed : Speed} {values : List UInt16}
    (h : rateValues? speed = some values) (hline : decodeSpeed f.lineCode = .ok (some speed)) :
    (phy.setRate m speed).Follows phy.timing f linePackets (.ok ()) := by
  unfold setRate
  rw [h]
  refine (lineStatus_follows phy m f hline).bind ?_
  rw [if_pos rfl]
  exact .report ..

/-- The transmitter is switched on again if it was on. -/
theorem restore_follows {v : UInt16} (h : f.txRegister = v ||| 1) (speed : Speed) :
    (do
      if v &&& 1 == 0 then phy.setTxEnabled m true
      report .info "PHY rate changed" [("speed", speed.text)] : Procedure Unit).Follows phy.timing f
      (if v &&& 1 = 0 then switchPackets v else []) (.ok ()) := by
  by_cases hv : v &&& 1 = 0
  · have hswitch := setTxEnabled_follows phy m f true
    rw [if_pos rfl, h, or_one_and_not_one hv] at hswitch
    rw [if_pos hv, if_pos (beq_iff_eq.mpr hv), ← List.append_nil (switchPackets v)]
    exact hswitch.bind (.report ..)
  · rw [if_neg hv, if_neg (mt beq_iff_eq.mp hv)]
    exact .report ..

/-- The register behind the packets that hold the transmitter off and those that restart
autonegotiation. -/
theorem txRegister_behind (values : List UInt16) :
    ((f.applyAll (switchPackets (f.txRegister ||| 1))).applyAll
      (ratePackets values)).txRegister = f.txRegister ||| 1 := by
  rw [RegisterFile.txRegister_applyAll fun _ ↦ ratePackets_spare]
  rfl

theorem setRate_of_other {speed : Speed} {values : List UInt16} {line : Option Speed}
    (h : rateValues? speed = some values) (hline : decodeSpeed f.lineCode = .ok line)
    (hne : line ≠ some speed) :
    (phy.setRate m speed).Follows phy.timing f (changePackets f values) (.ok ()) := by
  have hchange := Mailbox.run_follows m phy.timing
    (f.applyAll (switchPackets (f.txRegister ||| 1))) (ratePackets values)
  have hback := restore_follows phy m _ (txRegister_behind f values) speed
  unfold setRate changePackets
  rw [h]
  simp only [List.append_assoc, List.cons_append]
  refine (lineStatus_follows phy m f hline).bind ?_
  rw [if_neg hne]
  refine (txEnabled_follows phy m _).bind ((setTxEnabled_follows phy m _ false).bind
    (.past (.settle _) ?_))
  rw [Mailbox.run_bind]
  exact hchange.bind (.past (.settle _) hback)

/-! ## The transmitter during a change -/

/-- The packets before the one that holds the transmitter off. -/
def askPackets : List Packet :=
  linePackets ++ [.read lineMemory txDisable, .read lineMemory txDisable]

theorem askPackets_read : ∀ p ∈ askPackets, p.op = .read := by decide

/-- Packets that read leave the transmitter as it is. -/
theorem txRegister_of_reads {ps : List Packet} (h : ∀ p ∈ ps, p.op = .read) :
    (f.applyAll ps).txRegister = f.txRegister := by
  refine RegisterFile.txRegister_applyAll fun p hp hw ↦ ?_
  cases (h p hp).symm.trans hw.1

theorem changePackets_eq (values : List UInt16) :
    changePackets f values =
      askPackets ++ .write lineMemory txDisable (f.txRegister ||| 1) :: (ratePackets values ++
        if f.txRegister &&& 1 = 0 then switchPackets f.txRegister else []) := by
  unfold changePackets askPackets switchPackets
  simp

/-- While the packets of a change are carried out the transmitter is held off from the fifth of them
to the last but one, or to the end if it was held off before. -/
theorem txRegister_take {values : List UInt16} (h : values.length = 5) (i : Nat) :
    (f.applyAll ((changePackets f values).take i)).txRegister =
      if 5 ≤ i ∧ i < 12 then f.txRegister ||| 1 else f.txRegister := by
  have hrate : (ratePackets values).length = 5 := by
    unfold ratePackets
    rw [List.length_zipWith, h]
    rfl
  rw [changePackets_eq]
  rcases Nat.lt_or_ge i 5 with hi | hi
  · have hout : ¬(5 ≤ i ∧ i < 12) := by omega
    rw [if_neg hout, List.take_append_of_le_length (Nat.le_of_lt_succ hi)]
    exact txRegister_of_reads f fun p hp ↦ askPackets_read p (List.mem_of_mem_take hp)
  obtain ⟨j, rfl⟩ := Nat.exists_eq_add_of_le hi
  have htake (rest : List Packet) :
      (askPackets ++ .write lineMemory txDisable (f.txRegister ||| 1) :: rest).take (5 + j) =
        askPackets ++ .write lineMemory txDisable (f.txRegister ||| 1) :: rest.take j := by
    rw [Nat.add_comm 5 j]
    rfl
  rw [htake]
  by_cases hon : f.txRegister &&& 1 = 0
  · rw [if_pos hon]
    have hback : ∀ p ∈ ratePackets values ++ [.read lineMemory txDisable],
        ¬ p.Writes lineMemory txDisable := by
      intro p hp
      rcases List.mem_append.mp hp with hp | hp
      · exact ratePackets_spare hp
      · rw [List.mem_singleton.mp hp]
        decide
    have hsplit : ratePackets values ++ switchPackets f.txRegister =
        ratePackets values ++ [.read lineMemory txDisable] ++
          [.write lineMemory txDisable f.txRegister] := List.append_cons ..
    have hlength : (ratePackets values ++ [Packet.read lineMemory txDisable]).length = 6 := by
      rw [List.length_append, hrate]
      rfl
    rw [hsplit]
    rcases Nat.lt_or_ge j 7 with hj | hj
    · have hin : 5 ≤ 5 + j ∧ 5 + j < 12 := by omega
      rw [if_pos hin, List.take_append_of_le_length (hlength ▸ Nat.le_of_lt_succ hj)]
      exact RegisterFile.txRegister_applyAll_write _ _ fun p hp ↦ hback p (List.mem_of_mem_take hp)
    · have hout : ¬(5 ≤ 5 + j ∧ 5 + j < 12) := by omega
      rw [if_neg hout, List.take_of_length_le (by rw [List.length_append, hlength]; exact hj),
        ← List.cons_append, ← List.append_assoc]
      exact RegisterFile.txRegister_applyAll_write _ _ nofun
  · rw [if_neg hon, List.append_nil, or_one_of_and_one hon, ite_self]
    exact RegisterFile.txRegister_applyAll_write _ _ fun p hp ↦
      ratePackets_spare (List.mem_of_mem_take hp)

theorem length_changePackets {values : List UInt16} (h : values.length = 5) :
    (changePackets f values).length = if f.txRegister &&& 1 = 0 then 12 else 10 := by
  rw [changePackets_eq, List.length_append, List.length_cons, List.length_append]
  unfold ratePackets
  rw [List.length_zipWith, h]
  split <;> rfl

theorem rateValues?_eq_some {speed : Speed} {values : List UInt16}
    (h : rateValues? speed = some values) :
    ∃ v₁ v₂ v₃, values = [0x2000, v₁, v₂, v₃, 0x3000] := by
  cases speed <;> cases h <;> exact ⟨_, _, _, rfl⟩

theorem length_of_rateValues? {speed : Speed} {values : List UInt16}
    (h : rateValues? speed = some values) : values.length = 5 := by
  obtain ⟨v₁, v₂, v₃, rfl⟩ := rateValues?_eq_some h
  rfl

/-- The rates that the PHY has. -/
theorem rateValues?_isSome_iff {speed : Speed} :
    (rateValues? speed).isSome ↔ speed ∈ [Speed.m100, .g1, .g2p5, .g5, .g10] := by
  cases speed <;> decide

/-- The PHY has a rate, and the line is known to run at another. -/
def Changes (speed : Speed) (f : RegisterFile) : Prop :=
  speed ∈ [Speed.m100, .g1, .g2p5, .g5, .g10] ∧
    ∃ line, decodeSpeed f.lineCode = .ok line ∧ line ≠ some speed

theorem setRate_of_changes {speed : Speed} (h : Changes speed f) :
    ∃ values, values.length = 5 ∧
      (phy.setRate m speed).Follows phy.timing f (changePackets f values) (.ok ()) := by
  obtain ⟨hspeed, line, hline, hne⟩ := h
  obtain ⟨values, hvalues⟩ := Option.isSome_iff_exists.mp (rateValues?_isSome_iff.mpr hspeed)
  exact ⟨values, length_of_rateValues? hvalues, setRate_of_other phy m f hvalues hline hne⟩

/-- Where nothing is to be changed the registers are read at most. -/
theorem setRate_of_not_changes {speed : Speed} (h : ¬ Changes speed f) :
    ∃ ps r, (phy.setRate m speed).Follows phy.timing f ps r ∧ ∀ p ∈ ps, p.op = .read := by
  cases hvalues : rateValues? speed with
  | none => exact ⟨_, _, setRate_of_unsupported phy m f hvalues, nofun⟩
  | some values =>
    cases hline : decodeSpeed f.lineCode with
    | error e => exact ⟨_, _, setRate_of_unknown phy m f hvalues hline, linePackets_read⟩
    | ok line =>
      have hspeed := rateValues?_isSome_iff.mp (Option.isSome_of_eq_some hvalues)
      have hsame : line = some speed :=
        Decidable.byContradiction fun hne ↦ h ⟨hspeed, line, hline, hne⟩
      subst hsame
      exact ⟨_, _, setRate_of_same phy m f hvalues hline, linePackets_read⟩

/-- The transmitter is on, and of the packets of a change one fails that comes after the one that
holds the transmitter off. -/
def Strands (speed : Speed) (mb : PhyMailbox) : Prop :=
  Changes speed mb.registers ∧ mb.busyPolls < phy.timing.polls ∧
    mb.registers.txRegister &&& 1 = 0 ∧
    ∃ i, 5 ≤ i ∧ i < 12 ∧ mb.failing = some (mb.packets.length + i)

variable {b : Bench} {mem : ModuleMemory} {mb : PhyMailbox}

theorem setRate_of_strands {speed : Speed} (h : Carries b mem mb) (hs : phy.Strands speed mb) :
    ∃ e b' mem' mb', (phy.setRate m speed).RunsTo Bench.answer b (.error e) b' ∧
      Carries b' mem' mb' ∧ mb'.registers.txRegister = mb.registers.txRegister ||| 1 := by
  obtain ⟨hchanges, hpolls, hon, i, hi, hi', hfail⟩ := hs
  obtain ⟨values, hlength, hfollows⟩ := setRate_of_changes phy m _ hchanges
  have hin : i < (changePackets mb.registers values).length := by
    rw [length_changePackets _ hlength, if_pos hon]
    exact hi'
  obtain ⟨e, hex⟩ := hfollows.failed h rfl hpolls hin hfail
  obtain ⟨b', mem', mb', hruns, hcarries, hregisters⟩ := hex.runsTo
  refine ⟨e, b', mem', mb', hruns, hcarries, ?_⟩
  rw [hregisters, txRegister_take _ hlength, if_pos ⟨hi, hi'⟩]

theorem setRate_of_not_strands {speed : Speed} (h : Carries b mem mb)
    (hs : ¬ phy.Strands speed mb) :
    ∃ r b' mem' mb', (phy.setRate m speed).RunsTo Bench.answer b r b' ∧ Carries b' mem' mb' ∧
      mb'.registers.txRegister = mb.registers.txRegister := by
  by_cases hchanges : Changes speed mb.registers
  · obtain ⟨values, hlength, hfollows⟩ := setRate_of_changes phy m _ hchanges
    obtain ⟨r, received, n, hex, hend⟩ := hfollows.ends h rfl
    obtain ⟨b', mem', mb', hruns, hcarries, hregisters⟩ := hex.runsTo
    refine ⟨r, b', mem', mb', hruns, hcarries, ?_⟩
    rw [hregisters, txRegister_take _ hlength]
    by_cases hon : mb.registers.txRegister &&& 1 = 0
    · have hout : ¬(5 ≤ n ∧ n < 12) := fun hin ↦ by
        rw [length_changePackets _ hlength, if_pos hon] at hend
        rcases hend with ⟨hpolls, _, hfail⟩ | ⟨_, hn⟩ | hn
        · exact hs ⟨hchanges, hpolls, hon, n, hin.1, hin.2, hfail⟩
        · omega
        · omega
      rw [if_neg hout]
    · rw [or_one_of_and_one hon, ite_self]
  · -- the registers are read at most
    obtain ⟨ps, r, hfollows, hreads⟩ := setRate_of_not_changes phy m _ hchanges
    obtain ⟨r', received, n, hex, -⟩ := hfollows.ends h rfl
    obtain ⟨b', mem', mb', hruns, hcarries, hregisters⟩ := hex.runsTo
    refine ⟨r', b', mem', mb', hruns, hcarries, ?_⟩
    rw [hregisters]
    exact txRegister_of_reads _ fun p hp ↦ hreads p (List.mem_of_mem_take hp)

/-- A change of rate leaves the transmitter as it is, unless it is stranded: then the change fails,
and the transmitter stays off. -/
theorem setRate_transmitter (speed : Speed) (h : Carries b mem mb) :
    ∃ r b' mem' mb', (phy.setRate m speed).RunsTo Bench.answer b r b' ∧ Carries b' mem' mb' ∧
      (¬ phy.Strands speed mb → mb'.registers.txRegister = mb.registers.txRegister) ∧
      (phy.Strands speed mb → mb'.registers.txRegister = mb.registers.txRegister ||| 1 ∧
        ∃ e, r = .error e) := by
  by_cases hs : phy.Strands speed mb
  · obtain ⟨e, b', mem', mb', hruns, hcarries, htx⟩ := setRate_of_strands phy m h hs
    exact ⟨_, b', mem', mb', hruns, hcarries, fun hnot ↦ absurd hs hnot, fun _ ↦ ⟨htx, e, rfl⟩⟩
  · obtain ⟨r, b', mem', mb', hruns, hcarries, htx⟩ := setRate_of_not_strands phy m h hs
    exact ⟨r, b', mem', mb', hruns, hcarries, fun _ ↦ htx, fun hs' ↦ absurd hs' hs⟩

/-- A bench with a PHY whose transmitter is on and whose line is down, behind a mailbox that fails a
packet. -/
def failingBench (i : Nat) : Bench × ModuleMemory × PhyMailbox :=
  let mb := { PhyMailbox.blank with
    registers := RegisterFile.blank.set lineMemory txDisable 0x100
    failing := some i }
  let mem := { ModuleMemory.blank with mailbox := some mb }
  (Bench.blank.withModule diagnosticDevice mem, mem, mb)

theorem failingBench_carries (i : Nat) :
    Carries (failingBench i).1 (failingBench i).2.1 (failingBench i).2.2 := ⟨rfl, rfl, rfl, rfl⟩

/-- The first packet of the chain strands the transmitter, the one before it does not. -/
theorem failingBench_strands :
    standard.Strands .g1 (failingBench 5).2.2 ∧ ¬ standard.Strands .g1 (failingBench 4).2.2 := by
  refine ⟨⟨⟨by decide, none, rfl, nofun⟩, by decide, by decide, 5, by decide, by decide, rfl⟩, ?_⟩
  rintro ⟨_, _, _, i, hi, _, hfail⟩
  have hindex : some 4 = some (0 + i) := hfail
  rw [Option.some_inj] at hindex
  omega

/-- The transmitter is back on if the fifth packet fails, and off if the sixth does. -/
theorem setRate_transmitter_failing :
    let m : Selected := ⟨0x50, .sff8472⟩
    (∃ r b' mem' mb', (standard.setRate m .g1).RunsTo Bench.answer (failingBench 4).1 r b' ∧
      Carries b' mem' mb' ∧ mb'.registers.txRegister = 0x100) ∧
    ∃ e b' mem' mb', (standard.setRate m .g1).RunsTo Bench.answer (failingBench 5).1 (.error e) b' ∧
      Carries b' mem' mb' ∧ mb'.registers.txRegister = 0x101 := by
  intro m
  constructor
  · obtain ⟨r, b', mem', mb', hruns, hcarries, hsame, -⟩ :=
      setRate_transmitter standard m .g1 (failingBench_carries 4)
    exact ⟨r, b', mem', mb', hruns, hcarries, hsame failingBench_strands.2⟩
  · obtain ⟨r, b', mem', mb', hruns, hcarries, -, hoff⟩ :=
      setRate_transmitter standard m .g1 (failingBench_carries 5)
    obtain ⟨htx, e, rfl⟩ := hoff failingBench_strands.1
    exact ⟨e, b', mem', mb', hruns, hcarries, htx⟩

/-- The transmitter is not always as it was. -/
theorem not_setRate_restores :
    ¬ ∀ (phy : TenGigPhy) (m : Selected) (speed : Speed) (b b' : Bench) (mem mem' : ModuleMemory)
      (mb mb' : PhyMailbox) (r : Except Error Unit), Carries b mem mb →
        (phy.setRate m speed).RunsTo Bench.answer b r b' → Carries b' mem' mb' →
        mb'.registers.txRegister &&& 1 = mb.registers.txRegister &&& 1 := by
  intro hall
  obtain ⟨e, b', mem', mb', hruns, hcarries, htx⟩ :=
    setRate_of_strands standard ⟨0x50, .sff8472⟩ (failingBench_carries 5) failingBench_strands.1
  have hsame := hall _ _ _ _ _ _ _ _ _ _ (failingBench_carries 5) hruns hcarries
  rw [htx, or_one_and_one] at hsame
  exact absurd hsame (by decide)

/-! ## The registers after a change -/

/-- What a change of rate makes of the registers `f`, and when it writes them.  Only the registers
that restart autonegotiation are others than before, and they hold the values of the rate. -/
structure Restarts (values : List UInt16) (f f' : RegisterFile) (sent : List Packet) : Prop where
  others {memory : UInt8} {register : UInt16}
    (h : ¬(memory = autonegMemory ∧ register ∈ rateRegisters)) :
    f'.value memory register = f.value memory register
  rate : rateRegisters.tail.map (f'.value autonegMemory) = values.tail
  restarted : f'.value autonegMemory 0x0000 = 0x3000
  transmitter : f'.txRegister = f.txRegister
  /-- The transmitter is off whenever one of them is written. -/
  held {before rest : List Packet} {p : Packet} (h : sent = before ++ p :: rest)
    (hop : p.op = .write) (hmemory : p.memory = autonegMemory) :
    (f.applyAll before).txRegister &&& 1 = 1

/-- The packets that switch the transmitter on again, if it was on. -/
theorem restorePackets_memory {p : Packet}
    (h : p ∈ if f.txRegister &&& 1 = 0 then switchPackets f.txRegister else []) :
    p.memory = lineMemory ∧ p.offset = txDisable := by
  split at h
  · rcases List.mem_cons.mp h with rfl | h
    · exact ⟨rfl, rfl⟩
    · rw [List.mem_singleton.mp h]
      exact ⟨rfl, rfl⟩
  · cases h

/-- A change writes only the register that holds the transmitter off and those that restart
autonegotiation. -/
theorem writes_of_mem_changePackets {values : List UInt16} {p : Packet} {memory : UInt8}
    {register : UInt16} (h : p ∈ changePackets f values) (hw : p.Writes memory register) :
    (memory = lineMemory ∧ register = txDisable) ∨
      (memory = autonegMemory ∧ register ∈ rateRegisters) := by
  obtain ⟨hop, rfl, rfl⟩ := hw
  rw [changePackets_eq, List.mem_append, List.mem_cons, List.mem_append] at h
  rcases h with hask | rfl | hrate | hback
  · cases (askPackets_read p hask).symm.trans hop
  · exact .inl ⟨rfl, rfl⟩
  · exact .inr (of_mem_ratePackets hrate)
  · exact .inl (restorePackets_memory f hback)

/-- The registers that restart autonegotiation are left as the packets for them leave them. -/
theorem value_changePackets (values : List UInt16) :
    (f.applyAll (changePackets f values)).value autonegMemory =
      ((f.applyAll (askPackets ++ [.write lineMemory txDisable (f.txRegister ||| 1)])).applyAll
        (ratePackets values)).value autonegMemory := by
  funext register
  rw [changePackets_eq, List.append_cons, RegisterFile.applyAll_append,
    RegisterFile.applyAll_append]
  refine congrArg (Option.getD · 0) (RegisterFile.applyAll_of_not_writes _ fun p hp hw ↦ ?_)
  exact absurd (hw.2.1.symm.trans (restorePackets_memory f hp).1) (by decide)

/-- The packets of a change that come before the fifth are not for autonegotiation. -/
theorem length_of_changePackets_eq {values : List UInt16} {before rest : List Packet} {p : Packet}
    (h : changePackets f values = before ++ p :: rest) (hop : p.op = .write)
    (hmemory : p.memory = autonegMemory) : 5 ≤ before.length := by
  refine Nat.not_lt.mp fun hlt ↦ ?_
  have hget : (changePackets f values)[before.length]? = some p := by
    rw [h, List.getElem?_append_right (Nat.le_refl _), Nat.sub_self]
    rfl
  rw [changePackets_eq, List.append_cons, List.getElem?_append_left hlt] at hget
  rcases List.mem_append.mp (List.mem_of_getElem? hget) with hask | hoff
  · cases (askPackets_read p hask).symm.trans hop
  · rw [List.mem_singleton.mp hoff] at hmemory
    exact absurd hmemory (by decide : lineMemory ≠ autonegMemory)

theorem changePackets_restarts {values : List UInt16} {speed : Speed}
    (h : rateValues? speed = some values) :
    Restarts values f (f.applyAll (changePackets f values)) (changePackets f values) := by
  have hlength := length_of_rateValues? h
  have hsize : (changePackets f values).length ≤ 12 := by
    rw [length_changePackets _ hlength]
    split <;> decide
  have htx : (f.applyAll (changePackets f values)).txRegister = f.txRegister := by
    have hall := txRegister_take f hlength 12
    rw [List.take_of_length_le hsize] at hall
    exact hall
  constructor
  case transmitter => exact htx
  case others =>
    intro memory register hne
    by_cases hline : memory = lineMemory ∧ register = txDisable
    · obtain ⟨rfl, rfl⟩ := hline
      exact htx
    · refine congrArg (Option.getD · 0) (f.applyAll_of_not_writes fun p hp hw ↦ ?_)
      exact (writes_of_mem_changePackets f hp hw).elim hline hne
  case rate =>
    obtain ⟨v₁, v₂, v₃, rfl⟩ := rateValues?_eq_some h
    rw [value_changePackets]
    rfl
  case restarted =>
    obtain ⟨v₁, v₂, v₃, rfl⟩ := rateValues?_eq_some h
    rw [value_changePackets]
    rfl
  case held =>
    intro before rest p hsent hop hmemory
    have hge := length_of_changePackets_eq f hsent hop hmemory
    have hlt : before.length < 12 := by
      have hlen := congrArg List.length hsent
      rw [List.length_append, List.length_cons] at hlen
      omega
    have hbefore : (changePackets f values).take before.length = before := by
      rw [hsent, List.take_left]
    rw [← hbefore, txRegister_take f hlength, if_pos ⟨hge, hlt⟩]
    exact or_one_and_one _

theorem decodeSpeed_error {code : UInt16} {e : Error} (h : decodeSpeed code = .error e) :
    e = .protocol ("unknown PHY speed code " ++ toString code) := by
  unfold decodeSpeed at h
  split at h <;> cases h
  rfl

/-- What a change of rate does where the mailbox completes every packet in time.  Packets are only
sent for a rate that the PHY has, and registers are only written if the line runs at another one. -/
theorem setRate_effect (speed : Speed) (h : Carries b mem mb)
    (hpolls : mb.busyPolls < phy.timing.polls)
    (hok : ∀ i, mb.failing ≠ some (mb.packets.length + i)) :
    (speed ∉ [Speed.m100, .g1, .g2p5, .g5, .g10] →
      Exchanges (phy.setRate m speed).run b mb
        (.error (.invalidArgument ("10GBASE-T PHY cannot run at " ++ speed.text))) [] []) ∧
    (speed ∈ [Speed.m100, .g1, .g2p5, .g5, .g10] → ∃ values, rateValues? speed = some values ∧
      (∀ e, decodeSpeed mb.registers.lineCode = .error e →
        e = .protocol ("unknown PHY speed code " ++ toString mb.registers.lineCode) ∧
        ∃ packets, Exchanges (phy.setRate m speed).run b mb (.error e) packets packets ∧
          ∀ p ∈ packets, p.op = .read) ∧
      (decodeSpeed mb.registers.lineCode = .ok (some speed) →
        ∃ packets, Exchanges (phy.setRate m speed).run b mb (.ok ()) packets packets ∧
          ∀ p ∈ packets, p.op = .read) ∧
      ∀ line, decodeSpeed mb.registers.lineCode = .ok line → line ≠ some speed →
        ∃ packets, Exchanges (phy.setRate m speed).run b mb (.ok ()) packets packets ∧
          Restarts values mb.registers (mb.registers.applyAll packets) packets) := by
  have hends {ps : List Packet} {r : Except Error Unit}
      (hfollows : (phy.setRate m speed).Follows phy.timing mb.registers ps r) :
      Exchanges (phy.setRate m speed).run b mb r ps ps :=
    hfollows.done h rfl (fun _ ↦ hpolls) fun i _ ↦ hok i
  constructor
  · intro hspeed
    rw [← rateValues?_isSome_iff, Option.not_isSome_iff_eq_none] at hspeed
    exact hends (setRate_of_unsupported phy m _ hspeed)
  · intro hspeed
    obtain ⟨values, hvalues⟩ := Option.isSome_iff_exists.mp (rateValues?_isSome_iff.mpr hspeed)
    refine ⟨values, hvalues, fun e hline ↦ ?_, fun hline ↦ ?_, fun line hline hne ↦ ?_⟩
    · exact ⟨decodeSpeed_error hline, _, hends (setRate_of_unknown phy m _ hvalues hline),
        linePackets_read⟩
    · exact ⟨_, hends (setRate_of_same phy m _ hvalues hline), linePackets_read⟩
    · exact ⟨_, hends (setRate_of_other phy m _ hvalues hline hne),
        changePackets_restarts _ hvalues⟩

/-- A line at 1G is brought to 10G behind a mailbox that is busy for two reads. -/
theorem setRate_effect_tenGig :
    let m : Selected := ⟨0x50, .sff8472⟩
    let f := RegisterFile.blank.set lineMemory txDisable 0x100
    let mb := { PhyMailbox.blank with
      busyPolls := 2
      registers := f.set autonegMemory lineSpeed 4 }
    let b := Bench.blank.withModule diagnosticDevice { ModuleMemory.blank with mailbox := some mb }
    ∃ packets, Exchanges (standard.setRate m .g10).run b mb (.ok ()) packets packets ∧
      Restarts [0x2000, 0x9001, 0x0040, 0x1001, 0x3000] mb.registers
        (mb.registers.applyAll packets) packets := by
  intro m f mb b
  have hcarries : Carries b { ModuleMemory.blank with mailbox := some mb } mb :=
    ⟨rfl, rfl, rfl, rfl⟩
  obtain ⟨values, hvalues, -, -, hother⟩ :=
    (setRate_effect standard m .g10 hcarries (by decide) nofun).2 (by decide)
  cases hvalues
  have hcode : mb.registers.lineCode = 2 := by decide
  exact hother (some .g1) (hcode ▸ rfl) (by decide)

end TenGigPhy

end Transceiver
