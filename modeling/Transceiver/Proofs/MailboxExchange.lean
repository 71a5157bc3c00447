import Transceiver.Proofs.Conduct.Phy
import Transceiver.Proofs.Transactions
import Transceiver.Trace

/-!
# One packet

A packet is written once and is carried out as it arrives.  Its end is seen if the status is read
more often than it is idle; otherwise the exchange is given up, although the packet was carried out.
-/

namespace Transceiver

/-! ## Runs with their writes -/

/-- Whether a transaction writes. -/
def Transaction.isWrite : Transaction → Bool
  | .read _ _ _ => false
  | .write _ _ _ => true

/-- The writes in a trace, in order. -/
def Trace.writes (t : Trace) : List Transaction := t.transactions.filter Transaction.isWrite

theorem Trace.writes_append (t t' : Trace) : (t ++ t').writes = t.writes ++ t'.writes := by
  unfold writes
  rw [transactions_append, List.filter_append]

/-- From a bench a program returns `a`, ends on another bench and makes some writes. -/
structure Sends {α : Type} (p : Program α) (b : Bench) (a : α) (b' : Bench)
    (ws : List Transaction) : Prop where
  value : p.value Bench.answer b = a
  final : p.final Bench.answer b = b'
  writes : (p.trace Bench.answer b).writes = ws

namespace Sends

variable {α β : Type} {b b' b'' : Bench} {ws ws' : List Transaction}

theorem done (a : α) (b : Bench) : Sends (.done a) b a b [] := ⟨rfl, rfl, rfl⟩

theorem bind {p : Program α} {f : α → Program β} {a : α} {c : β} (h : Sends p b a b' ws)
    (hf : Sends (f a) b' c b'' ws') : Sends (p.bind f) b c b'' (ws ++ ws') := by
  constructor
  · rw [Program.value_bind, h.value, h.final]
    exact hf.value
  · rw [Program.final_bind, h.value, h.final]
    exact hf.final
  · rw [Program.trace_bind, Trace.writes_append, h.writes, h.value, h.final, hf.writes]

/-- A program that cannot fail, as a step. -/
theorem lift {p : Program α} {a : α} (h : Sends p b a b' ws) :
    Sends (liftM p : Procedure α).run b (.ok a) b' ws := by
  rw [Procedure.run_lift, ← List.append_nil ws]
  exact h.bind (done _ _)

/-- What follows a step that succeeds. -/
theorem andThen {p : Procedure α} {f : α → Procedure β} {a : α} {r : Except Error β}
    (h : Sends p.run b (.ok a) b' ws) (hf : Sends (f a).run b' r b'' ws') :
    Sends (p >>= f).run b r b'' (ws ++ ws') := by
  rw [Procedure.run_bind]
  exact h.bind hf

/-- Nothing follows a step that fails. -/
theorem andThen_error {p : Procedure α} {f : α → Procedure β} {e : Error}
    (h : Sends p.run b (.error e) b' ws) : Sends (p >>= f).run b (.error e) b' ws := by
  rw [Procedure.run_bind, ← List.append_nil ws]
  exact h.bind (done _ _)

end Sends

/-- Queries write nothing. -/
theorem Program.MadeOf.writes_eq_nil {σ α : Type} {p : Program α}
    (h : p.MadeOf (Single Action.IsQuery)) (env : Environment σ) (s : σ) :
    (p.trace env s).writes = [] := by
  refine List.filter_eq_nil_iff.mpr fun w hw ↦ ?_
  obtain ⟨e, he, hew⟩ := List.mem_filterMap.mp hw
  have hquery := h.forall_trace env s e he
  obtain ⟨action, reply⟩ := e
  cases action with
  | read _ _ _ =>
    cases hew
    exact Bool.false_ne_true
  | pause _ | log _ => cases hew
  | _ => cases hquery

theorem Procedure.RunsTo.sends {α : Type} {p : Procedure α} {b b' : Bench} {r : Except Error α}
    (h : p.RunsTo Bench.answer b r b') (hp : p.MadeOf (Single Action.IsQuery)) :
    Sends p.run b r b' [] := ⟨h.value, h.final, hp.writes_eq_nil _ _⟩

theorem report_sends (severity : Severity) (message : String) (fields : List (String × String))
    (b : Bench) : Sends (report severity message fields) b () b [] := ⟨rfl, rfl, rfl⟩

/-! ## Registers -/

namespace RegisterFile

/-- The word that a packet leaves with: the one it reads, or the one it wrote. -/
def word (f : RegisterFile) (p : Packet) : UInt16 :=
  match p.op with
  | .read => f.value p.memory p.offset
  | .write => p.data

/-- The registers after a packet. -/
def apply (f : RegisterFile) (p : Packet) : RegisterFile :=
  match p.op with
  | .read => f
  | .write => f.set p.memory p.offset p.data

end RegisterFile

namespace PhyMailbox

variable (mb : PhyMailbox) (p : Packet)

/-- The next packet is the one that fails. -/
def FailsNext : Prop := mb.failing = some mb.packets.length

instance : Decidable mb.FailsNext := inferInstanceAs (Decidable (_ = _))

/-- The mailbox with a packet received, which is not yet carried out. -/
def received : PhyMailbox :=
  { mb with packets := mb.packets ++ [p], remaining := mb.busyPolls }

/-- The mailbox after its status was read some times. -/
def waited (n : Nat) : PhyMailbox := { mb with remaining := mb.remaining - n }

theorem waited_polled (n : Nat) : mb.polled.waited n = mb.waited (n + 1) := by
  unfold waited polled
  rw [Nat.add_comm n 1, ← Nat.sub_sub]

theorem submit_of_fails (h : mb.FailsNext) :
    mb.submit p = (none, { mb.received p with status := .failed }) := if_pos h

theorem submit_of_not_fails (h : ¬ mb.FailsNext) :
    mb.submit p = ((match p.op with | .read => some (mb.registers.word p) | .write => none),
      { mb.received p with status := .done, registers := mb.registers.apply p }) := by
  refine (if_neg h).trans ?_
  unfold RegisterFile.word RegisterFile.apply
  cases p.op <;> rfl

end PhyMailbox

namespace PhyMailbox

variable (mb : PhyMailbox) (p : Packet)

theorem remaining_submit : (mb.submit p).2.remaining = mb.busyPolls := by
  by_cases h : mb.FailsNext
  · rw [mb.submit_of_fails p h]
    rfl
  · rw [mb.submit_of_not_fails p h]
    rfl

end PhyMailbox

/-! ## The module with the mailbox -/

/-- The diagnostic device is a module with a mailbox, and no transaction goes wrong.  Bytes may
still be discarded: a packet is taken from the transaction itself. -/
structure Carries (b : Bench) (mem : ModuleMemory) (mb : PhyMailbox) : Prop where
  reads : b.segment.faults.reads = []
  writes : b.segment.faults.writes = []
  device : b.segment.device? diagnosticDevice = some (.memory mem)
  mailbox : mem.mailbox = some mb

namespace Carries

variable {b : Bench} {mem mem' : ModuleMemory} {mb mb' : PhyMailbox}

/-- Another module with a mailbox takes the place of the first. -/
theorem withModule (h : Carries b mem mb) (hmb : mem'.mailbox = some mb') :
    Carries (b.withModule diagnosticDevice mem') mem' mb' :=
  ⟨h.reads, h.writes, b.device?_withModule _ _, hmb⟩

/-- A read of bytes of the diagnostic device. -/
theorem read_runsTo (h : Carries b mem mb) (m : Selected) (offset : UInt8) (length : Nat)
    (hrange : offset.toNat + length ≤ 256) :
    (m.read (.diagnostic offset) length).RunsTo Bench.answer b (.ok (mem.read offset length))
      (b.withModule diagnosticDevice (mem.afterRead offset length)) := by
  have ht : touches b.segment.faults.reads diagnosticDevice offset length = false := by
    rw [h.reads]
    rfl
  have hrange' : Selected.checkRange (.diagnostic offset) length = .ok () :=
    if_neg (Nat.not_lt.mpr hrange)
  unfold Selected.read
  rw [hrange']
  refine (Procedure.RunsTo.liftExcept _ _).bind ⟨?_, ?_⟩
  · rw [Selected.paged_unpaged rfl, Bus.value_read]
    exact congrArg (fun r ↦ Except.mapError _ r.1) (Segment.read_memory h.device ht)
  · rw [Selected.paged_unpaged rfl, Bus.final_read]
    exact congrArg (fun r ↦ Bench.mk r.2 b.pin) (Segment.read_memory h.device ht)

/-- The status is read as it is, and the mailbox counts the read. -/
theorem readStatus_runsTo (h : Carries b mem mb) (m : Selected) :
    (m.readByte (.diagnostic mailboxStatusOffset)).RunsTo Bench.answer b (.ok mb.statusByte)
      (b.withModule diagnosticDevice { mem with mailbox := some mb.polled }) := by
  have hbyte : byteIn (mem.read mailboxStatusOffset 1) = mb.statusByte := by
    unfold byteIn ModuleMemory.read
    rw [Vector.getElem_ofFn, if_pos (by decide)]
    unfold ModuleMemory.fetch
    rw [h.mailbox]
    exact if_pos rfl
  have hafter : mem.afterRead mailboxStatusOffset 1 = { mem with mailbox := some mb.polled } := by
    unfold ModuleMemory.afterRead
    rw [if_pos (by decide), h.mailbox]
    rfl
  have hread := h.read_runsTo m mailboxStatusOffset 1 (by decide)
  rw [hafter] at hread
  rw [← hbyte]
  exact hread.bind (.pure _ _)

/-- The word behind a packet is read without the mailbox noticing. -/
theorem readResult_runsTo (h : Carries b mem mb) (m : Selected) {word : UInt16}
    (hhigh : mem.get mem.currentPage resultOffset = highByte word)
    (hlow : mem.get mem.currentPage (resultOffset + 1) = lowByte word) :
    (m.readWord (.diagnostic resultOffset)).RunsTo Bench.answer b (.ok word) b := by
  have hword : wordIn (mem.read resultOffset 2) = word := by
    have hfetch (o : UInt8) (ho : o ≠ mailboxStatusOffset) :
        mem.fetch mem.currentPage o = mem.get mem.currentPage o := by
      unfold ModuleMemory.fetch
      rw [h.mailbox]
      exact if_neg ho
    unfold wordIn ModuleMemory.read
    rw [Vector.getElem_ofFn, Vector.getElem_ofFn, if_pos (by decide), if_pos (by decide),
      hfetch _ (by decide), hfetch _ (by decide)]
    change word16 (mem.get _ resultOffset) (mem.get _ (resultOffset + 1)) = word
    rw [hhigh, hlow, word16_bytes]
  have hafter : mem.afterRead resultOffset 2 = mem := if_neg (by decide)
  have hread := h.read_runsTo m resultOffset 2 (by decide)
  rw [hafter, Bench.withModule_self h.device] at hread
  rw [← hword]
  exact hread.bind (.pure _ _)

end Carries

/-! ## Waiting for the end -/

namespace Mailbox

/-- What the status tells of the packet before, if it is at its end. -/
def outcome? : MailboxStatus → Option (Except Error Unit)
  | .idle => none
  | .done => some (.ok ())
  | .failed => some (.error (.protocol "mailbox reported an error status"))

variable {b : Bench} {mem : ModuleMemory} {mb : PhyMailbox} (m : Selected) (t : MailboxTiming)

/-- The end is seen if the status is read more often than it is idle. -/
theorem await_runsTo {r : Except Error Unit} (n : Nat) (h : Carries b mem mb)
    (hr : outcome? mb.status = some r) :
    (await m t n).RunsTo Bench.answer b
      (if mb.remaining < n then r else .error (.timeout t.timeout))
      (b.withModule diagnosticDevice { mem with mailbox := some (mb.waited n) }) := by
  induction n generalizing b mem mb with
  | zero =>
    have hmem : { mem with mailbox := some (mb.waited 0) } = mem := by
      obtain ⟨cell, mailbox⟩ := mem
      cases h.mailbox
      rfl
    rw [hmem, Bench.withModule_self h.device, if_neg (Nat.not_lt_zero _)]
    exact .throw _ _
  | succ n ih =>
    have hstatus := h.readStatus_runsTo m
    cases hremaining : mb.remaining with
    | zero =>
      have hend : MailboxStatus.ofByte? mb.statusByte = some mb.status := by
        unfold PhyMailbox.statusByte
        rw [if_pos hremaining, MailboxStatus.ofByte?_toByte]
      have hpolled : mb.polled = mb.waited (n + 1) := by
        simp [PhyMailbox.polled, PhyMailbox.waited, hremaining]
      rw [hpolled] at hstatus
      rw [if_pos (Nat.succ_pos n)]
      refine hstatus.bind ?_
      rw [hend]
      cases hs : mb.status with
      | idle => simp [hs, outcome?] at hr
      | done =>
        rw [hs] at hr
        cases hr
        exact .pure _ _
      | failed =>
        rw [hs] at hr
        cases hr
        exact .throw _ _
    | succ k =>
      -- the status is idle, and the rest of the reads are left
      have hidle : MailboxStatus.ofByte? mb.statusByte = some .idle := by
        unfold PhyMailbox.statusByte
        rw [if_neg (by omega), MailboxStatus.ofByte?_toByte]
      have hpolled : mb.polled.remaining = k := by simp [PhyMailbox.polled, hremaining]
      have hcarries : Carries
          (b.withModule diagnosticDevice { mem with mailbox := some mb.polled })
          { mem with mailbox := some mb.polled } mb.polled := h.withModule rfl
      have hrest := ih hcarries hr
      rw [Bench.withModule_withModule, hpolled, mb.waited_polled] at hrest
      simp only [Nat.add_lt_add_iff_right]
      refine hstatus.bind ?_
      rw [hidle]
      exact (settle_runsTo _ _).bind hrest

/-! ## Carrying out a packet -/

/-- What becomes of the next packet: it is given up while it is carried out, it fails, or it leaves
with its word. -/
def exchanged (t : MailboxTiming) (mb : PhyMailbox) (p : Packet) : Except Error UInt16 :=
  if mb.busyPolls < t.polls then
    if mb.FailsNext then .error (.protocol "mailbox reported an error status")
    else .ok (mb.registers.word p)
  else .error (.timeout t.timeout)

/-- A packet that was taken in comes to an end. -/
theorem outcome?_submit (mb : PhyMailbox) (p : Packet) :
    outcome? (mb.submit p).2.status =
      some (if mb.FailsNext then .error (.protocol "mailbox reported an error status")
        else .ok ()) := by
  by_cases h : mb.FailsNext
  · rw [mb.submit_of_fails p h, if_pos h]
    rfl
  · rw [mb.submit_of_not_fails p h, if_neg h]
    rfl

/-- A packet is one write, which the mailbox takes in. -/
theorem write_sends (h : Carries b mem mb) (p : Packet) :
    Sends (m.write (.diagnostic packetOffset) p.encode).run b (.ok ())
      (b.withModule diagnosticDevice
        ((mem.store (b.segment.discards diagnosticDevice) packetOffset.toNat p.encode).post p))
      [.write diagnosticDevice packetOffset p.encode] := by
  have ht : touches b.segment.faults.writes diagnosticDevice packetOffset p.encode.length =
      false := by
    rw [h.writes]
    rfl
  have hrange : Selected.checkRange (.diagnostic packetOffset) p.encode.length = .ok () := by
    rw [p.length_encode]
    exact if_neg (by decide)
  have hwrite := Segment.write_memory h.device ht
  rw [ModuleMemory.write_packet] at hwrite
  have hrun : m.write (.diagnostic packetOffset) p.encode =
      Bus.write diagnosticDevice packetOffset p.encode := by
    unfold Selected.write
    rw [hrange]
    have hok : (liftM (Except.ok () : Except Error Unit) : Procedure Unit) = pure () := rfl
    have hpage : (Address.diagnostic packetOffset).page = .ignore := rfl
    rw [hok, pure_bind]
    exact Selected.paged_unpaged hpage _
  rw [hrun]
  constructor
  · rw [Bus.value_write]
    exact congrArg (fun r ↦ Except.mapError _ r.1) hwrite
  · rw [Bus.final_write]
    exact congrArg (fun r ↦ Bench.mk r.2 b.pin) hwrite
  · rw [Bus.run_write]
    rfl

/-- A packet is written once, and the mailbox takes it in whatever is seen of its end. -/
theorem execute_sends (h : Carries b mem mb) (p : Packet) :
    ∃ b' mem', Sends (execute m t p).run b (exchanged t mb p) b'
        [.write diagnosticDevice packetOffset p.encode] ∧
      Carries b' mem' ((mb.submit p).2.waited t.polls) := by
  have hstored := (mem.mailbox_store (b.segment.discards diagnosticDevice) packetOffset.toNat
    p.encode).trans h.mailbox
  have hpost := ModuleMemory.mailbox_post hstored p
  have hresult {word : UInt16} (hword : (mb.submit p).1 = some word) :=
    ModuleMemory.get_post hstored hword
  have hwrite := write_sends m h p
  generalize (mem.store (b.segment.discards diagnosticDevice) packetOffset.toNat
    p.encode).post p = mem₁ at hpost hresult hwrite
  have hcarries := h.withModule hpost
  have hawait := (await_runsTo m t t.polls hcarries (outcome?_submit mb p)).sends
    (await_madeOf m t t.polls)
  have hend : Carries _ { mem₁ with mailbox := some ((mb.submit p).2.waited t.polls) } _ :=
    hcarries.withModule rfl
  refine ⟨_, _, ?_, hend⟩
  unfold exchanged
  rw [← mb.remaining_submit p]
  by_cases hlt : (mb.submit p).2.remaining < t.polls
  · rw [if_pos hlt] at hawait ⊢
    by_cases hf : mb.FailsNext
    · rw [if_pos hf] at hawait ⊢
      exact (report_sends _ _ _ _).lift.andThen (hwrite.andThen hawait.andThen_error)
    · rw [if_neg hf] at hawait ⊢
      refine (report_sends _ _ _ _).lift.andThen (hwrite.andThen (hawait.andThen ?_))
      unfold RegisterFile.word
      cases hop : p.op with
      | write => exact .done _ _
      | read =>
        have hword : (mb.submit p).1 = some (mb.registers.value p.memory p.offset) := by
          rw [mb.submit_of_not_fails p hf, hop]
          unfold RegisterFile.word
          rw [hop]
        obtain ⟨hhigh, hlow⟩ := hresult hword
        exact (hend.readResult_runsTo m hhigh hlow).sends (Selected.readWord_unpaged_madeOf rfl)
  · rw [if_neg hlt] at hawait ⊢
    exact (report_sends _ _ _ _).lift.andThen (hwrite.andThen hawait.andThen_error)

end Mailbox

end Transceiver
