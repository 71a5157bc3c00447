import Transceiver.Proofs.MailboxExchange

/-!
# Packets in order

Main statement: a chain of packets leaves registers and words as if the packets were carried out one
after the other, and stops at the first that fails.  Every packet up to that is written once, in
order, and none after it.
-/

namespace Transceiver

/-- The write of a packet. -/
def Packet.posting (p : Packet) : Transaction :=
  .write diagnosticDevice packetOffset p.encode

namespace RegisterFile

variable (f : RegisterFile)

/-- The registers after some packets, in order. -/
def applyAll (ps : List Packet) : RegisterFile := ps.foldl apply f

/-- Every packet with the word that it leaves with, after those before it. -/
def results (ps : List Packet) : List Packet :=
  ps.mapIdx fun i p ↦ { p with data := (f.applyAll (ps.take i)).word p }

theorem results_cons (p : Packet) (ps : List Packet) :
    f.results (p :: ps) = { p with data := f.word p } :: (f.apply p).results ps :=
  List.mapIdx_cons

end RegisterFile

/-- The mailbox received some packets more, and carried some out. -/
structure PhyMailbox.TookIn (mb : PhyMailbox) (received carried : List Packet)
    (mb' : PhyMailbox) : Prop where
  packets : mb'.packets = mb.packets ++ received
  registers : mb'.registers = mb.registers.applyAll carried
  busyPolls : mb'.busyPolls = mb.busyPolls
  failing : mb'.failing = mb.failing

namespace PhyMailbox.TookIn

variable {mb mb' mb'' : PhyMailbox}

theorem refl (mb : PhyMailbox) : mb.TookIn [] [] mb := ⟨(List.append_nil _).symm, rfl, rfl, rfl⟩

/-- The packet counted from behind the one received. -/
theorem length_next {p : Packet} {qs : List Packet} (h : mb.TookIn [p] qs mb') (i : Nat) :
    mb'.packets.length + i = mb.packets.length + (i + 1) := by
  rw [h.packets, List.length_append, Nat.add_assoc, Nat.add_comm _ i]
  rfl

theorem trans {ps ps' qs qs' : List Packet} (h : mb.TookIn ps qs mb')
    (h' : mb'.TookIn ps' qs' mb'') : mb.TookIn (ps ++ ps') (qs ++ qs') mb'' := by
  constructor
  · rw [h'.packets, h.packets, List.append_assoc]
  · rw [h'.registers, h.registers]
    exact (List.foldl_append ..).symm
  · rw [h'.busyPolls, h.busyPolls]
  · rw [h'.failing, h.failing]

/-- A packet is received, and carried out unless it is the one that fails. -/
theorem submit (mb : PhyMailbox) (p : Packet) (n : Nat) :
    mb.TookIn [p] (if mb.FailsNext then [] else [p]) ((mb.submit p).2.waited n) := by
  by_cases h : mb.FailsNext
  · rw [mb.submit_of_fails p h, if_pos h]
    exact ⟨rfl, rfl, rfl, rfl⟩
  · rw [mb.submit_of_not_fails p h, if_neg h]
    exact ⟨rfl, rfl, rfl, rfl⟩

end PhyMailbox.TookIn

/-- From a bench a chain leaves the packets `left` and tells `r`.  The module received some packets,
each in one write and in order, and carried some of them out. -/
def Chained (chain : Program (List Packet × Except Error Unit)) (b : Bench) (mb : PhyMailbox)
    (left : List Packet) (r : Except Error Unit) (received carried : List Packet) : Prop :=
  ∃ b' mem' mb', Sends chain b (left, r) b' (received.map Packet.posting) ∧
    Carries b' mem' mb' ∧ mb.TookIn received carried mb'

namespace Mailbox

variable {b : Bench} {mem : ModuleMemory} {mb : PhyMailbox} (m : Selected) (t : MailboxTiming)

/-! ## One packet of a chain -/

/-- The chain goes on behind a packet that leaves with a word. -/
theorem chainFrom_goesOn {p : Packet} {ps left received carried : List Packet} {index : Nat}
    {r : Except Error Unit} (h : Carries b mem mb) (hpolls : mb.busyPolls < t.polls)
    (hf : ¬ mb.FailsNext)
    (hrest : ∀ {b' mem' mb'}, Carries b' mem' mb' → mb.TookIn [p] [p] mb' →
      Chained (chainFrom m t (index + 1) ps) b' mb' left r received carried) :
    Chained (chainFrom m t index (p :: ps)) b mb
      ({ p with data := mb.registers.word p } :: left) r (p :: received) (p :: carried) := by
  obtain ⟨b', mem', hsend, hcarries⟩ := execute_sends m t h p
  have htook := PhyMailbox.TookIn.submit mb p t.polls
  have hword : exchanged t mb p = .ok (mb.registers.word p) := by
    unfold exchanged
    rw [if_pos hpolls, if_neg hf]
  rw [hword] at hsend
  rw [if_neg hf] at htook
  obtain ⟨b'', mem'', mb'', hsend', hcarries', htook'⟩ := hrest hcarries htook
  refine ⟨b'', mem'', mb'', ?_, hcarries', htook.trans htook'⟩
  refine hsend.bind ?_
  rw [← List.append_nil (received.map Packet.posting)]
  exact hsend'.bind (.done _ _)

/-- The chain stops at a packet that comes to no word. -/
theorem chainFrom_stops {p : Packet} (ps : List Packet) (index : Nat) {e : Error}
    (h : Carries b mem mb) (he : exchanged t mb p = .error e) :
    Chained (chainFrom m t index (p :: ps)) b mb (p :: ps) (.error (.chainFailed index e))
      [p] (if mb.FailsNext then [] else [p]) := by
  obtain ⟨b', mem', hsend, hcarries⟩ := execute_sends m t h p
  rw [he] at hsend
  refine ⟨b', mem', _, ?_, hcarries, .submit mb p t.polls⟩
  exact hsend.bind ((report_sends _ _ _ _).bind (.done _ _))

/-! ## The whole chain -/

/-- Where no packet fails, all of them are carried out. -/
theorem chainFrom_done (ps : List Packet) (index : Nat) (h : Carries b mem mb)
    (hpolls : mb.busyPolls < t.polls)
    (hok : ∀ i < ps.length, mb.failing ≠ some (mb.packets.length + i)) :
    Chained (chainFrom m t index ps) b mb (mb.registers.results ps) (.ok ()) ps ps := by
  induction ps generalizing index b mem mb with
  | nil => exact ⟨b, mem, mb, .done _ _, h, .refl mb⟩
  | cons p ps ih =>
    rw [RegisterFile.results_cons]
    refine chainFrom_goesOn m t h hpolls (hok 0 (Nat.succ_pos _)) fun hcarries htook ↦ ?_
    have hrest := ih (index + 1) hcarries (by rw [htook.busyPolls]; exact hpolls) (by
      intro i hi
      rw [htook.failing, htook.length_next]
      exact hok (i + 1) (Nat.succ_lt_succ hi))
    rw [htook.registers] at hrest
    exact hrest

/-- Where a packet fails, those before it are carried out, and it is the last one to be received. -/
theorem chainFrom_failed (ps : List Packet) (index i : Nat) (h : Carries b mem mb)
    (hpolls : mb.busyPolls < t.polls) (hi : i < ps.length)
    (hfail : mb.failing = some (mb.packets.length + i)) :
    Chained (chainFrom m t index ps) b mb (mb.registers.results (ps.take i) ++ ps.drop i)
      (.error (.chainFailed (index + i) (.protocol "mailbox reported an error status")))
      (ps.take (i + 1)) (ps.take i) := by
  induction ps generalizing index i b mem mb with
  | nil => cases hi
  | cons p ps ih =>
    cases i with
    | zero =>
      have hf : mb.FailsNext := hfail
      have hstop := chainFrom_stops m t (p := p) ps index h (by
        unfold exchanged
        rw [if_pos hpolls, if_pos hf])
      rw [if_pos hf] at hstop
      exact hstop
    | succ i =>
      have hf : ¬ mb.FailsNext := by
        unfold PhyMailbox.FailsNext
        rw [hfail, Option.some_inj]
        omega
      rw [List.take_succ_cons, List.take_succ_cons, RegisterFile.results_cons, ← Nat.add_assoc,
        Nat.add_right_comm]
      refine chainFrom_goesOn m t h hpolls hf fun hcarries htook ↦ ?_
      have hrest := ih (index + 1) i hcarries (by rw [htook.busyPolls]; exact hpolls)
        (Nat.lt_of_succ_lt_succ hi) (by rw [htook.failing, htook.length_next]; exact hfail)
      rw [htook.registers] at hrest
      exact hrest

/-- A chain ends with a report, which changes nothing. -/
theorem chained_of_chainFrom {ps left received carried : List Packet} {r : Except Error Unit}
    (h : Chained (chainFrom m t 0 ps) b mb left r received carried) :
    Chained (chain m t ps) b mb left r received carried := by
  obtain ⟨b', mem', mb', hsend, hend⟩ := h
  refine ⟨b', mem', mb', ?_, hend⟩
  rw [← List.append_nil (received.map Packet.posting)]
  refine hsend.bind ?_
  cases r with
  | ok u => exact (report_sends _ _ _ _).bind (.done _ _)
  | error e => exact .done _ _

/-- A chain is its packets one after the other, up to the first that the mailbox fails or that takes
longer than is waited for.  The packets behind that one are neither sent nor changed. -/
theorem chain_sequential (ps : List Packet) (h : Carries b mem mb) :
    (mb.busyPolls < t.polls → (∀ i < ps.length, mb.failing ≠ some (mb.packets.length + i)) →
      Chained (chain m t ps) b mb (mb.registers.results ps) (.ok ()) ps ps) ∧
    (mb.busyPolls < t.polls → ∀ i < ps.length, mb.failing = some (mb.packets.length + i) →
      Chained (chain m t ps) b mb (mb.registers.results (ps.take i) ++ ps.drop i)
        (.error (.chainFailed i (.protocol "mailbox reported an error status")))
        (ps.take (i + 1)) (ps.take i)) ∧
    (t.polls ≤ mb.busyPolls → ps ≠ [] →
      Chained (chain m t ps) b mb ps (.error (.chainFailed 0 (.timeout t.timeout)))
        (ps.take 1) (if mb.FailsNext then [] else ps.take 1)) := by
  refine ⟨fun hpolls hok ↦ ?_, fun hpolls i hi hfail ↦ ?_, fun hpolls hne ↦ ?_⟩
  · exact chained_of_chainFrom m t (chainFrom_done m t ps 0 h hpolls hok)
  · have hchain := chainFrom_failed m t ps 0 i h hpolls hi hfail
    rw [Nat.zero_add] at hchain
    exact chained_of_chainFrom m t hchain
  · obtain ⟨p, ps, rfl⟩ := List.exists_cons_of_ne_nil hne
    exact chained_of_chainFrom m t (chainFrom_stops m t ps 0 h (if_neg (Nat.not_lt.mpr hpolls)))

/-- A register is written and read behind a mailbox that is busy for two reads, behind one that
fails the second packet, and behind one that is busy for longer than is waited for. -/
theorem chain_sequential_three_packets :
    let m : Selected := ⟨0x50, .sff8472⟩
    let mb : PhyMailbox := { PhyMailbox.blank with busyPolls := 2 }
    let failing : PhyMailbox := { mb with failing := some 1 }
    let slow : PhyMailbox := { mb with busyPolls := 10 }
    let b (mb : PhyMailbox) : Bench :=
      Bench.blank.withModule diagnosticDevice { ModuleMemory.blank with mailbox := some mb }
    let p := Packet.write 1 0x10 7
    let q := Packet.read 1 0x10
    let q' := Packet.read 1 0x11
    Chained (chain m .standard [p, q, q']) (b mb) mb [p, { q with data := 7 }, q'] (.ok ())
        [p, q, q'] [p, q, q'] ∧
      Chained (chain m .standard [p, q, q']) (b failing) failing [p, q, q']
        (.error (.chainFailed 1 (.protocol "mailbox reported an error status"))) [p, q] [p] ∧
      Chained (chain m .standard [p, q, q']) (b slow) slow [p, q, q']
        (.error (.chainFailed 0 (.timeout (.ofMillis 100)))) [p] [p] := by
  intro m mb failing slow b p q q'
  have hcarries (mb : PhyMailbox) :
      Carries (b mb) { ModuleMemory.blank with mailbox := some mb } mb := ⟨rfl, rfl, rfl, rfl⟩
  have hdone := (chain_sequential m .standard [p, q, q'] (hcarries mb)).1 (by decide)
    fun i _ ↦ nofun
  have hfailed := (chain_sequential m .standard [p, q, q'] (hcarries failing)).2.1 (by decide) 1
    (by decide) rfl
  have hslow := (chain_sequential m .standard [p, q, q'] (hcarries slow)).2.2 (by decide) nofun
  exact ⟨hdone, hfailed, hslow⟩

end Mailbox

end Transceiver
