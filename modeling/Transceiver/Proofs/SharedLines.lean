import Transceiver.Proofs.ByteAccess
import Transceiver.Proofs.Selection

/-!
# Lines that share a group

To write a line its group is read and written back with one bit changed, and the bits next to it are
the lines of other cages.  Main statement: however the lines of a group are read and written, and
whatever the group refuses on the way, each bit of its level is the one that was last written to it.

A step is an access of one line, or a change of what the group refuses.  What a step keeps is kept
along any number of them.
-/

namespace Transceiver

/-! ## Bits of levels -/

/-- A bit of a level. -/
def levelBit (level : UInt32) (i : Fin 32) : Bool := level.toBitVec.getLsb i

section LevelBit

variable (v w : UInt32) (i : Fin 32)

@[simp] theorem levelBit_and : levelBit (v &&& w) i = (levelBit v i && levelBit w i) :=
  BitVec.getLsbD_and

@[simp] theorem levelBit_or : levelBit (v ||| w) i = (levelBit v i || levelBit w i) :=
  BitVec.getLsbD_or

@[simp] theorem levelBit_complement : levelBit (~~~ v) i = !levelBit v i := by
  change (~~~ v.toBitVec).getLsbD i = _
  rw [BitVec.getLsbD_not, decide_eq_true i.isLt, Bool.true_and]
  rfl

@[simp] theorem levelBit_zero : levelBit 0 i = false := BitVec.getLsbD_zero

variable {v w}

theorem eq_of_levelBit (h : ∀ i, levelBit v i = levelBit w i) : v = w :=
  UInt32.toBitVec_inj.mp (BitVec.eq_of_getLsbD_eq fun n hn ↦ h ⟨n, hn⟩)

end LevelBit

namespace Line

variable {l : Line}

/-- The word of a line has the bit of the line and no other. -/
theorem levelBit_word (h : l.bit < 32) (i : Fin 32) :
    levelBit l.word i = decide (l.bit.toNat = i) := by
  change l.word.toNat.testBit i = _
  rw [toNat_word h, Nat.one_shiftLeft, Nat.testBit_two_pow]

/-- Setting or clearing a line changes the bit of it and no other. -/
theorem levelBit_assigned (h : l.bit < 32) (on : Bool) (level : UInt32) (i : Fin 32) :
    levelBit (l.assigned on level) i = if l.bit.toNat = i then on else levelBit level i := by
  by_cases hi : l.bit.toNat = i
  · cases on <;> simp [assigned, levelBit_word h, hi]
  · cases on <;> simp [assigned, levelBit_word h, hi]

/-- What is read of a line is its bit. -/
theorem bne_zero_eq_levelBit (h : l.bit.toNat < 32) (level : UInt32) :
    (level &&& l.word != 0) = levelBit level ⟨l.bit.toNat, h⟩ := by
  have hword := levelBit_word (l := l) h
  cases hlevel : levelBit level ⟨l.bit.toNat, h⟩ with
  | true =>
    refine bne_iff_ne.mpr fun hzero ↦ ?_
    have hclear := congrArg (levelBit · ⟨l.bit.toNat, h⟩) hzero
    simp [hword, hlevel] at hclear
  | false =>
    refine bne_eq_false_iff_eq.mpr (eq_of_levelBit fun i ↦ ?_)
    by_cases hi : l.bit.toNat = i
    · obtain rfl : ⟨l.bit.toNat, h⟩ = i := Fin.ext hi
      simp [hlevel]
    · simp [hword, hi]

end Line

/-! ## Accesses -/

/-- An access of a line. -/
inductive LineAccess where
  | read
  | write (on : Bool)
deriving DecidableEq, Repr

namespace LineAccess

/-- What an access returns. -/
abbrev Answer : LineAccess → Type
  | .read => Bool
  | .write _ => Unit

/-- The access of a line. -/
def run (l : Line) : (a : LineAccess) → Procedure a.Answer
  | .read => l.read
  | .write on => l.write on

variable {l : Line} {b : Bench}

/-- A line can be accessed if it works. -/
theorem succeeds_iff (a : LineAccess) :
    (∃ x, (a.run l).run.value Bench.answer b = .ok x) ↔ l.Works b := by
  cases a with
  | read =>
    constructor
    · rintro ⟨on, h⟩
      exact (Line.value_read_eq_ok.mp h).1
    · exact fun h ↦ ⟨_, Line.value_read_eq_ok.mpr ⟨h, rfl⟩⟩
  | write on =>
    constructor
    · rintro ⟨_, h⟩
      exact (Line.write_runsTo_iff.mp ⟨h, rfl⟩).1
    · exact fun h ↦ ⟨(), (Line.write_runsTo_iff.mpr ⟨h, rfl⟩).value⟩

/-- An access that fails changes nothing. -/
theorem final_of_error (a : LineAccess) {e : Error}
    (h : (a.run l).run.value Bench.answer b = .error e) :
    (a.run l).run.final Bench.answer b = b := by
  cases a with
  | read => exact l.final_read b
  | write on =>
    refine (l.final_write on).resolve_right fun hworks ↦ ?_
    obtain ⟨x, hx⟩ := (succeeds_iff (.write on)).mpr hworks.1
    exact nomatch h.symm.trans hx

/-- A line that its group does not have is refused as soon as the group is held. -/
theorem value_of_outOfRange (a : LineAccess) (hbit : ¬ l.bit < 32)
    (hacquire : (b.pin l.group.id).failAcquire = false) :
    (a.run l).run.value Bench.answer b =
      .error (.invalidArgument ("GPIO line " ++ toString l.bit ++ " out of range")) := by
  have hmask : l.mask = .error (.invalidArgument ("GPIO line " ++ toString l.bit ++
      " out of range")) := if_neg hbit
  generalize Error.invalidArgument ("GPIO line " ++ toString l.bit ++ " out of range") = e
    at hmask ⊢
  cases a with
  | read =>
    have hget : l.get.RunsTo Bench.answer b (.error e) b := by
      unfold Line.get
      rw [hmask]
      exact (Procedure.RunsTo.liftExcept _ _).bind_error
    exact (PinGroup.hold_runsTo hacquire hget).value
  | write on =>
    have hassign : (l.assign on).RunsTo Bench.answer b (.error e) b := by
      unfold Line.assign
      rw [hmask]
      exact (Procedure.RunsTo.liftExcept _ _).bind_error
    exact (PinGroup.hold_runsTo hacquire hassign).value

/-- The group of a line is not held when an access of it ends. -/
theorem watch_trace (a : LineAccess) (l : Line) (b : Bench) :
    ((a.run l).run.trace Bench.answer b).watch holding [] = some [] := by
  have hpreserves : (a.run l).run.Preserves (selecting ⟨none, none⟩) (· = []) := by
    cases a with
    | read => exact l.read_preserves
    | write on => exact l.write_preserves on
  obtain ⟨_, hwatch, rfl⟩ := (hpreserves [] rfl).watch_trace Bench.answer b
  exact Trace.watch_of_imp (fun _ _ _ ↦ holding_of_selecting) hwatch

end LineAccess

/-! ## Runs -/

/-- An access of a bit of a group with the answer to it. -/
structure Accessed where
  bit : UInt8
  access : LineAccess
  answer : Except Error access.Answer

/-- What an access wrote to a bit, if it is one that wrote it. -/
def Accessed.written? (i : Fin 32) : Accessed → Option Bool
  | ⟨bit, .write on, .ok ()⟩ => if bit.toNat = i then some on else none
  | _ => none

/-- What was last written to a bit. -/
def lastWritten (i : Fin 32) (accesses : List Accessed) : Option Bool :=
  (accesses.filterMap (Accessed.written? i)).getLast?

/-- What was last written is what the last access wrote, or else what was before it. -/
theorem lastWritten_append (i : Fin 32) (accesses : List Accessed) (a : Accessed) :
    lastWritten i (accesses ++ [a]) = (a.written? i).or (lastWritten i accesses) := by
  unfold lastWritten
  rw [List.filterMap_append, List.getLast?_append]
  cases h : a.written? i <;> simp [h]

/-- What may happen to a group. -/
inductive GroupStep where
  /-- A line of the group is accessed. -/
  | access (bit : UInt8) (access : LineAccess)
  /-- From now on the group can or cannot be acquired, and read and written. -/
  | refuse (acquire access : Bool)
deriving DecidableEq, Repr

/-- What happened to a group, in order, and the bench it led to. -/
structure GroupRun where
  accesses : List Accessed
  trace : Trace
  bench : Bench

namespace PinGroup

variable (g : PinGroup)

/-- One more step. -/
def step (r : GroupRun) : GroupStep → GroupRun
  | .access bit access =>
    let p := (access.run ⟨g, bit⟩).run
    { accesses := r.accesses ++ [⟨bit, access, p.value Bench.answer r.bench⟩]
      trace := r.trace ++ p.trace Bench.answer r.bench
      bench := p.final Bench.answer r.bench }
  | .refuse acquire access =>
    { r with bench := r.bench.setPin g.id ⟨(r.bench.pin g.id).level, acquire, access⟩ }

/-- The run of steps from a bench. -/
def runSteps (b : Bench) (steps : List GroupStep) : GroupRun := steps.foldl g.step ⟨[], [], b⟩

/-- What steps keep of a group that had a level at first: its bits are those written last, and it is
not held. -/
structure Settled (initial : UInt32) (r : GroupRun) : Prop where
  level : ∀ i, levelBit (r.bench.pin g.id).level i =
    (lastWritten i r.accesses).getD (levelBit initial i)
  holds : r.trace.watch holding [] = some []

variable {g} {initial : UInt32} {r : GroupRun}

/-- An access makes the bits of a group what it wrote, and leaves the others. -/
theorem levelBit_access (bit : UInt8) (a : LineAccess) (b : Bench) (i : Fin 32) :
    levelBit (((a.run ⟨g, bit⟩).run.final Bench.answer b).pin g.id).level i =
      (Accessed.written? i ⟨bit, a, (a.run ⟨g, bit⟩).run.value Bench.answer b⟩).getD
        (levelBit (b.pin g.id).level i) := by
  cases h : (a.run ⟨g, bit⟩).run.value Bench.answer b with
  | error e =>
    rw [a.final_of_error h]
    cases a <;> rfl
  | ok x =>
    cases a with
    | read =>
      have hfinal : (LineAccess.read.run ⟨g, bit⟩).run.final Bench.answer b = b :=
        Line.final_read _ b
      rw [hfinal]
      rfl
    | write on =>
      obtain ⟨hworks, hfinal⟩ := Line.write_runsTo_iff.mp ⟨h, rfl⟩
      have hlevel : (((LineAccess.write on).run ⟨g, bit⟩).run.final Bench.answer b).pin g.id =
          ⟨Line.assigned ⟨g, bit⟩ on (b.pin g.id).level, (b.pin g.id).failAcquire,
            (b.pin g.id).failAccess⟩ := by
        refine (congrArg (Bench.pin · g.id) hfinal).trans ?_
        simp [Bench.withLevel, Bench.setPin]
      rw [hlevel, Line.levelBit_assigned hworks.2]
      change _ = (if bit.toNat = i then some on else none).getD _
      split <;> rfl

theorem Settled.step (h : g.Settled initial r) (s : GroupStep) :
    g.Settled initial (g.step r s) := by
  cases s with
  | access bit a =>
    refine ⟨fun i ↦ ?_, ?_⟩
    · change levelBit (((a.run ⟨g, bit⟩).run.final Bench.answer r.bench).pin g.id).level i =
        (lastWritten i (r.accesses ++ [_])).getD _
      rw [levelBit_access, lastWritten_append, h.level]
      cases Accessed.written? i ⟨bit, a, (a.run ⟨g, bit⟩).run.value Bench.answer r.bench⟩ <;> rfl
    · change (r.trace ++ _).watch holding [] = some []
      rw [Trace.watch_append, h.holds]
      exact a.watch_trace ⟨g, bit⟩ r.bench
  | refuse acquire access =>
    refine ⟨fun i ↦ ?_, h.holds⟩
    have hlevel : ((g.step r (.refuse acquire access)).bench.pin g.id).level =
        (r.bench.pin g.id).level := by
      simp [PinGroup.step, Bench.setPin]
    rw [hlevel]
    exact h.level i

theorem Settled.foldl (h : g.Settled initial r) (steps : List GroupStep) :
    g.Settled initial (steps.foldl g.step r) := by
  induction steps generalizing r with
  | nil => exact h
  | cons s steps ih => exact ih (h.step s)

/-- After any steps each bit of a group is the one that was last written to it, or else as it was at
first, and the group was released as often as it was acquired.  Whatever line is accessed next: it
reads as its bit; it can be accessed if the group works and has it; a group that can be acquired
refuses a line that it does not have; and an access that fails leaves the level. -/
theorem lines_apart (g : PinGroup) (b : Bench) (steps : List GroupStep) :
    let r := g.runSteps b steps
    let level := (r.bench.pin g.id).level
    (∀ i, levelBit level i = (lastWritten i r.accesses).getD (levelBit (b.pin g.id).level i)) ∧
      (r.trace.use g).acquired = (r.trace.use g).released ∧
      ∀ (bit : UInt8),
        (∀ on, (Line.read ⟨g, bit⟩).run.value Bench.answer r.bench = .ok on →
          ∃ h : bit.toNat < 32, on = levelBit level ⟨bit.toNat, h⟩) ∧
        ∀ a : LineAccess,
          let next := (a.run ⟨g, bit⟩).run
          ((∃ x, next.value Bench.answer r.bench = .ok x) ↔
            (r.bench.pin g.id).Works ∧ bit < 32) ∧
          (¬ bit < 32 → (r.bench.pin g.id).failAcquire = false →
            next.value Bench.answer r.bench =
              .error (.invalidArgument ("GPIO line " ++ toString bit ++ " out of range"))) ∧
          ∀ e, next.value Bench.answer r.bench = .error e →
            ((next.final Bench.answer r.bench).pin g.id).level = level := by
  intro r level
  have hfirst : g.Settled (b.pin g.id).level ⟨[], [], b⟩ := ⟨fun _ ↦ rfl, rfl⟩
  have hsettled : g.Settled (b.pin g.id).level r := hfirst.foldl steps
  refine ⟨hsettled.level, by simpa using acquired_eq_released hsettled.holds g, fun bit ↦ ⟨?_, ?_⟩⟩
  · intro on hread
    obtain ⟨⟨-, hbit⟩, hlevel⟩ := Line.value_read_eq_ok.mp hread
    exact ⟨hbit, hlevel.symm.trans (Line.bne_zero_eq_levelBit (l := ⟨g, bit⟩) hbit _)⟩
  · intro a next
    refine ⟨a.succeeds_iff, fun hbit hacquire ↦ a.value_of_outOfRange hbit hacquire, ?_⟩
    intro e he
    rw [show next.final Bench.answer r.bench = r.bench from a.final_of_error he]

/-- One line of a group is set.  Another one is cleared in vain while the group cannot be acquired,
and then again. -/
theorem lines_apart_retried :
    let g : PinGroup := ⟨"reset", 3⟩
    let b := Bench.blank.setPin 3 (.ofLevel 0x80000001)
    let r := g.runSteps b [.access 3 (.write true), .refuse true false, .access 31 (.write false),
      .access 0 (.write false), .refuse false false, .access 31 (.write false)]
    (r.bench.pin 3).level = 9 ∧
      (Line.read ⟨g, 3⟩).run.value Bench.answer r.bench = .ok true ∧
      (Line.write ⟨g, 32⟩ true).run.value Bench.answer r.bench =
        .error (.invalidArgument "GPIO line 32 out of range") := by
  intro g b r
  obtain ⟨hlevel, -, hnext⟩ := lines_apart g b [.access 3 (.write true), .refuse true false,
    .access 31 (.write false), .access 0 (.write false), .refuse false false,
    .access 31 (.write false)]
  have hbits : ∀ i, levelBit (r.bench.pin 3).level i = levelBit 9 i := fun i ↦
    (hlevel i).trans (by revert i; decide +kernel)
  refine ⟨eq_of_levelBit hbits, ?_, ((hnext 32).2 (.write true)).2.1 (by decide) rfl⟩
  obtain ⟨on, hread⟩ := ((hnext 3).2 .read).1.mpr ⟨⟨rfl, rfl⟩, by decide⟩
  obtain ⟨_, hon⟩ := (hnext 3).1 on hread
  exact hread.trans (congrArg Except.ok (hon.trans (hbits 3)))

end PinGroup

end Transceiver
