import Transceiver.CopperPhy
import Transceiver.Proofs.PagedMemory

/-!
# Updates of the PHY of copper modules

The registers of the PHY are changed by reading a word and writing it back, so every write carries
the bits that are not meant along with those that are.  Main statement: without faults, for whatever
is in the registers, every operation changes the bits it is meant to change and no others.

For this the operations are followed on the bank of registers alone, first by words and then by
bits.
-/

namespace Transceiver

/-! ## Bits of words -/

/-- A bit of a word. -/
def wordBit (w : UInt16) (i : Fin 16) : Bool := w.toBitVec.getLsb i

@[simp] theorem wordBit_or (v w : UInt16) (i : Fin 16) :
    wordBit (v ||| w) i = (wordBit v i || wordBit w i) := BitVec.getLsbD_or

@[simp] theorem wordBit_and (v w : UInt16) (i : Fin 16) :
    wordBit (v &&& w) i = (wordBit v i && wordBit w i) := BitVec.getLsbD_and

@[simp] theorem wordBit_not (w : UInt16) (i : Fin 16) : wordBit (~~~ w) i = !wordBit w i := by
  change (~~~ w.toBitVec).getLsbD i = _
  rw [BitVec.getLsbD_not, decide_eq_true i.isLt, Bool.true_and]
  rfl

@[simp] theorem wordBit_zero (i : Fin 16) : wordBit 0 i = false := BitVec.getLsbD_zero

theorem eq_of_wordBit {v w : UInt16} (h : ∀ i, wordBit v i = wordBit w i) : v = w :=
  UInt16.toBitVec_inj.mp (BitVec.eq_of_getLsbD_eq fun n hn ↦ h ⟨n, hn⟩)

section

variable {m : UInt16} {k : Fin 16} (hm : ∀ i, wordBit m i = decide (i = k)) (w : UInt16)
include hm

/-- Whether a word has the bit of a mask. -/
theorem and_ne_zero_eq_wordBit : (w &&& m != 0) = wordBit w k := by
  cases hk : wordBit w k with
  | true =>
    refine bne_iff_ne.mpr fun h ↦ ?_
    have hbit := congrArg (wordBit · k) h
    simp [hm, hk] at hbit
  | false =>
    refine bne_eq_false_iff_eq.mpr (eq_of_wordBit fun i ↦ ?_)
    by_cases hi : i = k
    · simp [hi, hk]
    · simp [hm, hi]

theorem wordBit_set (i : Fin 16) :
    wordBit (w ||| m) i = if i = k then true else wordBit w i := by
  by_cases hi : i = k <;> simp [hm, hi]

theorem wordBit_clear (i : Fin 16) :
    wordBit (w &&& ~~~ m) i = if i = k then false else wordBit w i := by
  by_cases hi : i = k <;> simp [hm, hi]

/-- The bit of a mask is set or cleared. -/
theorem wordBit_assign (on : Bool) (i : Fin 16) :
    wordBit (if on then w ||| m else w &&& ~~~ m) i = if i = k then on else wordBit w i := by
  cases on with
  | true => exact wordBit_set hm w i
  | false => exact wordBit_clear hm w i

end

/-- Bits of a mask in place of those of a word. -/
theorem wordBit_replace {m x : UInt16} {i : Fin 16} (hx : wordBit x i = true → wordBit m i = true)
    (w : UInt16) :
    wordBit (w &&& ~~~ m ||| x) i = if wordBit m i then wordBit x i else wordBit w i := by
  rw [wordBit_or, wordBit_and, wordBit_not]
  cases hm : wordBit m i with
  | true => simp
  | false =>
    have hclear : wordBit x i = false := Bool.eq_false_iff.mpr fun h ↦ nomatch hm.symm.trans (hx h)
    simp [hclear]

/-! ## Banks of registers -/

namespace RegisterBank

variable (bank : RegisterBank) (r : UInt8)

/-- The word that a register reads as. -/
def word : UInt16 := (bank r).getD 0

/-- A bit of a register. -/
def bit (i : Fin 16) : Bool := wordBit (bank.word r) i

/-- Replace the word of a register. -/
def update (f : UInt16 → UInt16) : RegisterBank := bank.set r (f (bank.word r))

theorem word_set (v : UInt16) (r' : UInt8) :
    (bank.set r v).word r' = if r' = r then v else bank.word r' := by
  unfold word set
  split <;> rfl

theorem bit_set (v : UInt16) (r' : UInt8) (i : Fin 16) :
    (bank.set r v).bit r' i = if r' = r then wordBit v i else bank.bit r' i := by
  unfold bit
  rw [word_set]
  split <;> rfl

/-- The bits of a register that is replaced, where a word is replaced in some of its bits. -/
theorem bit_update {f : UInt16 → UInt16} {i : Fin 16} {c : Prop} [Decidable c] {x : Bool}
    (hf : wordBit (f (bank.word r)) i = if c then x else bank.bit r i) (r' : UInt8) :
    (bank.update r f).bit r' i = if r' = r ∧ c then x else bank.bit r' i := by
  unfold update
  rw [bit_set]
  by_cases hr : r' = r
  · subst hr
    simp [hf]
  · simp [hr]

/-- Bits of a mask in place of those of a register. -/
theorem bit_replace {m x : UInt16} {i : Fin 16} (hx : wordBit x i = true → wordBit m i = true)
    (r' : UInt8) :
    (bank.update r fun v ↦ v &&& ~~~ m ||| x).bit r' i =
      if r' = r ∧ wordBit m i then wordBit x i else bank.bit r' i := by
  refine bank.bit_update r ?_ r'
  exact wordBit_replace hx _

/-- What is read of a word, and what is written with one. -/
theorem wordIn_read : wordIn (bank.read r 2) = bank.word r := by
  refine Eq.trans ?_ (word16_bytes (bank.word r))
  simp [wordIn, read, word]

theorem write_word (v : UInt16) : bank.write r (bytes16 v) = bank.set r v :=
  congrArg (bank.set r) (word16_bytes v)

end RegisterBank

namespace Bench

/-- The bench with a bank of registers at an address. -/
def withBank (b : Bench) (address : UInt8) (bank : RegisterBank) : Bench :=
  { b with segment := b.segment.setDevice address (some (.registers bank)) }

variable {b : Bench} {address : UInt8} {bank : RegisterBank}

theorem withBank_self (h : b.segment.device? address = some (.registers bank)) :
    b.withBank address bank = b :=
  congrArg (Bench.mk · b.pin) (Segment.setDevice_self h)

theorem device?_withBank (b : Bench) (address : UInt8) (bank : RegisterBank) :
    (b.withBank address bank).segment.device? address = some (.registers bank) := if_pos rfl

theorem withBank_withBank (b : Bench) (address : UInt8) (bank bank' : RegisterBank) :
    (b.withBank address bank).withBank address bank' = b.withBank address bank' :=
  congrArg (Bench.mk · b.pin) (Segment.setDevice_setDevice _ _ _ _)

end Bench

namespace CopperPhy

/-! ## Runs on a bank -/

/-- The PHY of a bench answers, with a bank of registers. -/
structure Answers (b : Bench) (bank : RegisterBank) : Prop where
  faultless : b.segment.Faultless
  bank : b.segment.device? device = some (.registers bank)

theorem Answers.withBank {b : Bench} {bank : RegisterBank} (h : Answers b bank)
    (bank' : RegisterBank) : Answers (b.withBank device bank') bank' :=
  ⟨h.faultless, b.device?_withBank device bank'⟩

section

variable {α β : Type}

/-- On every bench whose PHY answers with one bank, a procedure returns and leaves another. -/
def Leads (bank : RegisterBank) (p : Procedure α) (a : α) (bank' : RegisterBank) : Prop :=
  ∀ b, Answers b bank → p.RunsTo Bench.answer b (.ok a) (b.withBank device bank')

namespace Leads

variable {p : Procedure α} {f : α → Procedure β} {a : α} {c : β}
  {bank bank₁ bank₂ : RegisterBank}

theorem pure (bank : RegisterBank) (a : α) : Leads bank (Pure.pure a) a bank :=
  fun b h ↦ (Bench.withBank_self h.bank).symm ▸ .pure a b

theorem bind (hp : Leads bank p a bank₁) (hf : Leads bank₁ (f a) c bank₂) :
    Leads bank (p >>= f) c bank₂ :=
  fun b h ↦ (hp b h).bind (b.withBank_withBank device bank₁ bank₂ ▸ hf _ (h.withBank bank₁))

theorem report (bank : RegisterBank) (severity : Severity) (message : String)
    (fields : List (String × String)) :
    Leads bank (liftM (report severity message fields)) () bank :=
  fun b h ↦ (Bench.withBank_self h.bank).symm ▸ .lift _ b

end Leads

end

section

variable (bank : RegisterBank)

theorem read_leads (register : UInt8) :
    Leads bank (read register) (bank.word register) bank := by
  have hread : Leads bank (Bus.readWord device register) (bank.word register) bank := by
    intro b h
    have hsegment : b.segment.read device register 2 = (.ok (bank.read register 2), b.segment) := by
      simp [Segment.read, h.faultless.touches_reads, h.bank]
    have hbytes : (Bus.read device register 2).RunsTo Bench.answer b
        (.ok (bank.read register 2)) b := by
      constructor
      · rw [Bus.value_read, hsegment]
        rfl
      · rw [Bus.final_read, hsegment]
    rw [Bench.withBank_self h.bank, ← bank.wordIn_read]
    exact hbytes.bind (.pure _ _)
  exact hread.bind ((Leads.report _ _ _ _).bind (.pure _ _))

theorem write_leads (register : UInt8) (value : UInt16) :
    Leads bank (write register value) () (bank.set register value) := by
  refine (Leads.report _ _ _ _).bind fun b h ↦ ?_
  have hsegment : b.segment.write device register (bytes16 value) =
      (.ok (), (b.withBank device (bank.set register value)).segment) := by
    simp [Segment.write, h.faultless.touches_writes, h.bank, Bench.withBank, bank.write_word]
  unfold Bus.writeWord
  constructor
  · rw [Bus.value_write, hsegment]
    rfl
  · rw [Bus.final_write, hsegment]
    rfl

theorem update_leads (register : UInt8) (f : UInt16 → UInt16) :
    Leads bank (update register f) () (bank.update register f) :=
  (read_leads bank register).bind (write_leads bank register _)

end

/-! ## Masks -/

theorem wordBit_controlReset : ∀ i, wordBit controlReset i = decide (i = 15) := by decide

theorem wordBit_controlAutoneg : ∀ i, wordBit controlAutoneg i = decide (i = 12) := by decide

theorem wordBit_controlPowerDown : ∀ i, wordBit controlPowerDown i = decide (i = 11) := by decide

theorem wordBit_hostPowerDown : ∀ i, wordBit hostPowerDown i = decide (i = 3) := by decide

theorem wordBit_advertiseMask : ∀ i, wordBit advertiseMask i = decide (5 ≤ i ∧ i ≤ 8) := by decide

theorem wordBit_gigabitMask : ∀ i, wordBit gigabitMask i = decide (8 ≤ i ∧ i ≤ 9) := by decide

/-- Whether a PHY is powered down. -/
theorem and_controlPowerDown (bank : RegisterBank) :
    (bank.word control &&& controlPowerDown != 0) = bank.bit control 11 :=
  and_ne_zero_eq_wordBit wordBit_controlPowerDown _

/-- Whether its host side is. -/
theorem and_hostPowerDown (bank : RegisterBank) :
    (bank.word phyControl &&& hostPowerDown != 0) = bank.bit phyControl 3 :=
  and_ne_zero_eq_wordBit wordBit_hostPowerDown _

/-! ## Resets -/

section

variable (bank : RegisterBank)

/-- The bank once a reset was asked for. -/
def reset : RegisterBank := bank.update control (· ||| controlReset)

/-- The bank once pending settings were made to take effect. -/
def applied : RegisterBank := if bank.bit control 11 then bank else reset bank

theorem bit_reset (r : UInt8) (i : Fin 16) :
    (reset bank).bit r i = if r = control ∧ i = 15 then true else bank.bit r i := by
  refine bank.bit_update control ?_ r
  exact wordBit_set wordBit_controlReset _ i

/-- The reset bit is set unless the PHY is powered down. -/
theorem bit_applied (r : UInt8) (i : Fin 16) :
    (applied bank).bit r i =
      if r = control ∧ i = 15 then bank.bit control 15 || !bank.bit control 11
      else bank.bit r i := by
  unfold applied
  cases hdown : bank.bit control 11 with
  | true =>
    rw [if_pos rfl]
    split
    · rename_i h
      rw [h.1, h.2]
      simp
    · rfl
  | false =>
    rw [if_neg Bool.false_ne_true, bit_reset, Bool.not_false, Bool.or_true]

theorem apply_leads : Leads bank apply () (applied bank) := by
  refine (read_leads bank control).bind ?_
  have hup : (bank.word control &&& controlPowerDown == 0) = !bank.bit control 11 := by
    rw [← and_controlPowerDown, bne, Bool.not_not]
  unfold applied
  rw [hup]
  cases bank.bit control 11 with
  | true => exact .report _ _ _ _
  | false => exact update_leads bank control _

end

/-! ## Autonegotiation -/

section

variable (bank : RegisterBank)

/-- The bank with autonegotiation on or off. -/
def withAutoneg (enable : Bool) : RegisterBank :=
  bank.update control fun v ↦ if enable then v ||| controlAutoneg else v &&& ~~~ controlAutoneg

theorem bit_withAutoneg (enable : Bool) (r : UInt8) (i : Fin 16) :
    (withAutoneg bank enable).bit r i =
      if r = control ∧ i = 12 then enable else bank.bit r i := by
  refine bank.bit_update control ?_ r
  exact wordBit_assign wordBit_controlAutoneg _ enable i

theorem setAutoneg_leads (enable : Bool) :
    Leads bank (setAutoneg enable) () (applied (withAutoneg bank enable)) :=
  (update_leads bank control _).bind (apply_leads _)

/-! ## Modes -/

/-- The bank with an interface to the host. -/
def withMode (mode : PhyMode) : RegisterBank :=
  bank.update modeRegister fun v ↦
    match mode with
    | .sgmii => sgmiiMode
    | .mii | .gmii => v

theorem bit_withMode (mode : PhyMode) (r : UInt8) (i : Fin 16) :
    (withMode bank mode).bit r i =
      if r = modeRegister ∧ mode = .sgmii then wordBit sgmiiMode i else bank.bit r i := by
  refine bank.bit_update modeRegister ?_ r
  cases mode <;> rfl

theorem setMode_leads (mode : PhyMode) :
    Leads bank (setMode mode) () (applied (withMode bank mode)) :=
  (update_leads bank modeRegister _).bind (apply_leads _)

/-! ## Speeds -/

/-- The bank with the advertisement of a speed. -/
def withAdvertisement (base gigabit : UInt16) : RegisterBank :=
  (bank.update advertise fun v ↦ v &&& ~~~ advertiseMask ||| base).update gigabitControl
    fun v ↦ v &&& ~~~ gigabitMask ||| gigabit

end

/-- The words that advertise a speed, below a gigabit and at it.  Along with 100 Mbps goes the full
duplex of 10 Mbps. -/
theorem advertisement?_eq_some_iff {speed : Speed} {base gigabit : UInt16} :
    advertisement? speed = some (base, gigabit) ↔
      speed = .m10 ∧ base = 0x0040 ∧ gigabit = 0 ∨
      speed = .m100 ∧ base = 0x0140 ∧ gigabit = 0 ∨
      speed = .g1 ∧ base = 0 ∧ gigabit = 0x0200 := by
  constructor
  · intro h
    cases speed <;> cases h <;> decide
  · rintro (⟨rfl, rfl, rfl⟩ | ⟨rfl, rfl, rfl⟩ | ⟨rfl, rfl, rfl⟩) <;> rfl

theorem advertisement?_of_mem {speed : Speed} (h : speed ∈ [Speed.m10, .m100, .g1]) :
    ∃ base gigabit, advertisement? speed = some (base, gigabit) := by
  have hsome : (advertisement? speed).isSome := by
    revert speed
    decide
  obtain ⟨⟨base, gigabit⟩, hadvertised⟩ := Option.isSome_iff_exists.mp hsome
  exact ⟨base, gigabit, hadvertised⟩

theorem advertisement?_of_not_mem {speed : Speed} (h : speed ∉ [Speed.m10, .m100, .g1]) :
    advertisement? speed = none := by
  cases speed <;> first | rfl | exact absurd (by decide) h

/-- Nothing is advertised but by the bits for it. -/
theorem wordBit_advertisement {speed : Speed} {base gigabit : UInt16}
    (h : advertisement? speed = some (base, gigabit)) (i : Fin 16) :
    (wordBit base i = true → wordBit advertiseMask i = true) ∧
      (wordBit gigabit i = true → wordBit gigabitMask i = true) := by
  obtain ⟨-, rfl, rfl⟩ | ⟨-, rfl, rfl⟩ | ⟨-, rfl, rfl⟩ := advertisement?_eq_some_iff.mp h <;>
    revert i <;> decide

theorem bit_withAdvertisement (bank : RegisterBank) {speed : Speed} {base gigabit : UInt16}
    (h : advertisement? speed = some (base, gigabit)) (r : UInt8) (i : Fin 16) :
    (withAdvertisement bank base gigabit).bit r i =
      if r = advertise ∧ 5 ≤ i ∧ i ≤ 8 then wordBit base i
      else if r = gigabitControl ∧ 8 ≤ i ∧ i ≤ 9 then wordBit gigabit i
      else bank.bit r i := by
  obtain ⟨hbase, hgigabit⟩ := wordBit_advertisement h i
  have hne : gigabitControl ≠ advertise := by decide
  unfold withAdvertisement
  rw [RegisterBank.bit_replace _ gigabitControl hgigabit, bank.bit_replace advertise hbase,
    wordBit_advertiseMask, wordBit_gigabitMask]
  by_cases hr : r = advertise
  · simp [hr, hne.symm]
  · simp [hr]

theorem setSpeed_leads (bank : RegisterBank) {speed : Speed} {base gigabit : UInt16}
    (h : advertisement? speed = some (base, gigabit)) :
    Leads bank (setSpeed speed) () (withAdvertisement bank base gigabit) := by
  unfold setSpeed
  rw [h]
  exact (update_leads bank advertise _).bind (update_leads _ gigabitControl _)

/-- A speed that is not advertised is refused at once. -/
theorem run_setSpeed_of_none {speed : Speed} (h : advertisement? speed = none) :
    (setSpeed speed).run =
      .done (.error (.invalidArgument ("copper PHY cannot run at " ++ speed.text))) := by
  unfold setSpeed
  rw [h]
  rfl

/-! ## Power -/

section

variable (bank : RegisterBank)

/-- The bank once the host side was brought up. -/
def hostUp : RegisterBank :=
  if bank.bit phyControl 3 then reset (bank.update phyControl (· &&& ~~~ hostPowerDown)) else bank

theorem bit_hostUp (r : UInt8) (i : Fin 16) :
    (hostUp bank).bit r i =
      if r = phyControl ∧ i = 3 then false
      else if r = control ∧ i = 15 then bank.bit control 15 || bank.bit phyControl 3
      else bank.bit r i := by
  have hne : control ≠ phyControl := by decide
  unfold hostUp
  cases hhost : bank.bit phyControl 3 with
  | true =>
    have hcleared : (bank.update phyControl (· &&& ~~~ hostPowerDown)).bit r i =
        if r = phyControl ∧ i = 3 then false else bank.bit r i := by
      refine bank.bit_update phyControl ?_ r
      exact wordBit_clear wordBit_hostPowerDown _ i
    rw [if_pos rfl, bit_reset, hcleared, Bool.or_true]
    by_cases hr : r = phyControl
    · simp [hr, hne.symm]
    · simp [hr]
  | false =>
    rw [if_neg Bool.false_ne_true, Bool.or_false]
    split
    · rename_i h
      rw [h.1, h.2, hhost]
    · split
      · rename_i h
        rw [h.1, h.2]
      · rfl

/-- The bank with the copper side powered down or up, by a word of control that was read before. -/
def withPower (enable : Bool) : RegisterBank :=
  if bank.bit control 11 ≠ enable then
    (hostUp bank).set control (if enable then bank.word control ||| controlPowerDown
      else bank.word control &&& ~~~ controlPowerDown)
  else hostUp bank

/-- The word of control that was read before lacks a reset that was asked for since. -/
theorem bit_withPower (enable : Bool) (r : UInt8) (i : Fin 16) :
    (withPower bank enable).bit r i =
      if r = control ∧ i = 11 then enable
      else if r = phyControl ∧ i = 3 then false
      else if r = control ∧ i = 15 then
        bank.bit control 15 || bank.bit phyControl 3 && bank.bit control 11 == enable
      else bank.bit r i := by
  have hne : control ≠ phyControl := by decide
  unfold withPower
  by_cases hpower : bank.bit control 11 = enable
  · rw [if_neg (not_not_intro hpower), bit_hostUp, beq_iff_eq.mpr hpower, Bool.and_true]
    by_cases hr : r = control
    · subst hr
      by_cases hi : i = 11 <;> simp [hi, hne, hpower]
    · simp [hr]
  -- the bit that the reset set since is overwritten along with the rest of the word
  · rw [if_pos hpower, RegisterBank.bit_set, wordBit_assign wordBit_controlPowerDown, bit_hostUp,
      beq_eq_false_iff_ne.mpr hpower, Bool.and_false, Bool.or_false]
    by_cases hr : r = control
    · subst hr
      by_cases hi : i = 15 <;> simp [hi, hne, RegisterBank.bit]
    · simp [hr]

theorem setPowerDown_leads (enable : Bool) :
    Leads bank (setPowerDown enable) () (withPower bank enable) := by
  have hpower : Leads (hostUp bank) (if (bank.word control &&& controlPowerDown != 0) ≠ enable then
      write control (if enable then bank.word control ||| controlPowerDown
        else bank.word control &&& ~~~ controlPowerDown)
      else pure ()) () (withPower bank enable) := by
    unfold withPower
    rw [and_controlPowerDown]
    split
    · exact write_leads _ control _
    · exact .pure _ ()
  refine (read_leads bank control).bind ((read_leads bank phyControl).bind ?_)
  rw [and_hostPowerDown]
  cases hhost : bank.bit phyControl 3 with
  | true =>
    have hup : hostUp bank = reset (bank.update phyControl (· &&& ~~~ hostPowerDown)) :=
      if_pos hhost
    rw [hup] at hpower
    exact (write_leads bank phyControl _).bind ((update_leads _ control _).bind hpower)
  | false =>
    have hup : hostUp bank = bank := if_neg (hhost ▸ Bool.false_ne_true)
    rw [hup] at hpower
    exact hpower

end

/-! ## Main statement -/

/-- A procedure returns, and leaves registers with certain bits and everything else as it is. -/
def Leaves (b : Bench) (p : Procedure Unit) (bits : UInt8 → Fin 16 → Bool) : Prop :=
  ∃ bank : RegisterBank, p.RunsTo Bench.answer b (.ok ()) (b.withBank device bank) ∧ bank.bit = bits

theorem Leads.leaves {b : Bench} {bank bank' : RegisterBank} {p : Procedure Unit}
    {bits : UInt8 → Fin 16 → Bool} (hp : Leads bank p () bank') (h : Answers b bank)
    (hbits : ∀ r i, bank'.bit r i = bits r i) : Leaves b p bits :=
  ⟨bank', hp b h, funext fun r ↦ funext fun i ↦ hbits r i⟩

/-- Updates of the PHY change the bits that they are meant to change and no others; the words for a
speed are those of `advertisement?_eq_some_iff`.  A reset is asked for unless the PHY is powered
down.  Where power is switched it is asked for if the host side is brought up, and lost again if the
word of control is then written as it was read before. -/
theorem updates_change_own_bits {b : Bench} {bank : RegisterBank} (h : Answers b bank) :
    (∀ enable, Leaves b (setAutoneg enable) fun r i ↦
      if r = control ∧ i = 12 then enable
      else if r = control ∧ i = 15 then bank.bit control 15 || !bank.bit control 11
      else bank.bit r i) ∧
    (∀ speed ∈ [Speed.m10, .m100, .g1], ∃ base gigabit,
      advertisement? speed = some (base, gigabit) ∧ Leaves b (setSpeed speed) fun r i ↦
        if r = advertise ∧ 5 ≤ i ∧ i ≤ 8 then wordBit base i
        else if r = gigabitControl ∧ 8 ≤ i ∧ i ≤ 9 then wordBit gigabit i
        else bank.bit r i) ∧
    (∀ speed ∉ [Speed.m10, .m100, .g1],
      (setSpeed speed).RunsTo Bench.answer b
        (.error (.invalidArgument ("copper PHY cannot run at " ++ speed.text))) b ∧
      (setSpeed speed).run.trace Bench.answer b = []) ∧
    (∀ enable, Leaves b (setPowerDown enable) fun r i ↦
      if r = control ∧ i = 11 then enable
      else if r = phyControl ∧ i = 3 then false
      else if r = control ∧ i = 15 then
        bank.bit control 15 || bank.bit phyControl 3 && bank.bit control 11 == enable
      else bank.bit r i) ∧
    ∀ mode, Leaves b (setMode mode) fun r i ↦
      if r = modeRegister ∧ mode = .sgmii then wordBit sgmiiMode i
      else if r = control ∧ i = 15 then bank.bit control 15 || !bank.bit control 11
      else bank.bit r i := by
  refine ⟨fun enable ↦ ?_, fun speed hspeed ↦ ?_, fun speed hspeed ↦ ?_, fun enable ↦ ?_,
    fun mode ↦ ?_⟩
  · refine (setAutoneg_leads bank enable).leaves h fun r i ↦ ?_
    simp only [bit_applied, bit_withAutoneg]
    by_cases hr : r = control
    · by_cases hi : i = 12 <;> simp [hr, hi]
    · simp [hr]
  · obtain ⟨base, gigabit, hadvertised⟩ := advertisement?_of_mem hspeed
    exact ⟨base, gigabit, hadvertised,
      (setSpeed_leads bank hadvertised).leaves h (bit_withAdvertisement bank hadvertised)⟩
  · have hrun := run_setSpeed_of_none (advertisement?_of_not_mem hspeed)
    exact ⟨⟨congrArg (·.value Bench.answer b) hrun, congrArg (·.final Bench.answer b) hrun⟩,
      congrArg (·.trace Bench.answer b) hrun⟩
  · exact (setPowerDown_leads bank enable).leaves h (bit_withPower bank enable)
  · refine (setMode_leads bank mode).leaves h fun r i ↦ ?_
    have hne : control ≠ modeRegister := by decide
    simp only [bit_applied, bit_withMode]
    by_cases hr : r = control
    · simp [hr, hne]
    · simp [hr]

/-- A PHY that is powered down on both sides.  No reset is asked for when autonegotiation is
switched off, and that for the host side is lost when the copper side is powered up. -/
theorem updates_change_own_bits_powered_down :
    let bank : RegisterBank := (RegisterBank.blank.set control 0x1800).set phyControl 0x0008
    let b : Bench := ⟨Segment.blank.setDevice device (some (.registers bank)), fun _ ↦ .ofLevel 0⟩
    let leaves (p : Procedure Unit) (word phy : UInt16) : Prop :=
      ∃ bank' : RegisterBank, p.RunsTo Bench.answer b (.ok ()) (b.withBank device bank') ∧
        bank'.word control = word ∧ bank'.word phyControl = phy
    leaves (setAutoneg false) 0x0800 0x0008 ∧ leaves (setPowerDown false) 0x1000 0 ∧
      leaves (setPowerDown true) 0x9800 0 := by
  intro bank b leaves
  have h : Answers b bank := ⟨rfl, rfl⟩
  obtain ⟨hautoneg, -, -, hpower, -⟩ := updates_change_own_bits h
  have hwords {p : Procedure Unit} {bits : UInt8 → Fin 16 → Bool} {word phy : UInt16}
      (hp : Leaves b p bits) (hword : ∀ i, bits control i = wordBit word i)
      (hphy : ∀ i, bits phyControl i = wordBit phy i) : leaves p word phy := by
    obtain ⟨bank', hrun, rfl⟩ := hp
    exact ⟨bank', hrun, eq_of_wordBit hword, eq_of_wordBit hphy⟩
  refine ⟨hwords (hautoneg false) ?_ ?_, hwords (hpower false) ?_ ?_,
    hwords (hpower true) ?_ ?_⟩ <;> decide

end CopperPhy

end Transceiver
