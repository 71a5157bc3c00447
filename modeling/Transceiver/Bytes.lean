/-!
# Bytes and words

Words are assembled with the most significant byte first unless a name says otherwise.  A bit of a
byte is named by one of eight positions, so taking or setting it cannot fail.
-/

namespace Transceiver

/-- A position in a byte, counted from the least significant bit. -/
inductive Bit where
  | b0 | b1 | b2 | b3 | b4 | b5 | b6 | b7
deriving DecidableEq, Repr

namespace Bit

def index (i : Bit) : UInt8 := .ofNat i.ctorIdx

/-- The position of a number, if a byte has it. -/
def ofIndex? (n : UInt8) : Option Bit :=
  match n with
  | 0 => some .b0
  | 1 => some .b1
  | 2 => some .b2
  | 3 => some .b3
  | 4 => some .b4
  | 5 => some .b5
  | 6 => some .b6
  | 7 => some .b7
  | _ => none

@[simp] theorem ofIndex?_index (i : Bit) : ofIndex? i.index = some i := by
  cases i <;> rfl

theorem ctorIdx_lt (i : Bit) : i.ctorIdx < 8 := by
  cases i <;> decide

theorem ctorIdx_inj {i j : Bit} : i.ctorIdx = j.ctorIdx ↔ i = j := by
  cases i <;> cases j <;> decide

end Bit

/-- The byte with a single bit set. -/
def bitMask (i : Bit) : UInt8 := 1 <<< i.index

def hasBit (b : UInt8) (i : Bit) : Bool := b &&& bitMask i != 0

/-- The byte with one bit set or cleared. -/
def withBit (b : UInt8) (i : Bit) (on : Bool) : UInt8 :=
  if on then b ||| bitMask i else b &&& ~~~ bitMask i

/-- A bit of a byte is a digit of its binary form. -/
theorem hasBit_eq_getLsbD (b : UInt8) (i : Bit) :
    hasBit b i = b.toBitVec.getLsbD i.ctorIdx := by
  obtain ⟨v⟩ := b
  revert v
  cases i <;> decide +kernel

/-- Bytes with the same bits are the same. -/
theorem eq_of_hasBit {a b : UInt8} (h : ∀ i, hasBit a i = hasBit b i) : a = b := by
  apply UInt8.eq_of_toBitVec_eq
  refine BitVec.eq_of_getLsbD_eq fun n hn ↦ ?_
  obtain ⟨i, rfl⟩ : ∃ i : Bit, i.ctorIdx = n :=
    match n, hn with
    | 0, _ => ⟨.b0, rfl⟩
    | 1, _ => ⟨.b1, rfl⟩
    | 2, _ => ⟨.b2, rfl⟩
    | 3, _ => ⟨.b3, rfl⟩
    | 4, _ => ⟨.b4, rfl⟩
    | 5, _ => ⟨.b5, rfl⟩
    | 6, _ => ⟨.b6, rfl⟩
    | 7, _ => ⟨.b7, rfl⟩
  rw [← hasBit_eq_getLsbD, ← hasBit_eq_getLsbD]
  exact h i

theorem toBitVec_bitMask (i : Bit) : (bitMask i).toBitVec = BitVec.twoPow 8 i.ctorIdx := by
  cases i <;> rfl

/-- Setting a bit sets that one and no other. -/
@[simp] theorem hasBit_withBit (b : UInt8) (i j : Bit) (on : Bool) :
    hasBit (withBit b i on) j = if i = j then on else hasBit b j := by
  have hj := j.ctorIdx_lt
  simp only [hasBit_eq_getLsbD, ← Bit.ctorIdx_inj (i := i)]
  cases on <;> simp [withBit, toBitVec_bitMask] <;> grind

/-- A word from its high and its low byte. -/
def word16 (hi lo : UInt8) : UInt16 := hi.toUInt16 <<< 8 ||| lo.toUInt16

def highByte (w : UInt16) : UInt8 := (w >>> 8).toUInt8

def lowByte (w : UInt16) : UInt8 := w.toUInt8

/-- The two bytes of a word, high byte first. -/
def bytes16 (w : UInt16) : List UInt8 := [highByte w, lowByte w]

theorem toNat_word16 (hi lo : UInt8) : (word16 hi lo).toNat = hi.toNat * 256 + lo.toNat := by
  have h := hi.toNat_lt
  have l := lo.toNat_lt
  simp only [word16, UInt16.toNat_or, UInt16.toNat_shiftLeft, UInt8.toNat_toUInt16]
  rw [show UInt16.toNat 8 % 16 = 8 from rfl, Nat.shiftLeft_eq, Nat.mod_eq_of_lt (by omega),
    Nat.mul_comm, ← Nat.two_pow_add_eq_or_of_lt l]

theorem toNat_highByte (w : UInt16) : (highByte w).toNat = w.toNat / 256 := by
  have h := w.toNat_lt
  simp [highByte, Nat.shiftRight_eq_div_pow]
  omega

theorem toNat_lowByte (w : UInt16) : (lowByte w).toNat = w.toNat % 256 := by
  simp [lowByte]

@[simp] theorem word16_bytes (w : UInt16) : word16 (highByte w) (lowByte w) = w := by
  apply UInt16.toNat_inj.1
  rw [toNat_word16, toNat_highByte, toNat_lowByte]
  omega

@[simp] theorem highByte_word16 (hi lo : UInt8) : highByte (word16 hi lo) = hi := by
  apply UInt8.toNat_inj.1
  have h := lo.toNat_lt
  rw [toNat_highByte, toNat_word16]
  omega

@[simp] theorem lowByte_word16 (hi lo : UInt8) : lowByte (word16 hi lo) = lo := by
  apply UInt8.toNat_inj.1
  have h := lo.toNat_lt
  rw [toNat_lowByte, toNat_word16]
  omega

/-- A double word from its bytes, highest first. -/
def word32 (b₃ b₂ b₁ b₀ : UInt8) : UInt32 :=
  (word16 b₃ b₂).toUInt32 <<< 16 ||| (word16 b₁ b₀).toUInt32

/-! ## Words in bytes that were read -/

/-- The byte of a read of one. -/
def byteIn (b : Vector UInt8 1) : UInt8 := b[0]

/-- The word of a read of two bytes, high byte first. -/
def wordIn (b : Vector UInt8 2) : UInt16 := word16 b[0] b[1]

/-- The two words of a read of four bytes, high bytes first. -/
def wordsIn (b : Vector UInt8 4) : UInt16 × UInt16 := (word16 b[0] b[1], word16 b[2] b[3])

/-- The double word of a read of four bytes, highest byte first. -/
def doubleWordIn (b : Vector UInt8 4) : UInt32 := word32 b[0] b[1] b[2] b[3]

/-! ## Numbers in bytes -/

/-- The signed number that a word holds in two's complement. -/
def signed16 (w : UInt16) : Int := w.toInt16.toInt

/-- The number that bytes write in base 256, highest first. -/
def bigEndian (bs : List UInt8) : UInt32 := bs.foldl (fun acc b ↦ acc <<< 8 ||| b.toUInt32) 0

/-- The first `n` bytes, if there are as many. -/
def leading? (n : Nat) (bs : List UInt8) : Option (Vector UInt8 n) :=
  if h : n ≤ bs.length then some ⟨(bs.take n).toArray, by simp [h]⟩ else none

end Transceiver
