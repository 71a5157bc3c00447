/-!
# Exact values of floating point numbers

A double is `± m · 2 ^ e` for natural `m` and integral `e`.  Texts of numbers are computed from
that exact value, in natural numbers only.
-/

namespace Transceiver.Decimal

/-- What the bits of a double stand for. -/
inductive Value where
  | nan
  | infinite (negative : Bool)
  | finite (negative : Bool) (mantissa : Nat) (exponent : Int)
deriving DecidableEq, Repr

/-- The least mantissa of a normal double, 52 bits above the point. -/
def leadingBit : Nat := 0x10000000000000

/-- The value of the 64 bits of a double: sign, eleven bits of exponent, 52 bits of fraction. -/
def Value.ofBits (bits : Nat) : Value :=
  let negative := (bits >>> 63) % 2 == 1
  let biased : Nat := (bits >>> 52) % 2048
  let frac : Nat := bits % leadingBit
  if biased = 2047 then if frac = 0 then .infinite negative else .nan
  else if biased = 0 then .finite negative frac (-1074)
  else .finite negative (leadingBit + frac) ((biased : Int) - 1075)

def Value.ofFloat (x : Float) : Value := .ofBits x.toBits.toNat

/-- A non-negative rational number. -/
structure Ratio where
  num : Nat
  den : Nat
deriving DecidableEq, Repr

namespace Ratio

/-- The value `m · 2 ^ e`. -/
def ofBinary (m : Nat) (e : Int) : Ratio :=
  if 0 ≤ e then ⟨m <<< e.toNat, 1⟩ else ⟨m, 1 <<< (-e).toNat⟩

/-- The value times `10 ^ k`. -/
def scale10 (r : Ratio) (k : Int) : Ratio :=
  if 0 ≤ k then ⟨r.num * Nat.pow 10 k.toNat, r.den⟩ else ⟨r.num, r.den * Nat.pow 10 (-k).toNat⟩

/-- The nearest natural number, and of two the even one. -/
def roundEven (r : Ratio) : Nat :=
  let q := r.num / r.den
  let twice := 2 * (r.num % r.den)
  if r.den < twice ∨ r.den = twice ∧ q % 2 = 1 then q + 1 else q

/-- The largest `k` with `10 ^ k` at most the value, which is not zero. -/
def magnitude (r : Ratio) : Int :=
  let k : Int := (Nat.toDigits 10 r.num).length - (Nat.toDigits 10 r.den).length
  let s := r.scale10 (-k)
  if s.den ≤ s.num then k else k - 1

/-- Rounding is to within half a unit. -/
theorem roundEven_close (r : Ratio) (h : 0 < r.den) :
    2 * (r.roundEven * r.den) ≤ 2 * r.num + r.den ∧
      2 * r.num ≤ 2 * (r.roundEven * r.den) + r.den := by
  have hd := Nat.div_add_mod r.num r.den
  have hm := Nat.mod_lt r.num h
  rw [Nat.mul_comm] at hd
  unfold roundEven
  dsimp only
  split
  · rename_i hc
    rw [Nat.add_mul]
    omega
  · rename_i hc
    simp only [not_or, Nat.not_lt] at hc
    omega

end Ratio

end Transceiver.Decimal
