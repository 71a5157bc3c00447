import Transceiver.Decimal.Places

/-!
# The shortest decimal text

The fewest digits that name the same double and no other, written out in full without an exponent.
For each number of digits the two neighbours of the value on that decimal grid are tried; of two
that name the double the nearer is taken, and in a tie the upper.
-/

namespace Transceiver.Decimal

/-- The reals that round to `m · 2 ^ e`, in units of `2 ^ (e - 2)`.  The ends belong to an even `m`;
the lower one is nearer where the spacing of doubles halves. -/
structure Interval where
  lower : Nat
  value : Nat
  upper : Nat
  closed : Bool
deriving DecidableEq, Repr

def Interval.around (m : Nat) (e : Int) : Interval where
  lower := if m = leadingBit ∧ -1074 < e then 4 * m - 1 else 4 * m - 2
  value := 4 * m
  upper := 4 * m + 2
  closed := m % 2 == 0

/-- Whether `a / b` lies in the interval, whose unit is `unit`. -/
def Interval.holds (i : Interval) (unit a : Ratio) : Bool :=
  let side (n : Nat) := n * unit.num * a.den
  let x := a.num * unit.den
  if i.closed then side i.lower ≤ x && x ≤ side i.upper
  else side i.lower < x && x < side i.upper

/-- The digits and the power of ten of the best candidate with `k` as its last place. -/
def candidateAt? (i : Interval) (unit : Ratio) (k : Int) : Option Nat :=
  let v : Ratio := ⟨i.value * unit.num, unit.den⟩
  let s := v.scale10 (-k)
  let below := s.num / s.den
  let at' (n : Nat) : Ratio := (Ratio.mk n 1).scale10 k
  match i.holds unit (at' below), i.holds unit (at' (below + 1)) with
  | true, true => if 2 * (s.num % s.den) < s.den then some below else some (below + 1)
  | true, false => some below
  | false, true => some (below + 1)
  | false, false => none

/-- The first grid that names the double, from the place `k` downwards. -/
def search (i : Interval) (unit : Ratio) : Nat → Int → Nat × Int
  | 0, k => (i.value * unit.num / unit.den, k)
  | fuel + 1, k =>
    match candidateAt? i unit k with
    | some n => (n, k)
    | none => search i unit fuel (k - 1)

/-- The shortest digits of `m · 2 ^ e`, with the power of ten of the last.  The first grid is that of
the power of ten above the value, which may name it; seventeen digits always do. -/
def shortestDigits (m : Nat) (e : Int) : Nat × Int :=
  let unit := Ratio.ofBinary 1 (e - 2)
  search (.around m e) unit 18 ((Ratio.ofBinary m e).magnitude + 1)

/-- The number `n · 10 ^ k` in positional form. -/
def positional (n : Nat) (k : Int) : String :=
  if 0 ≤ k then toString (n * Nat.pow 10 k.toNat) else withPoint (-k).toNat n

/-- The shortest text that reads back as the same double. -/
def shortest (x : Float) : String :=
  (Value.ofFloat x).text fun m e ↦
    if m = 0 then "0" else let (n, k) := shortestDigits m e; positional n k

end Transceiver.Decimal
