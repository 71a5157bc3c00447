/-!
# Numbers that readings are computed in

Readings are decoded over any numbers with the four operations, an order and a rounding to a
bounded natural number.  Doubles are what a running host uses; rational numbers compute the same
formulas exactly.
-/

namespace Transceiver

/-- Arithmetic, order and rounding, as far as the decoding of readings needs them. -/
class Scalar (K : Type) extends Add K, Sub K, Mul K, Div K, LT K, LE K where
  ofInt : Int → K
  decLT : DecidableLT K
  decLE : DecidableLE K
  /-- The nearest natural number, a half rounded up, no less than zero and at most a bound. -/
  roundTo : Nat → K → Nat

attribute [reducible, instance] Scalar.decLT Scalar.decLE

instance : Scalar Float where
  ofInt n := .ofInt n
  decLT := inferInstance
  decLE := inferInstance
  roundTo bound x := min bound x.round.toUInt64.toNat

instance : Scalar Rat where
  ofInt n := n
  decLT := inferInstance
  decLE := inferInstance
  roundTo bound x := min bound (x + 1 / 2).floor.toNat

end Transceiver
