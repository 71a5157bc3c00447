import Transceiver.Decimal.Exact
import Transceiver.Text.Hex

/-!
# Decimal text to a given number of digits

`fixed` rounds to places after the point and `scientific` to significant digits.  The exact value
is rounded, a tie to the even digit, and a negative number keeps its sign when it rounds to zero.
-/

namespace Transceiver.Decimal

/-- The text of a value whose magnitude is written by `write`. -/
def Value.text (write : Nat → Int → String) : Value → String
  | .nan => "NaN"
  | .infinite negative => if negative then "-inf" else "inf"
  | .finite negative m e => (if negative then "-" else "") ++ write m e

/-- A natural number of `10 ^ -places` with a point before its last `places` digits. -/
def withPoint (places n : Nat) : String :=
  if places = 0 then toString n
  else
    let unit := Nat.pow 10 places
    toString (n / unit) ++ "." ++ Text.digits 10 places (n % unit)

/-- The number with `places` digits after the point. -/
def fixed (places : Nat) (x : Float) : String :=
  (Value.ofFloat x).text fun m e ↦
    withPoint places ((Ratio.ofBinary m e).scale10 places).roundEven

/-- The number with `places + 1` significant digits and an exponent, as `-3.98e0`. -/
def scientific (places : Nat) (x : Float) : String :=
  (Value.ofFloat x).text fun m e ↦
    if m = 0 then withPoint places 0 ++ "e0"
    else
      let r := Ratio.ofBinary m e
      let k := r.magnitude
      let n := (r.scale10 (places - k)).roundEven
      -- A run of nines rounds up to the next power of ten.
      if n = Nat.pow 10 (places + 1) then withPoint places (Nat.pow 10 places) ++ "e" ++ toString (k + 1)
      else withPoint places n ++ "e" ++ toString k

end Transceiver.Decimal
