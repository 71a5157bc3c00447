/-! # Hexadecimal text -/

namespace Transceiver.Text

/-- The digits of `n` in `base`, with leading zeros up to `width` places. -/
def digits (base width n : Nat) : String :=
  let ds := Nat.toDigits base n
  String.ofList (List.replicate (width - ds.length) '0' ++ ds)

/-- A marked hexadecimal number of at least `width` digits, such as `0x7f`. -/
def hex (width n : Nat) : String := "0x" ++ digits 16 width n

/-- The two digits of a byte, unmarked. -/
def hexByte (b : UInt8) : String := digits 16 2 b.toNat

end Transceiver.Text
