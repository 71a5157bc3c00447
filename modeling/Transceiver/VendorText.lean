import Transceiver.Text.Hex
import Transceiver.MemoryMap.Field

/-!
# Text of vendor fields

Printable fields hold text padded on the right with spaces or NULs.  What does not print becomes a
question mark; the padding is cut off, and a NUL that is left ends the text.
-/

namespace Transceiver.VendorText

/-- What stands for a byte that does not print. -/
def garbage : UInt8 := 0x3f

/-- Whether a byte is a printing character or a space. -/
def isPrintable (b : UInt8) : Bool := 0x20 ≤ b && b ≤ 0x7e

/-- Whether a byte pads a field. -/
def isPadding (b : UInt8) : Bool := b == 0 || b == 0x20

/-- The byte itself if it prints or is a NUL. -/
def clean (b : UInt8) : UInt8 := if isPrintable b || b == 0 then b else garbage

/-- The bytes of the text of a printable field. -/
def textBytes (raw : List UInt8) : List UInt8 :=
  (((raw.map clean).reverse.dropWhile isPadding).reverse).takeWhile (· != 0)

/-- Bytes in hexadecimal with hyphens between them. -/
def hyphenated (raw : List UInt8) : String := "-".intercalate (raw.map Text.hexByte)

/-- The text of a field. -/
def decode (raw : List UInt8) (f : Field) : String :=
  if f.printable then String.ofList ((textBytes raw).map fun b ↦ Char.ofNat b.toNat)
  else hyphenated raw

end Transceiver.VendorText
