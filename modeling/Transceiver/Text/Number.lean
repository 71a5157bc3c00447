import Transceiver.Text.Blank

/-!
# Unsigned numbers in text

Digits are read from the most significant on, and the first character that is no digit, or at
which the value passes the limit, decides the fault.  One plus sign may stand before them.
-/

namespace Transceiver.Text

/-- Why a text is no unsigned number. -/
inductive NumberFault where
  | empty
  | notDigit
  | tooLarge
deriving DecidableEq, Repr

/-- The wording of a fault. -/
def NumberFault.wording : NumberFault → String
  | .empty => "cannot parse integer from empty string"
  | .notDigit => "invalid digit found in string"
  | .tooLarge => "number too large to fit in target type"

/-- The value of a digit in a base of at most sixteen, in either case. -/
def digitValue? (base : Nat) (c : Char) : Option Nat :=
  let v? :=
    if '0' ≤ c ∧ c ≤ '9' then some (c.toNat - '0'.toNat)
    else if 'a' ≤ c ∧ c ≤ 'f' then some (c.toNat - 'a'.toNat + 10)
    else if 'A' ≤ c ∧ c ≤ 'F' then some (c.toNat - 'A'.toNat + 10)
    else none
  v?.filter (· < base)

/-- Continue the number `acc` with the digits `cs`, up to the value `limit`. -/
def readDigits (base limit : Nat) (acc : Nat) : List Char → Except NumberFault Nat
  | [] => .ok acc
  | c :: cs =>
    match digitValue? base c with
    | none => .error .notDigit
    | some d =>
      if acc * base + d ≤ limit then readDigits base limit (acc * base + d) cs
      else .error .tooLarge

/-- Read an unsigned number of at most `limit`. -/
def readUnsigned (base limit : Nat) : List Char → Except NumberFault Nat
  | [] => .error .empty
  | ['+'] => .error .notDigit
  | '+' :: cs => readDigits base limit 0 cs
  | cs => readDigits base limit 0 cs

end Transceiver.Text
