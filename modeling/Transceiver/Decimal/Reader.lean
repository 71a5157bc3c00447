/-!
# Reading decimal numbers

A sign, then digits with at most one point among or beside them and an optional exponent, or the
name of an infinity or of no number.  The nearest double is taken.
-/

namespace Transceiver.Decimal

/-- A run of digits and what follows it. -/
def spanDigits (cs : List Char) : List Char × List Char := cs.span Char.isDigit

/-- The value of a run of digits. -/
def ofDigits (ds : List Char) : Nat :=
  ds.foldl (fun n c ↦ n * 10 + (c.toNat - '0'.toNat)) 0

/-- The exponent at the end of a number, which may be absent. -/
def readExponent? : List Char → Option Int
  | [] => some 0
  | c :: cs =>
    if c = 'e' ∨ c = 'E' then
      let (negative, ds) := match cs with
        | '-' :: ds => (true, ds)
        | '+' :: ds => (false, ds)
        | ds => (false, ds)
      if ds.isEmpty ∨ !ds.all Char.isDigit then none
      else some (if negative then -ofDigits ds else ofDigits ds)
    else none

/-- The double nearest `n · 10 ^ k`. -/
def nearest (n : Nat) (k : Int) : Float :=
  let size : Int := (Nat.toDigits 10 n).length + k
  if n = 0 ∨ size < -400 then 0
  else if 400 < size then 1 / 0
  else .ofScientific n (k < 0) k.natAbs

/-- Read a number without its sign. -/
def readMagnitude? (cs : List Char) : Option Float :=
  let word := String.ofList (cs.map Char.toLower)
  if word = "inf" ∨ word = "infinity" then some (1 / 0)
  else if word = "nan" then some (0 / 0)
  else
    let (whole, rest) := spanDigits cs
    let (part, rest) := match rest with
      | '.' :: rest => spanDigits rest
      | rest => ([], rest)
    if whole.isEmpty ∧ part.isEmpty then none
    else (readExponent? rest).map fun k ↦ nearest (ofDigits (whole ++ part)) (k - part.length)

/-- Read a number. -/
def readFloat? : List Char → Option Float
  | '-' :: cs => (readMagnitude? cs).map fun x ↦ -x
  | '+' :: cs => readMagnitude? cs
  | cs => readMagnitude? cs

end Transceiver.Decimal
