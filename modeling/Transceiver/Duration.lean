import Transceiver.Text.Hex

/-! # Spans of time -/

namespace Transceiver

/-- A span of time, in nanoseconds. -/
structure Duration where
  nanos : Nat
deriving DecidableEq, Repr, Inhabited

namespace Duration

def zero : Duration := ⟨0⟩

def ofMicros (n : Nat) : Duration := ⟨n * 1000⟩

def ofMillis (n : Nat) : Duration := ⟨n * 1000000⟩

def isZero (d : Duration) : Bool := d.nanos == 0

/-- Whole microseconds. -/
def micros (d : Duration) : Nat := d.nanos / 1000

/-- Whole milliseconds. -/
def millis (d : Duration) : Nat := d.nanos / 1000000

@[simp] theorem millis_ofMillis (n : Nat) : (ofMillis n).millis = n :=
  Nat.mul_div_cancel n (by decide)

/-- A fraction of `places` decimal places without its trailing zeros, and nothing for zero. -/
def fraction (places n : Nat) : String :=
  if n = 0 then ""
  else
    let ds := (Text.digits 10 places n).toList
    "." ++ String.ofList (ds.reverse.dropWhile (· == '0')).reverse

/-- The span in units of `10 ^ places` nanoseconds. -/
def inUnit (d : Duration) (places : Nat) (unit : String) : String :=
  let size := Nat.pow 10 places
  toString (d.nanos / size) ++ fraction places (d.nanos % size) ++ unit

/-- The span in the largest unit of which it holds at least one, as `1.5s` or `999µs`. -/
def text (d : Duration) : String :=
  if 1000000000 ≤ d.nanos then d.inUnit 9 "s"
  else if 1000000 ≤ d.nanos then d.inUnit 6 "ms"
  else if 1000 ≤ d.nanos then d.inUnit 3 "µs"
  else d.inUnit 0 "ns"

end Duration

end Transceiver
