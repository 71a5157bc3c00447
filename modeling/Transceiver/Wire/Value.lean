import Transceiver.Media

/-!
# Plain data

Trees of plain data, in which values travel between programs, and how values of a type are encoded
as such trees and decoded from them.

A member of an enumeration travels as its name; a variant with a payload is an object whose only
key is the name of the variant.
-/

namespace Transceiver.Wire

/-- A tree of plain data. -/
inductive Value where
  | null
  | bool (b : Bool)
  | int (n : Int)
  /-- A number that is not written as a whole one. -/
  | float (x : Float)
  | text (s : String)
  | list (items : List Value)
  | object (members : List (String × Value))
deriving Repr, Inhabited

/-- Types whose values have a plain form. -/
class Encode (α : Type) where
  encode : α → Value

/-- Types whose values are read from a plain form. -/
class Decode (α : Type) where
  decode? : Value → Option α

export Encode (encode)
export Decode (decode?)

namespace Value

/-- The value of a key.  One that is missing is the same as null. -/
def field (v : Value) (key : String) : Value :=
  match v with
  | .object members => (members.lookup key).getD .null
  | _ => .null

/-- The fields of a structure, by their names or else in order. -/
def fields? (v : Value) (names : List String) : Option (List Value) :=
  match v with
  | .object _ => some (names.map v.field)
  | .list items => if items.length = names.length then some items else none
  | _ => none

/-- A variant by its name, with its payload. -/
def variant? : Value → Option (String × Value)
  | .text name => some (name, .null)
  | .object [(name, payload)] => some (name, payload)
  | _ => none

/-- A variant with a payload. -/
def tagged (name : String) (payload : Value) : Value := .object [(name, payload)]

/-- A whole number from zero to `limit`. -/
def natUpTo? (limit : Nat) : Value → Option Nat
  | .int n => if 0 ≤ n ∧ n ≤ limit then some n.toNat else none
  | _ => none

end Value

/-! ## Basic types -/

instance : Encode Value := ⟨id⟩

instance : Decode Value := ⟨some⟩

instance : Encode Unit := ⟨fun _ ↦ .null⟩

instance : Encode Bool := ⟨.bool⟩

instance : Decode Bool := ⟨fun | .bool b => some b | _ => none⟩

instance : Encode String := ⟨.text⟩

instance : Decode String := ⟨fun | .text s => some s | _ => none⟩

instance : Encode Int := ⟨.int⟩

/-- Whole numbers of 32 bits. -/
instance : Decode Int :=
  ⟨fun | .int n => if -0x80000000 ≤ n ∧ n < 0x80000000 then some n else none | _ => none⟩

instance : Encode Nat := ⟨fun n ↦ .int n⟩

/-- Natural numbers of 64 bits. -/
instance : Decode Nat := ⟨Value.natUpTo? 0xffffffffffffffff⟩

instance : Encode UInt8 := ⟨fun n ↦ .int n.toNat⟩

instance : Decode UInt8 := ⟨fun v ↦ (v.natUpTo? 0xff).map .ofNat⟩

instance : Encode UInt16 := ⟨fun n ↦ .int n.toNat⟩

instance : Decode UInt16 := ⟨fun v ↦ (v.natUpTo? 0xffff).map .ofNat⟩

instance : Encode UInt32 := ⟨fun n ↦ .int n.toNat⟩

instance : Decode UInt32 := ⟨fun v ↦ (v.natUpTo? 0xffffffff).map .ofNat⟩

instance : Encode Float := ⟨.float⟩

/-- A number, or the name of one that has no digits. -/
instance : Decode Float where
  decode?
    | .int n => some (.ofInt n)
    | .float x => some x
    | .text "NaN" => some (0 / 0)
    | .text "inf" => some (1 / 0)
    | .text "-inf" => some (-1 / 0)
    | _ => none

section

variable {α β : Type}

instance [Encode α] : Encode (Option α) := ⟨fun a? ↦ (a?.map encode).getD .null⟩

instance [Decode α] : Decode (Option α) :=
  ⟨fun | .null => some none | v => (decode? v).map some⟩

instance [Encode α] : Encode (List α) := ⟨fun as ↦ .list (as.map encode)⟩

instance [Decode α] : Decode (List α) :=
  ⟨fun | .list items => items.mapM decode? | _ => none⟩

instance {n : Nat} [Encode α] : Encode (Vector α n) := ⟨fun as ↦ encode as.toList⟩

instance [Encode α] [Encode β] : Encode (α × β) := ⟨fun (a, b) ↦ .list [encode a, encode b]⟩

instance [Decode α] [Decode β] : Decode (α × β) where
  decode?
    | .list [a, b] => do return (← decode? a, ← decode? b)
    | _ => none

instance [Enumeration α] : Encode α := ⟨fun a ↦ .text (Enumeration.name a)⟩

instance [Enumeration α] : Decode α where
  decode? v := do
    match ← v.variant? with
    | (name, .null) => Enumeration.ofName? name
    | _ => none

end

end Transceiver.Wire
