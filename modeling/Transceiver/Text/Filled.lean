/-!
# Filled lines

Words are put on a line as long as they fit, with a blank between two.  A word that is longer than
a line stands alone.  No word is lost, and none changes its place.
-/

namespace Transceiver.Text

/-- Go on with a line, of which `used` characters are taken, and then with further ones. -/
def cut (width : Nat) (line : List String) (used : Nat) : List String → List (List String)
  | [] => [line]
  | word :: words =>
    if used + 1 + word.length ≤ width then
      cut width (line ++ [word]) (used + 1 + word.length) words
    else line :: cut width [word] word.length words

theorem flatten_cut (width : Nat) (line : List String) (used : Nat) (words : List String) :
    (cut width line used words).flatten = line ++ words := by
  induction words generalizing line used with
  | nil => simp [cut]
  | cons word words ih => rw [cut]; split <;> simp [ih]

/-- The lines of a text, of at most `width` characters where the words allow it. -/
def fill (width : Nat) (s : String) : List String :=
  match s.splitOn " " with
  | [] => []
  | word :: words => (cut width [word] word.length words).map (" ".intercalate ·)

end Transceiver.Text
