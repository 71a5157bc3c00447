/-!
# Ranges of code points

A property of characters is written as the list of the closed ranges of code points that have it.
-/

namespace Transceiver.Text

/-- Closed ranges of code points. -/
abbrev Ranges := List (Nat × Nat)

/-- Whether a code point lies in one of the ranges. -/
def Ranges.has (rs : Ranges) (n : Nat) : Bool := rs.any fun (lo, hi) ↦ lo ≤ n && n ≤ hi

theorem Ranges.has_iff {rs : Ranges} {n : Nat} :
    rs.has n = true ↔ ∃ r ∈ rs, r.1 ≤ n ∧ n ≤ r.2 := by
  simp [Ranges.has]

end Transceiver.Text
