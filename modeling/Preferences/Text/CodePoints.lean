/-! Sets of code points, written as lists of closed ranges. -/

namespace Preferences.Text

/-- The code points from the first component to the second, both included. -/
abbrev CodePoints := List (Nat × Nat)

def CodePoints.contains (set : CodePoints) (c : Char) : Bool :=
  set.any fun range => range.1 ≤ c.toNat && c.toNat ≤ range.2

theorem CodePoints.contains_iff {set : CodePoints} {c : Char} :
    set.contains c = true ↔ ∃ range ∈ set, range.1 ≤ c.toNat ∧ c.toNat ≤ range.2 := by
  simp [CodePoints.contains]

end Preferences.Text
