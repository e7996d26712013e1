/-!
# Ranges of code points

Character classes of the Unicode Standard are unions of ranges of code points. A class is kept as a
list of such ranges, and a character belongs to it if one of the ranges contains it.
-/

namespace PatternTemplate

namespace Text

/-- The code points from the first number to the second, both included. -/
abbrev CodeRange := Nat × Nat

namespace CodeRange

def contains (range : CodeRange) (c : Char) : Bool :=
  range.1 ≤ c.toNat && c.toNat ≤ range.2

theorem contains_iff {range : CodeRange} {c : Char} :
    range.contains c = true ↔ range.1 ≤ c.toNat ∧ c.toNat ≤ range.2 := by
  simp [contains]

end CodeRange

end Text

end PatternTemplate
