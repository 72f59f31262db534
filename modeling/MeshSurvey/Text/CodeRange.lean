/-!
# Sets of characters as ranges of code points

The Unicode properties that the library consults are finite unions of intervals of code points,
listed in ascending order. A character belongs to such a union when some interval holds its code
point.
-/

namespace MeshSurvey.Text

/-- A union of closed intervals of code points. -/
abbrev CodeRanges := List (Nat × Nat)

/-- Whether the code point of a character lies in one of the intervals. -/
def CodeRanges.has (ranges : CodeRanges) (c : Char) : Bool :=
  ranges.any fun (low, high) ↦ low ≤ c.toNat && c.toNat ≤ high

end MeshSurvey.Text
