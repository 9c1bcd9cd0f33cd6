/-!
# Ranges of code points

A property of characters, such as being a letter or being printable, is kept as an increasing list
of ranges of code points.  A character has the property when some range holds its code point.
-/

namespace TruthTables.Text

/-- The code points from `first` to `last`, both ends included. -/
structure CodeRange where
  first : Nat
  last : Nat
deriving DecidableEq, Repr

namespace CodeRange

def holds (r : CodeRange) (c : Char) : Bool :=
  decide (r.first ≤ c.toNat) && decide (c.toNat ≤ r.last)

/-- Whether one of several ranges holds the code point of a character. -/
def anyHolds (rs : List CodeRange) (c : Char) : Bool :=
  rs.any (·.holds c)

theorem anyHolds_iff {rs : List CodeRange} {c : Char} :
    anyHolds rs c = true ↔ ∃ r ∈ rs, r.first ≤ c.toNat ∧ c.toNat ≤ r.last := by
  simp [anyHolds, holds]

end CodeRange

end TruthTables.Text
