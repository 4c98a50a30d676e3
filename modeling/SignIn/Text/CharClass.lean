-- Character classes given as ranges of code points.

namespace SignIn.Text

/-- A range of code points, both ends included. -/
structure CodeRange where
  first : Nat
  last : Nat
  deriving Repr, DecidableEq

/-- Whether the code point lies in the range. -/
def CodeRange.contains (r : CodeRange) (n : Nat) : Bool :=
  r.first ≤ n && n ≤ r.last

/-- A character class, as the ranges of its code points. -/
abbrev CharClass := List CodeRange

/-- Whether the character belongs to the class. -/
def CharClass.contains (ranges : CharClass) (c : Char) : Bool :=
  ranges.any (·.contains c.toNat)

theorem CharClass.contains_iff (ranges : CharClass) (c : Char) :
    ranges.contains c = true ↔ ∃ r ∈ ranges, r.first ≤ c.toNat ∧ c.toNat ≤ r.last := by
  simp [CharClass.contains, CodeRange.contains]

end SignIn.Text
