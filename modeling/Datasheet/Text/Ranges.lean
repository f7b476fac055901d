/-! # Ranges of code points

A character property is given as the ascending list of its ranges. `Ranges.holds` reads such a list.
-/

namespace Datasheet.Text

/-- Ascending, disjoint ranges of code points, both ends included. -/
abbrev Ranges := List (Nat × Nat)

namespace Ranges

/-- The character lies in one of the ranges. The scan stops at the first range that starts above it. -/
def holds : Ranges → Char → Bool
  | [], _ => false
  | (first, last) :: rest, c =>
      if c.toNat < first then false
      else if c.toNat ≤ last then true
      else holds rest c

end Ranges

end Datasheet.Text
