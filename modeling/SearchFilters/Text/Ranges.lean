/-!
# Text — Ranges

Sets of characters given as closed ranges of code points.
-/

namespace SearchFilters.Text

/-- A set of code points as closed ranges, ascending and apart. -/
abbrev Ranges := List (Nat × Nat)

namespace Ranges

/-- Whether a code point lies in one of the ranges. -/
def has (rs : Ranges) (n : Nat) : Bool :=
  rs.any fun r => decide (r.1 ≤ n) && decide (n ≤ r.2)

/-- The start of the range a code point lies in. -/
def start? (rs : Ranges) (n : Nat) : Option Nat :=
  (rs.find? fun r => decide (r.1 ≤ n) && decide (n ≤ r.2)).map Prod.fst

end Ranges
end SearchFilters.Text
