import SearchFilters.Number.Reading
import SearchFilters.Text.Blank

/-!
# Number — Literal

The wide notation of numbers that callers type: blanks around the number, underscores between
digits, and words for the infinite values and the value that is no number.
-/

namespace SearchFilters.Binary64
open Text

/-- A text without the underscores between digits; none if an underscore stands elsewhere. -/
def dropUnderscores? : List Char → Option (List Char)
  | [] => some []
  | '_' :: _ => none
  | c :: '_' :: d :: r =>
    if isDigit c && isDigit d then (dropUnderscores? (d :: r)).map (c :: ·) else none
  | [_, '_'] => none
  | c :: r => (dropUnderscores? r).map (c :: ·)

/-- The value of a word. -/
def ofWord? (negative : Bool) (s : List Char) : Option Binary64 :=
  let w := s.map Char.toLower
  if w = "inf".toList ∨ w = "infinity".toList then some (.infinite negative)
  else if w = "nan".toList then some .nan
  else none

/-- The value of a literal. -/
def ofLiteral? (s : List Char) : Option Binary64 := do
  let s ← dropUnderscores? (trim s)
  let (negative, rest) := Numeral.sign s
  (ofWord? negative rest).or (ofSigned? s)

end SearchFilters.Binary64
