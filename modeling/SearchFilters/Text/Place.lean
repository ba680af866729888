/-!
# Text — Place

Lines and columns, both counted from one.  Only a line feed starts a line, and a column counts
characters.
-/

namespace SearchFilters.Text

/-- A place in a text. -/
structure Place where
  line : Nat
  column : Nat
  deriving Repr, DecidableEq

namespace Place

/-- Where a text begins. -/
def first : Place := ⟨1, 1⟩

/-- The place after a character. -/
def past (p : Place) (c : Char) : Place :=
  if c == '\n' then ⟨p.line + 1, 1⟩ else ⟨p.line, p.column + 1⟩

/-- Where the given end part of a text begins. -/
def ofRest (text rest : List Char) : Place :=
  (text.take (text.length - rest.length)).foldl past first

end Place
end SearchFilters.Text
