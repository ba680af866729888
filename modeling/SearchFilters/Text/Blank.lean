import SearchFilters.Text.Ranges

/-!
# Text — Blank

Blank characters, trimming, and the narrower class of layout characters that only separate the
words of a query.
-/

namespace SearchFilters.Text

/-- The 29 blank characters: white space of every script and the four separator controls. -/
def blankRanges : Ranges :=
  [(0x09, 0x0D), (0x1C, 0x20), (0x85, 0x85), (0xA0, 0xA0), (0x1680, 0x1680), (0x2000, 0x200A),
   (0x2028, 0x2029), (0x202F, 0x202F), (0x205F, 0x205F), (0x3000, 0x3000)]

/-- Whether a character is blank. -/
def isBlank (c : Char) : Bool := blankRanges.has c.toNat

/-- Layout separates words and is otherwise skipped: space, tab, form feed and the line ends. -/
def isLayout (c : Char) : Bool :=
  c == ' ' || c == '\t' || c == '\x0c' || c == '\r' || c == '\n'

/-- Without the blanks at its end. -/
def dropBlanksRight (s : List Char) : List Char :=
  (s.reverse.dropWhile isBlank).reverse

/-- Without the blanks at either end. -/
def trim (s : List Char) : List Char :=
  dropBlanksRight (s.dropWhile isBlank)

/-- Layout is blank; most blanks are no layout. -/
theorem isBlank_of_isLayout {c : Char} (h : isLayout c = true) : isBlank c = true := by
  simp only [isLayout, Bool.or_eq_true, beq_iff_eq] at h
  rcases h with (((h | h) | h) | h) | h <;> subst h <;> decide

end SearchFilters.Text
