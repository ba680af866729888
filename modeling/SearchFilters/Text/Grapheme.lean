import SearchFilters.Text.Split
import SearchFilters.Text.Width

/-!
# Text — Grapheme

The characters of a text that are drawn as one, and where a text can be cut: between them.  A text
that is cropped may end in the middle of a wide one, in whose place it has a blank; a text that is
chopped into rows keeps every grapheme whole, also one that fits into no row.
-/

namespace SearchFilters.Text

/-- Characters that are drawn as one, and the columns they take. -/
structure Grapheme where
  chars : List Char
  columns : Nat

namespace Grapheme

def ofChar (c : Char) : Grapheme := ⟨[c], charWidth c⟩

/-- A grapheme with more characters, and the columns that these add. -/
def add (g : Grapheme) (s : List Char) (columns : Nat) : Grapheme :=
  ⟨g.chars ++ s, g.columns + columns⟩

/-- The graphemes of a text that goes on after the characters of one.  What takes no column joins
it, and so does what a joiner joins. -/
def after (g : Grapheme) (widens : Bool) : List Char → List Grapheme
  | [] => [g]
  | c :: s =>
    if c == joiner then
      match s with
      | [] => [g.add [c] 0]
      | d :: s => after (g.add [c, d] 0) widens s
    else if c == selector then after (g.add [c] widens.toNat) false s
    else if charWidth c = 0 then after (g.add [c] 0) widens s
    else g :: after (ofChar c) (isPictorial c) s

/-- The graphemes of a text. -/
def ofText : List Char → List Grapheme
  | [] => []
  | c :: s => after (ofChar c) (isPictorial c) s

end Grapheme

/-- The graphemes that fit into so many columns.  Where only half of one would fit, a blank is. -/
def cropGraphemes : Nat → List Grapheme → List Char
  | 0, _ => []
  | _, [] => []
  | n + 1, g :: gs =>
    if g.columns ≤ n + 1 then g.chars ++ cropGraphemes (n + 1 - g.columns) gs
    else List.replicate (n + 1) ' '

/-- The start of a text, in at most so many columns. -/
def crop (n : Nat) (s : List Char) : List Char := cropGraphemes n (Grapheme.ofText s)

/-! ### Rows -/

/-- Graphemes in rows of at most so many columns, the first of which has some in use. -/
def chopGraphemes (n : Nat) : Nat → List Grapheme → List (List Char)
  | _, [] => [[]]
  | used, g :: gs =>
    if used + g.columns ≤ n then prepend g.chars (chopGraphemes n (used + g.columns) gs)
    else [] :: prepend g.chars (chopGraphemes n g.columns gs)

/-- A text in rows of at most so many columns. -/
def chop (n : Nat) (s : List Char) : List (List Char) := chopGraphemes n 0 (Grapheme.ofText s)

end SearchFilters.Text
