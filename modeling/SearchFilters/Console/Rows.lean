import SearchFilters.Text.Blank
import SearchFilters.Text.Grapheme

/-!
# Console — Rows

Texts in rows of so many columns.  Tabs are filled up with blanks; a row ends where its line does,
or before a word that would not fit.  Blanks go with the word before them, so that a row may end in
more of them than fit; those that stand over are dropped afterwards.
-/

namespace SearchFilters.Console

/-! ### Tabs -/

/-- The distance between tab stops. -/
def tabWidth : Nat := 8

/-- A part before a tab, with a blank or more up to the next stop. -/
def toStop (s : List Char) : List Char :=
  let t := s ++ [' ']
  t ++ List.replicate ((tabWidth - Text.width t % tabWidth) % tabWidth) ' '

/-- A line with blanks in place of its tabs. -/
def expandTabs (line : List Char) : List Char :=
  let parts := Text.splitAll '\t' line
  parts.dropLast.flatMap toStop ++ parts.getLastD []

/-! ### Words -/

/-- The parts that start where blanks end, each with the blanks behind it. -/
def wordParts : List Char → List (List Char)
  | [] => []
  | [c] => [[c]]
  | c :: d :: s =>
    if Text.isBlank c && !Text.isBlank d then [c] :: wordParts (d :: s)
    else Text.prepend [c] (wordParts (d :: s))

/-- The words of a line, with the blanks behind them; the first also has those before it. -/
def words (line : List Char) : List (List Char) :=
  Text.prepend (line.takeWhile Text.isBlank) (wordParts (line.dropWhile Text.isBlank))

/-- The columns of a word without the blanks behind it. -/
def wordWidth (word : List Char) : Nat := Text.width (Text.dropBlanksRight word)

/-! ### Breaking lines -/

/-- Where a text may be broken into rows. -/
inductive Flow where
  /-- between words, and within a word that fits into no row -/
  | folded
  /-- between words -/
  | wrapped
  /-- nowhere but at the ends of lines -/
  | unbroken
  deriving Repr, DecidableEq

/-- Rows of which the last goes on with the first of others. -/
def joinRows : List (List Char) → List (List Char) → List (List Char)
  | [], others => others
  | [row], others => Text.prepend row others
  | row :: rows, others => row :: joinRows rows others

/-- A word from the start of a row on. -/
def wordRows (n : Nat) (flow : Flow) (word : List Char) : List (List Char) :=
  if flow = .folded ∧ n < wordWidth word then Text.chop n word else [word]

/-- Words in rows, the first of which has some columns in use. -/
def wrapWords (n : Nat) (flow : Flow) : Nat → List (List Char) → List (List Char)
  | _, [] => [[]]
  | used, word :: words =>
    if used + wordWidth word ≤ n then
      Text.prepend word (wrapWords n flow (used + Text.width word) words)
    else
      let rows := wordRows n flow word
      [] :: joinRows rows (wrapWords n flow (Text.width (rows.getLastD [])) words)

/-- A line in rows. -/
def wrap (n : Nat) (flow : Flow) (line : List Char) : List (List Char) :=
  match words line with
  | [] => [line]
  | word :: words =>
    let rows := wordRows n flow word
    joinRows rows (wrapWords n flow (Text.width (rows.getLastD [])) words)

/-! ### Rows -/

/-- A row without the blanks at its end that make it longer than so many characters. -/
def dropOverhang (n : Nat) (row : List Char) : List Char :=
  let blanks := row.length - (Text.dropBlanksRight row).length
  row.take (row.length - min blanks (row.length - n))

/-- The rows of a line.  One that is not broken keeps the blanks at its end. -/
def lineRows (n : Nat) (flow : Flow) (line : List Char) : List (List Char) :=
  if flow = .unbroken then [line] else (wrap n flow line).map (dropOverhang n)

/-- The rows of a text.  Some may still be too wide. -/
def textRows (n : Nat) (flow : Flow) (s : List Char) : List (List Char) :=
  (Text.splitAll '\n' s).flatMap fun line => lineRows n flow (expandTabs line)

/-- A row cut to so many columns, with a mark where a word may not go on in the next row. -/
def shorten (n : Nat) (flow : Flow) (row : List Char) : List Char :=
  if Text.width row ≤ n then row
  else if flow = .folded then Text.crop n row
  else Text.crop (n - 1) row ++ ['…']

end SearchFilters.Console
