import SearchFilters.Text.Hex
import SearchFilters.Text.Printable

/-!
# Text — Quoted

Texts as messages show them: between quotes, with everything unprintable escaped.
-/

namespace SearchFilters.Text

/-- A text with an apostrophe and no quotation mark is put between quotation marks, every other
text between apostrophes. -/
def quoteFor (s : List Char) : Char :=
  if s.contains '\'' && !s.contains '"' then '"' else '\''

/-- How one character stands between two quotes of the given kind. -/
def escapeChar (quote c : Char) : List Char :=
  if c == quote || c == '\\' then ['\\', c]
  else if c == '\n' then ['\\', 'n']
  else if c == '\r' then ['\\', 'r']
  else if c == '\t' then ['\\', 't']
  else if isPrintable c then [c]
  else if c.toNat < 0x100 then '\\' :: 'x' :: hex 2 c.toNat
  else if c.toNat < 0x10000 then '\\' :: 'u' :: hex 4 c.toNat
  else '\\' :: 'U' :: hex 8 c.toNat

/-- A text between quotes. -/
def quoted (s : List Char) : List Char :=
  let quote := quoteFor s
  quote :: s.flatMap (escapeChar quote) ++ [quote]

/-- A text between quotes, as a string. -/
def quotedText (s : String) : String := String.ofList (quoted s.toList)

/-- Texts between quotes, separated by commas and bracketed. -/
def quotedList (ss : List String) : String :=
  "[" ++ ", ".intercalate (ss.map quotedText) ++ "]"

end SearchFilters.Text
