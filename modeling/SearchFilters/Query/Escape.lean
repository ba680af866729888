import SearchFilters.Text.Blank

/-!
# Query — Escape

Backslash escapes.  Reading drops the backslash before any character; writing puts one before the
characters that would end a word or a phrase.
-/

namespace SearchFilters.Query

/-- A text without its escapes: the character after a backslash stands for itself. -/
def unescape : List Char → List Char
  | '\\' :: c :: r => c :: unescape r
  | c :: r => c :: unescape r
  | [] => []

/-- The inside of a phrase. -/
def escapeQuoted (s : List Char) : List Char :=
  s.flatMap fun c => if c == '\\' || c == '"' then ['\\', c] else [c]

/-- The words that join clauses when they stand alone. -/
def keywords : List (List Char) := ["AND".toList, "OR".toList, "NOT".toList]

/-- The characters that are escaped in a word. -/
def wordSpecials : List Char := " \t\r\n\\\":()\x7b\x7d[]/^~".toList

/-- A word with its special characters escaped, and a leading sign with them. -/
def escapeSpecials (s : List Char) : List Char :=
  s.flatMap fun c => if wordSpecials.contains c then ['\\', c] else [c]

/-- A word.  A keyword is escaped at its first letter. -/
def escapeWord (s : List Char) : List Char :=
  if keywords.contains s then '\\' :: s
  else
    match escapeSpecials s with
    | '+' :: r => '\\' :: '+' :: r
    | '-' :: r => '\\' :: '-' :: r
    | r => r

end SearchFilters.Query
