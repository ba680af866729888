import SearchFilters.Field.Datum
import SearchFilters.Text.Hex

/-!
# Console — Json

Data as indented JSON in ASCII.
-/

namespace SearchFilters.Console

/-- The escape of a unit of sixteen bits. -/
def unitEscape (n : Nat) : List Char := '\\' :: 'u' :: Text.hex 4 n

/-- The text of a character inside a string.  A character beyond sixteen bits is a pair of units. -/
def jsonChar (c : Char) : List Char :=
  match c with
  | '"' => ['\\', '"']
  | '\\' => ['\\', '\\']
  | '\n' => ['\\', 'n']
  | '\r' => ['\\', 'r']
  | '\t' => ['\\', 't']
  | '\x08' => ['\\', 'b']
  | '\x0c' => ['\\', 'f']
  | c =>
    if ' ' ≤ c ∧ c ≤ '~' then [c]
    else if c.toNat < 0x10000 then unitEscape c.toNat
    else
      let n := c.toNat - 0x10000
      unitEscape (0xD800 + n / 0x400) ++ unitEscape (0xDC00 + n % 0x400)

def jsonString (s : String) : List Char := '"' :: s.toList.flatMap jsonChar ++ ['"']

/-- The text of a number; infinite values and the value that is no number have names. -/
def jsonNumber : Number → Except NumberFault (List Char)
  | .float .nan => .ok "NaN".toList
  | .float (.infinite negative) => .ok ((if negative then "-Infinity" else "Infinity").toList)
  | n => n.text

/-- The blanks at the start of a line within so many brackets. -/
def jsonIndent (depth : Nat) : List Char := '\n' :: List.replicate (2 * depth) ' '

/-- Parts between brackets, each on a line of its own. -/
def bracketed (opening closing : Char) (depth : Nat) (parts : List (List Char)) : List Char :=
  if parts.isEmpty then [opening, closing]
  else
    opening :: [','].intercalate (parts.map fun p => jsonIndent (depth + 1) ++ p) ++
      jsonIndent depth ++ [closing]

mutual

/-- A datum within so many brackets. -/
def json (depth : Nat) : Datum → Except NumberFault (List Char)
  | .null => .ok "null".toList
  | .bool b => .ok (if b then "true" else "false").toList
  | .number n => jsonNumber n
  | .string s => .ok (jsonString s)
  | .list xs | .tuple xs => do pure (bracketed '[' ']' depth (← jsonItems (depth + 1) xs))
  | .table es => do pure (bracketed '\x7b' '\x7d' depth (← jsonEntries (depth + 1) es))
  | .moment t => .ok (jsonString t)

def jsonItems (depth : Nat) : List Datum → Except NumberFault (List (List Char))
  | [] => .ok []
  | x :: xs => do
    let p ← json depth x
    let ps ← jsonItems depth xs
    pure (p :: ps)

def jsonEntries (depth : Nat) : List (String × Datum) → Except NumberFault (List (List Char))
  | [] => .ok []
  | (k, x) :: es => do
    let p ← json depth x
    let ps ← jsonEntries depth es
    pure ((jsonString k ++ ": ".toList ++ p) :: ps)

end

end SearchFilters.Console
