import SearchFilters.Toml.Scalar

/-!
# Toml — Writer

Tables of data as configuration documents.  A table is a section: its own entries, one a line, and
after them the sections of the tables below it.  Sections are separated by an empty line.
-/

namespace SearchFilters.Toml

/-! ### Values -/

/-- The text of a character inside a string. -/
def escaped (c : Char) : List Char :=
  match c with
  | '\x08' => ['\\', 'b']
  | '\n' => ['\\', 'n']
  | '\x0c' => ['\\', 'f']
  | '\r' => ['\\', 'r']
  | '"' => ['\\', '"']
  | '\\' => ['\\', '\\']
  | c => if isControl c then '\\' :: 'u' :: Text.hex 4 c.toNat else [c]

/-- A string between quotes. -/
def stringText (s : List Char) : List Char := '"' :: s.flatMap escaped ++ ['"']

/-- A key, between quotes if it is not made of key characters. -/
def keyText (k : String) : List Char :=
  if !k.isEmpty && k.toList.all isKeyChar then k.toList else stringText k.toList

/-- The blanks before the items of a list within so many others. -/
def indent (depth : Nat) : List Char := List.replicate (4 * depth) ' '

mutual

/-- A value that stands inside so many lists.  A list that is not empty takes a line for each item,
a table takes none.  Null, which no document holds, has no text. -/
def valueText (depth : Nat) : Datum → Except NumberFault (List Char)
  | .null => .ok []
  | .bool b => .ok (if b then "true" else "false").toList
  | .number n => n.text
  | .string s => .ok (stringText s.toList)
  | .list xs | .tuple xs => do
    let items ← itemTexts (depth + 1) xs
    if items.isEmpty then pure ['[', ']']
    else pure ('[' :: '\n' :: items.flatten ++ indent depth ++ [']'])
  | .table es => do
    let entries ← entryTexts es
    if entries.isEmpty then pure ['\x7b', '\x7d']
    else pure ("\x7b ".toList ++ ", ".toList.intercalate entries ++ " \x7d".toList)
  | .moment t => .ok t.toList

/-- The lines of the items of a list. -/
def itemTexts (depth : Nat) : List Datum → Except NumberFault (List (List Char))
  | [] => .ok []
  | x :: xs => do
    let t ← valueText depth x
    let ts ← itemTexts depth xs
    pure ((indent depth ++ t ++ [',', '\n']) :: ts)

/-- The entries of a table inside a line. -/
def entryTexts : List (String × Datum) → Except NumberFault (List (List Char))
  | [] => .ok []
  | (k, x) :: es => do
    let t ← valueText 0 x
    let ts ← entryTexts es
    pure ((keyText k ++ " = ".toList ++ t) :: ts)

end

/-! ### Sections -/

/-- The longest line that an item of a list of tables may take. -/
def lineWidth : Nat := 100

def isTable : Datum → Bool
  | .table _ => true
  | _ => false

/-- Whether an item of a list fits in a line. -/
def fitsLine (d : Datum) : Except NumberFault Bool := do
  let t ← valueText 0 d
  let line := indent 1 ++ t ++ [',']
  pure (line.length ≤ lineWidth && !line.contains '\n')

/-- Whether a list holds tables alone, not all of which fit in a line.  Its items are sections. -/
def isSectioned (xs : List Datum) : Except NumberFault Bool := do
  if xs.isEmpty || !xs.all isTable then pure false
  else
    let fits ← xs.mapM fitsLine
    pure !fits.all id

/-- The lines of the entries that are no sections. -/
def ownLines : List (String × Datum) → Except NumberFault (List Char)
  | [] => .ok []
  | (k, x) :: es => do
    let apart ← match x with
      | .table _ => pure true
      | .list xs | .tuple xs => isSectioned xs
      | _ => pure false
    let own ← if apart then pure [] else do
      let t ← valueText 0 x
      pure (keyText k ++ " = ".toList ++ t ++ ['\n'])
    let rest ← ownLines es
    pure (own ++ rest)

/-- The name of a table below another one. -/
def pathText (name : List Char) (k : String) : List Char :=
  if name.isEmpty then keyText k else name ++ '.' :: keyText k

mutual

/-- The sections of the tables below a table of a given name. -/
def sections (name : List Char) : List (String × Datum) → Except NumberFault (List (List Char))
  | [] => .ok []
  | (k, x) :: es => do
    let here ← sectionsOf (pathText name k) x
    let rest ← sections name es
    pure (here ++ rest)

/-- The section of a value of a given name and those below it.  A table that only holds other tables
has no section of its own. -/
def sectionsOf (name : List Char) : Datum → Except NumberFault (List (List Char))
  | .table es => do
    let own ← ownLines es
    let below ← sections name es
    if own.isEmpty && !below.isEmpty then pure below
    else pure (('[' :: name ++ ']' :: '\n' :: own) :: below)
  | .list xs | .tuple xs => do
    if ← isSectioned xs then itemSections name xs else pure []
  | _ => .ok []

/-- The sections of the tables of a list. -/
def itemSections (name : List Char) : List Datum → Except NumberFault (List (List Char))
  | [] => .ok []
  | .table es :: xs => do
    let own ← ownLines es
    let below ← sections name es
    let rest ← itemSections name xs
    pure (('[' :: '[' :: name ++ ']' :: ']' :: '\n' :: own) :: below ++ rest)
  | _ :: xs => itemSections name xs

end

/-- The document of a table. -/
def write (es : List (String × Datum)) : Except NumberFault String := do
  let own ← ownLines es
  let below ← sections [] es
  let all := if own.isEmpty then below else own :: below
  pure (String.ofList (['\n'].intercalate all))

end SearchFilters.Toml
