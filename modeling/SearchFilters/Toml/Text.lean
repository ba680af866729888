import SearchFilters.Text.Hex

/-!
# Toml — Text

Keys, strings, comments and blanks of a configuration document, each as a function that splits a
text into what it begins with and the rest.  Line ends are line feeds alone.
-/

namespace SearchFilters.Toml

/-- The control characters, the tab apart. -/
def isControl (c : Char) : Bool := (c.toNat < 32 && c != '\t') || c.toNat == 127

def isBlank (c : Char) : Bool := c == ' ' || c == '\t'

def dropBlanks (s : List Char) : List Char := s.dropWhile isBlank

/-- The rest after blanks and line ends. -/
def dropSpace (s : List Char) : List Char := s.dropWhile fun c => isBlank c || c == '\n'

/-- The rest after a comment, if there is one; none if the comment holds a control character. -/
def dropComment? : List Char → Option (List Char)
  | '#' :: s =>
    if (s.takeWhile (· != '\n')).any isControl then none else some (s.dropWhile (· != '\n'))
  | s => some s

/-- The rest after blanks, line ends and comments. -/
def dropFiller? : Nat → List Char → Option (List Char)
  | 0, _ => none
  | fuel + 1, s =>
    match dropSpace s with
    | '#' :: r => (dropComment? ('#' :: r)).bind (dropFiller? fuel)
    | r => some r

/-! ### Strings -/

/-- The character of a code point, if there is one. -/
def charOf? (n : Nat) : Option Char := if h : n.isValidChar then some (Char.ofNatAux n h) else none

/-- The character of a row of hexadecimal digits. -/
def splitHex (width : Nat) (s : List Char) : Option (Char × List Char) := do
  let ds := s.take width
  if ds.length ≠ width then none
  else
    let values ← ds.mapM Text.hexValue?
    let c ← charOf? (values.foldl (fun n d => 16 * n + d) 0)
    pure (c, s.drop width)

/-- The rest after the escape of a line end: blanks, the line end and all space after it. -/
def dropLineEnd? (s : List Char) : Option (List Char) :=
  match dropBlanks s with
  | [] => some []
  | '\n' :: r => some (dropSpace r)
  | _ => none

/-- What an escape stands for, the backslash being left out. -/
def splitEscape (multiline : Bool) : List Char → Option (List Char × List Char)
  | 'b' :: s => some (['\x08'], s)
  | 't' :: s => some (['\t'], s)
  | 'n' :: s => some (['\n'], s)
  | 'f' :: s => some (['\x0c'], s)
  | 'r' :: s => some (['\r'], s)
  | '"' :: s => some (['"'], s)
  | '\\' :: s => some (['\\'], s)
  | 'u' :: s => (splitHex 4 s).map fun (c, r) => ([c], r)
  | 'U' :: s => (splitHex 8 s).map fun (c, r) => ([c], r)
  | c :: s =>
    if multiline && (isBlank c || c == '\n') then (dropLineEnd? (c :: s)).map fun r => ([], r)
    else none
  | [] => none

/-- The rest of a basic string after its opening quotes; the closing quotes are dropped. -/
def splitBasic (multiline : Bool) : Nat → List Char → Option (List Char × List Char)
  | 0, _ => none
  | _, [] => none
  | fuel + 1, '\\' :: s => do
    let (e, r) ← splitEscape multiline s
    let (t, r) ← splitBasic multiline fuel r
    pure (e ++ t, r)
  | fuel + 1, '"' :: s =>
    if multiline then
      match s with
      | '"' :: '"' :: r => some ([], r)
      | _ => (splitBasic multiline fuel s).map fun (t, r) => ('"' :: t, r)
    else some ([], s)
  | fuel + 1, c :: s =>
    if isControl c && !(multiline && c == '\n') then none
    else (splitBasic multiline fuel s).map fun (t, r) => (c :: t, r)

/-- The rest of a literal string of one line. -/
def splitLiteral (s : List Char) : Option (List Char × List Char) :=
  match s.dropWhile (· != '\'') with
  | [] => none
  | _ :: r =>
    let t := s.takeWhile (· != '\'')
    if t.any isControl then none else some (t, r)

/-- The rest of a literal string of several lines. -/
def splitLiteralLines : List Char → Option (List Char × List Char)
  | '\'' :: '\'' :: '\'' :: r => some ([], r)
  | c :: s =>
    if isControl c && c != '\n' then none
    else (splitLiteralLines s).map fun (t, r) => (c :: t, r)
  | [] => none

/-- Up to two more quotes after the closing ones belong to the string. -/
def withQuotes (q : Char) (t s : List Char) : List Char × List Char :=
  match s with
  | a :: b :: r =>
    if a != q then (t, s) else if b == q then (t ++ [q, q], r) else (t ++ [q], b :: r)
  | [a] => if a == q then (t ++ [q], []) else (t, s)
  | [] => (t, [])

/-- A line end right after the opening quotes is left out. -/
def dropFirstLineEnd : List Char → List Char
  | '\n' :: s => s
  | s => s

/-- A string of any of the four kinds. -/
def splitString (s : List Char) : Option (List Char × List Char) :=
  match s with
  | '"' :: '"' :: '"' :: r => do
    let (t, r) ← splitBasic true (r.length + 1) (dropFirstLineEnd r)
    pure (withQuotes '"' t r)
  | '"' :: r => splitBasic false (r.length + 1) r
  | '\'' :: '\'' :: '\'' :: r => do
    let (t, r) ← splitLiteralLines (dropFirstLineEnd r)
    pure (withQuotes '\'' t r)
  | '\'' :: r => splitLiteral r
  | _ => none

/-! ### Keys -/

/-- The characters of an unquoted key. -/
def isKeyChar (c : Char) : Bool := c.isAlphanum || c == '-' || c == '_'

/-- One part of a key. -/
def splitKeyPart : List Char → Option (String × List Char)
  | '"' :: s => (splitBasic false (s.length + 1) s).map fun (t, r) => (String.ofList t, r)
  | '\'' :: s => (splitLiteral s).map fun (t, r) => (String.ofList t, r)
  | s =>
    let t := s.takeWhile isKeyChar
    if t.isEmpty then none else some (String.ofList t, s.dropWhile isKeyChar)

/-- The parts of a key, at least one, and the blanks after it. -/
def splitKey : Nat → List Char → Option (List String × List Char)
  | 0, _ => none
  | fuel + 1, s => do
    let (p, r) ← splitKeyPart s
    match dropBlanks r with
    | '.' :: r => do
      let (ps, r) ← splitKey fuel (dropBlanks r)
      pure (p :: ps, r)
    | r => pure ([p], r)

end SearchFilters.Toml
