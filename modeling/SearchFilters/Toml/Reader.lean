import SearchFilters.Toml.Scalar

/-!
# Toml — Reader

Configuration documents as tables of data.  A document is a row of statements: a key with its value,
the header of a table, or the header of one more table in an array of tables.
-/

namespace SearchFilters.Toml

/-- Why a text is no document. -/
inductive ReadFault where
  | malformed
  /-- an integer is beyond reading -/
  | number (f : NumberFault)
  deriving Repr, DecidableEq

def malformed {α : Type} : Except ReadFault α := .error .malformed

def ofSplit {α : Type} : Option α → Except ReadFault α
  | some a => .ok a
  | none => malformed

abbrev Entries := List (String × Datum)

/-! ### Tables within tables -/

/-- Changes the table under a key path, creating the tables on the way.  With `throughLists` a list
stands for its last item. -/
def update (throughLists : Bool) (f : Entries → Option Entries) :
    List String → Entries → Option Entries
  | [], es => f es
  | k :: ks, es =>
    match Datum.get? es k with
    | none => (update throughLists f ks []).map fun sub => es ++ [(k, .table sub)]
    | some d => do
      let d' ← match d with
        | .table sub => (update throughLists f ks sub).map Datum.table
        | .list items =>
          if throughLists then
            match items.getLast? with
            | some (.table sub) =>
              (update throughLists f ks sub).map fun sub => .list (items.dropLast ++ [.table sub])
            | _ => none
          else none
        | _ => none
      pure (es.map fun e => if e.1 == k then (k, d') else e)

/-- Adds an entry under a new key. -/
def addEntry (k : String) (d : Datum) (es : Entries) : Option Entries :=
  match Datum.get? es k with
  | some _ => none
  | none => some (es ++ [(k, d)])

/-- Adds an empty table to the list under a key, which is created if need be. -/
def addItem (k : String) (es : Entries) : Option Entries :=
  match Datum.get? es k with
  | none => some (es ++ [(k, .list [.table []])])
  | some (.list items) =>
    some (es.map fun e => if e.1 == k then (k, .list (items ++ [.table []])) else e)
  | some _ => none

/-- Whether a value is a table or a list, which later statements may not change. -/
def isNest : Datum → Bool
  | .table _ | .list _ => true
  | _ => false

/-! ### Values -/

/-- A number, a date or a time. -/
def readScalar (s : List Char) : Except ReadFault (Datum × List Char) :=
  match splitDate s with
  | some (true, r) => .ok (.moment (String.ofList (s.take (s.length - r.length))), r)
  | some (false, _) => malformed
  | none =>
    match dropTime? s with
    | some r => .ok (.moment (String.ofList (s.take (s.length - r.length))), r)
    | none =>
      match splitBased s with
      | some (n, r) => .ok (.int n, r)
      | none =>
        match splitDecimal s with
        | some (.ok n, r) => .ok (.number n, r)
        | some (.error f, _) => .error (.number f)
        | none =>
          match splitSpecial s with
          | some (x, r) => .ok (.float x, r)
          | none => malformed

/-- An inline table while it is read: its entries, and the paths under which nothing may be
added. -/
structure Inline where
  entries : Entries := []
  frozen : List (List String) := []

/-- An inline table with one more entry. -/
def Inline.add (t : Inline) (key : List String) (d : Datum) : Option Inline := do
  let stem ← key.getLast?
  if t.frozen.any (·.isPrefixOf key) then none
  else
    let entries ← update false (addEntry stem d) key.dropLast t.entries
    pure { entries, frozen := if isNest d then key :: t.frozen else t.frozen }

mutual

/-- A value. -/
def readValue : Nat → List Char → Except ReadFault (Datum × List Char)
  | 0, _ => malformed
  | fuel + 1, s =>
    match s with
    | '"' :: _ | '\'' :: _ => do
      let (t, r) ← ofSplit (splitString s)
      pure (.string (String.ofList t), r)
    | 't' :: 'r' :: 'u' :: 'e' :: r => .ok (.bool true, r)
    | 'f' :: 'a' :: 'l' :: 's' :: 'e' :: r => .ok (.bool false, r)
    | '[' :: r => do
      let r ← ofSplit (dropFiller? (r.length + 1) r)
      let (items, r) ← readItems fuel r
      pure (.list items, r)
    | '{' :: r =>
      match dropBlanks r with
      | '}' :: r => .ok (.table [], r)
      | r => do
        let (es, r) ← readInline fuel {} r
        pure (.table es, r)
    | _ => readScalar s

/-- The items of a list up to its closing bracket. -/
def readItems : Nat → List Char → Except ReadFault (List Datum × List Char)
  | 0, _ => malformed
  | fuel + 1, s =>
    match s with
    | ']' :: r => .ok ([], r)
    | _ => do
      let (d, r) ← readValue fuel s
      let r ← ofSplit (dropFiller? (r.length + 1) r)
      match r with
      | ']' :: r => pure ([d], r)
      | ',' :: r => do
        let r ← ofSplit (dropFiller? (r.length + 1) r)
        let (ds, r) ← readItems fuel r
        pure (d :: ds, r)
      | _ => malformed

/-- The entries of an inline table up to its closing brace. -/
def readInline : Nat → Inline → List Char → Except ReadFault (Entries × List Char)
  | 0, _, _ => malformed
  | fuel + 1, t, s => do
    let (key, r) ← ofSplit (splitKey (s.length + 1) s)
    match r with
    | '=' :: r => do
      let (d, r) ← readValue fuel (dropBlanks r)
      let t ← ofSplit (t.add key d)
      match dropBlanks r with
      | '}' :: r => pure (t.entries, r)
      | ',' :: r => readInline fuel t (dropBlanks r)
      | _ => malformed
    | _ => malformed

end

/-! ### Statements -/

/-- A document while it is read. -/
structure Document where
  entries : Entries := []
  /-- the table that entries go into -/
  header : List String := []
  /-- paths of values under which nothing may be added -/
  frozen : List (List String) := []
  /-- paths of tables that no header may open again -/
  declared : List (List String) := []
  /-- paths that become declared with the next header -/
  pending : List (List String) := []

namespace Document

def isFrozen (d : Document) (key : List String) : Bool := d.frozen.any (·.isPrefixOf key)

/-- The paths that a dotted key opens below the header, the whole key apart. -/
def opened (header key : List String) : List (List String) :=
  (List.range (key.length - 1)).map fun i => header ++ key.take (i + 1)

/-- The document after a key and its value. -/
def addValue (d : Document) (key : List String) (v : Datum) : Option Document := do
  let stem ← key.getLast?
  let opened := opened d.header key
  let parent := d.header ++ key.dropLast
  -- a dotted key may not reopen a table that has a header of its own
  if opened.any d.declared.contains || (!parent.isEmpty && d.isFrozen parent) then none
  else
    let entries ← update true (addEntry stem v) parent d.entries
    pure { d with
      entries, pending := opened ++ d.pending,
      frozen := if isNest v then (d.header ++ key) :: d.frozen else d.frozen }

/-- The document in which the paths opened so far count as declared. -/
def settle (d : Document) : Document :=
  { d with declared := d.pending ++ d.declared, pending := [] }

/-- The document after the header of a table. -/
def openTable (d : Document) (key : List String) : Option Document := do
  let d := d.settle
  if d.declared.contains key || d.isFrozen key then none
  else
    let entries ← update true some key d.entries
    pure { d with entries, header := key, declared := key :: d.declared }

/-- The document after the header of one more table of an array. -/
def openItem (d : Document) (key : List String) : Option Document := do
  let d := d.settle
  let stem ← key.getLast?
  if d.isFrozen key then none
  else
    let entries ← update true (addItem stem) key.dropLast d.entries
    let outside (p : List String) : Bool := !key.isPrefixOf p
    pure { d with
      entries, header := key, frozen := d.frozen.filter outside,
      declared := key :: d.declared.filter outside }

end Document

/-- The document after a statement, and the rest of the text. -/
def readStatement (d : Document) (s : List Char) : Except ReadFault (Document × List Char) :=
  match s with
  | '[' :: '[' :: r => do
    let (key, r) ← ofSplit (splitKey (r.length + 1) (dropBlanks r))
    match r with
    | ']' :: ']' :: r => do pure (← ofSplit (d.openItem key), r)
    | _ => malformed
  | '[' :: r => do
    let (key, r) ← ofSplit (splitKey (r.length + 1) (dropBlanks r))
    match r with
    | ']' :: r => do pure (← ofSplit (d.openTable key), r)
    | _ => malformed
  | _ => do
    let (key, r) ← ofSplit (splitKey (s.length + 1) s)
    match r with
    | '=' :: r => do
      let r := dropBlanks r
      let (v, r) ← readValue (r.length + 1) r
      pure (← ofSplit (d.addValue key v), r)
    | _ => malformed

/-- The document after all statements. -/
def readStatements : Nat → Document → List Char → Except ReadFault Document
  | 0, _, _ => malformed
  | fuel + 1, d, s => do
    let s := dropBlanks s
    let (d, r) ← match s with
      | [] | '\n' :: _ | '#' :: _ => .ok (d, s)
      | _ => readStatement d s
    match ← ofSplit (dropComment? (dropBlanks r)) with
    | [] => pure d
    | '\n' :: r => readStatements fuel d r
    | _ => malformed

/-- A text whose line ends are line feeds alone. -/
def unifyLineEnds : List Char → List Char
  | '\r' :: '\n' :: s => '\n' :: unifyLineEnds s
  | c :: s => c :: unifyLineEnds s
  | [] => []

/-- The entries of a document. -/
def read (text : String) : Except ReadFault Entries := do
  let s := unifyLineEnds text.toList
  let d ← readStatements (s.length + 1) {} s
  pure d.entries

end SearchFilters.Toml
