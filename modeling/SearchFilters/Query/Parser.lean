import SearchFilters.Query.Reader
import SearchFilters.Text.Place
import SearchFilters.Text.Quoted

/-!
# Query — Parser

Query texts to trees.

* `parse`: the tree of a text, none for a blank text, or the first place where the text cannot be
  read.
* `ParseError.message`: the wording of that place.
-/

namespace SearchFilters.Query
open Text

/-- Why a text is no query.  Places are given as the part of the text that begins there. -/
inductive ParseFault where
  /-- a lexeme that cannot stand where it is -/
  | unexpected (kind : Kind) (lexeme rest : List Char)
  /-- the text ends inside a clause or group whose last lexeme begins here -/
  | unexpectedEnd (last : List Char)
  /-- no lexeme begins here -/
  | unmatched (rest : List Char)
  /-- the whole text is a query, but the number after a phrase is infinite -/
  | proximityOverflow
  deriving Repr, DecidableEq

/-- The kinds tried where no admitted lexeme begins. -/
def strayKinds : List Kind :=
  [.andNot, .orNot, .and, .not, .or, .fieldName, .word, .boost, .fuzzy, .regex, .phrase, .bound,
   .rangeClose, .rangeOpen]

/-- A word or bound that is nothing but the word between bounds or a parenthesis counts as that. -/
def strayKind (k : Kind) (l : List Char) : Kind :=
  if k == .word || k == .bound then
    if l == "TO".toList then .rangeTo
    else if l == ['('] then .groupOpen
    else if l == [')'] then .groupClose
    else k
  else k

/-- The fault of a text that no admitted lexeme begins. -/
def strayFault (s : List Char) : ParseFault :=
  match firstLexeme? strayKinds s with
  | some (k, l, _) => .unexpected (strayKind k l) l s
  | none => .unmatched s

/-- Reads the rest of a text, whose last lexeme before begins at `last`. -/
def read (r : Reader) (last : List Char) (s : List Char) : Except ParseFault Tree :=
  match s with
  | [] =>
    match r.finish with
    | none => .error (.unexpectedEnd last)
    | some t => if r.overflow then .error .proximityOverflow else .ok t
  | c :: s' =>
    if isLayout c then read r last s'
    else
      -- only lexemes that may stand here are tried, so that a keyword elsewhere is a word
      match h : firstLexeme? r.position.kinds (c :: s') with
      | none => .error (strayFault (c :: s'))
      | some (k, l, rest) =>
        have := (splits_of_firstLexeme? h).length_lt
        match r.step k l with
        | some r' => read r' (c :: s') rest
        | none => .error (.unexpected k l (c :: s'))
termination_by s.length
decreasing_by
  · exact Nat.lt_succ_self _
  · exact this

/-- A text that is no query, with its fault. -/
structure ParseError where
  /-- the text without blanks around it -/
  query : List Char
  fault : ParseFault
  deriving Repr, DecidableEq

/-- The tree of a query text; a blank text has none. -/
def parse (text : String) : Except ParseError (Option Tree) :=
  let query := trim text.toList
  if query.isEmpty then .ok none
  else
    match read {} [] query with
    | .ok t => .ok (some t)
    | .error fault => .error { query, fault }

/-- The place of a fault in words. -/
def ParseFault.message (query : List Char) : ParseFault → String
  | .unexpected k l rest =>
    let p := Place.ofRest query rest
    s!"Unexpected token Token('{k.name}', {String.ofList (quoted l)}) at line {p.line}, " ++
      s!"column {p.column}."
  | .unexpectedEnd last =>
    let p := if last.isEmpty then Place.first else Place.ofRest query last
    s!"Unexpected token Token('$END', '') at line {p.line}, column {p.column}."
  | .unmatched rest =>
    let p := Place.ofRest query rest
    s!"No terminal matches '{String.ofList (rest.take 1)}' in the current parser context, " ++
      s!"at line {p.line} col {p.column}"
  | .proximityOverflow => "The proximity of a phrase is infinite"

/-- The wording of a parse error. -/
def ParseError.message (e : ParseError) : String :=
  s!"Failed to parse search query '{String.ofList e.query}': " ++ e.fault.message e.query

end SearchFilters.Query
