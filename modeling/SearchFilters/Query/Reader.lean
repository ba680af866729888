import SearchFilters.Query.Escape
import SearchFilters.Query.Lexeme
import SearchFilters.Query.Tree

/-!
# Query — Reader

The state of reading a query from left to right.  A position says what has been read of the clause
at hand and so which lexemes may come next; the clauses before it wait in links, one for each
operator, and the groups around it in frames.

* `Position.kinds`: the lexemes a position admits, in the order they are tried.
* `Reader.step`: the state after a lexeme.
* `Reader.finish`: the tree of a complete query.
-/

namespace SearchFilters.Query

/-- What has been read of the clause at hand. -/
inductive Position where
  /-- nothing: a query or group begins, which `NOT` may open -/
  | node
  /-- nothing, after the `NOT` that opens the node -/
  | clause
  /-- a field name -/
  | named (field : String)
  /-- a sign -/
  | marked (mark : String)
  /-- a sign and a field name -/
  | markedNamed (mark field : String)
  /-- all that may come before a term -/
  | term (mark field : String)
  /-- a term that modifiers may follow -/
  | modifiers (t : Term)
  /-- the whole clause -/
  | done (clause : Tree)
  /-- the opening bracket of a range -/
  | low (field : String) (includesLow : Bool)
  /-- a range up to its lower bound -/
  | between (field : String) (includesLow : Bool) (low : String)
  /-- a range up to the word between its bounds -/
  | high (field : String) (includesLow : Bool) (low : String)
  /-- a range up to its upper bound -/
  | rangeEnd (field : String) (includesLow : Bool) (low high : String)
  deriving Repr, DecidableEq

namespace Position

/-- The lexemes of operators. -/
def operatorKinds : List Kind := [.andNot, .orNot, .and, .not, .or]

/-- The lexemes a position admits, in the order they are tried. -/
def kinds : Position → List Kind
  | .node => [.not, .fieldName, .word, .regex, .phrase, .mark, .rangeOpen, .groupOpen]
  | .clause => [.fieldName, .word, .regex, .phrase, .mark, .rangeOpen, .groupOpen]
  | .named _ => [.word, .regex, .phrase, .mark, .rangeOpen, .groupOpen]
  | .marked _ => [.fieldName, .word, .regex, .phrase]
  | .markedNamed _ _ => [.word, .regex, .phrase, .mark]
  | .term _ _ => [.word, .regex, .phrase]
  | .modifiers _ =>
    operatorKinds ++
      [.fieldName, .word, .boost, .fuzzy, .regex, .phrase, .mark, .rangeOpen, .groupOpen,
        .groupClose]
  | .done _ =>
    operatorKinds ++
      [.fieldName, .word, .regex, .phrase, .mark, .rangeOpen, .groupOpen, .groupClose]
  | .low _ _ => [.bound]
  | .between _ _ _ => [.rangeTo]
  | .high _ _ _ => [.bound]
  | .rangeEnd _ _ _ _ => [.rangeClose]

/-- The clause that a position completes. -/
def clause? : Position → Option Tree
  | .modifiers t => some (.term t)
  | .done c => some c
  | _ => none

/-- The position after a term of a field, with the sign in front of it if there is one. -/
def ofTerm (field : String) (mark : Option String) (k : Kind) (l : List Char) :
    Option Position :=
  match k with
  | .word => some (.modifiers { field, mark, text := String.ofList (unescape l) })
  | .phrase =>
    some (.modifiers { field, mark, text := String.ofList (unescape (inside l)), quoted := true })
  | .regex =>
    some (.done (.term { field, mark, text := String.ofList (inside l), regex := true }))
  | _ => none

end Position

/-- A clause with the operator after it. -/
structure Link where
  clause : Tree
  op : Operator
  /-- the operator that opens the node the clause begins -/
  start : Option Operator
  deriving Repr, DecidableEq

/-- A group around the clause at hand, suspended where its clause opens a parenthesis. -/
structure Frame where
  links : List Link
  start : Option Operator
  /-- the field the parenthesis is written under -/
  field : Option String
  deriving Repr, DecidableEq

/-- The state of reading. -/
structure Reader where
  /-- the groups around the clause at hand, innermost first -/
  frames : List Frame := []
  /-- the clauses of the node at hand, latest first -/
  links : List Link := []
  /-- the operator that opens the node at hand -/
  start : Option Operator := none
  position : Position := .node
  /-- whether some phrase has an infinite proximity -/
  overflow : Bool := false
  deriving Repr, DecidableEq

/-- The node of a last clause and the clauses before it. -/
def node (links : List Link) (start : Option Operator) (clause : Tree) : Tree :=
  links.foldl (fun right l => .binary l.clause l.op right.collapse { start := l.start })
    (.single clause { start })

/-- The operator of a lexeme. -/
def operator? : Kind → Option Operator
  | .andNot => some .andNot
  | .orNot => some .orNot
  | .and => some .and
  | .not => some .not
  | .or => some .or
  | _ => none

/-- The similarity of a fuzzy mark without a number. -/
def defaultSimilarity : Binary64 := .ofDecimal false 5 (-1)

/-- The number after a modifier's mark. -/
def modifierValue (l : List Char) : Option Binary64 := Binary64.ofPlain? l.tail

namespace Reader

/-- The state after a clause and an operator. -/
def join (r : Reader) (clause : Tree) (op : Operator) : Reader :=
  { r with links := ⟨clause, op, r.start⟩ :: r.links, start := none, position := .node }

/-- The state inside a parenthesis. -/
def openGroup (r : Reader) (field : Option String) : Reader :=
  { r with frames := ⟨r.links, r.start, field⟩ :: r.frames, links := [], start := none,
           position := .node }

/-- The state after the end of a parenthesis whose last clause is given. -/
def closeGroup (r : Reader) (clause : Tree) : Option Reader :=
  match r.frames with
  | [] => none
  | f :: fs =>
    let group := (node r.links r.start clause).regroup fun g =>
      { g with field := f.field, parenthesized := true }
    some { r with frames := fs, links := f.links, start := f.start, position := .done group }

/-- The state after a lexeme that may follow a field name. -/
def beginNamed (r : Reader) (field : Option String) (k : Kind) (l : List Char) : Option Reader :=
  let name := field.getD implicitField
  match k with
  | .rangeOpen => some { r with position := .low name (l == ['[']) }
  | .groupOpen => some (r.openGroup field)
  | _ => (Position.ofTerm name none k l).map fun p => { r with position := p }

/-- The state after a lexeme that begins a clause. -/
def begin (r : Reader) (k : Kind) (l : List Char) : Option Reader :=
  match k with
  | .fieldName => some { r with position := .named (String.ofList (nameOfLexeme l)) }
  | .mark => some { r with position := .marked (String.ofList l) }
  | _ => r.beginNamed none k l

/-- The state after a lexeme that follows a complete clause. -/
def continueAfter (r : Reader) (clause : Tree) (k : Kind) (l : List Char) : Option Reader :=
  match operator? k with
  | some op => some (r.join clause op)
  | none =>
    match k with
    | .groupClose => r.closeGroup clause
    | _ => (r.join clause .implicit).begin k l

/-- The state after a fuzzy mark: the proximity of a phrase, the similarity of a word. -/
def fuzzy (r : Reader) (t : Term) (value : Option Binary64) : Reader :=
  if t.quoted then
    match value with
    | none => { r with position := .modifiers { t with proximity := some 0 } }
    | some (.finite negative m e) =>
      { r with position :=
        .modifiers { t with proximity := some (Binary64.truncate negative m e) } }
    | some _ => { r with position := .modifiers t, overflow := true }
  else
    { r with position :=
      .modifiers { t with similarity := some (.float (value.getD defaultSimilarity)) } }

/-- The state after a lexeme; none if the lexeme cannot stand there. -/
def step (r : Reader) (k : Kind) (l : List Char) : Option Reader :=
  let text := String.ofList l
  match r.position with
  | .node =>
    match k with
    | .not => some { r with start := some .not, position := .clause }
    | _ => r.begin k l
  | .clause => r.begin k l
  | .named field =>
    match k with
    | .mark => some { r with position := .term text field }
    | _ => r.beginNamed (some field) k l
  | .marked mark =>
    match k with
    | .fieldName => some { r with position := .markedNamed mark (String.ofList (nameOfLexeme l)) }
    | _ => (Position.ofTerm implicitField mark k l).map fun p => { r with position := p }
  | .markedNamed mark field =>
    match k with
    | .mark => some { r with position := .term text field }
    | _ => (Position.ofTerm field mark k l).map fun p => { r with position := p }
  | .term mark field => (Position.ofTerm field mark k l).map fun p => { r with position := p }
  | .modifiers t =>
    match k with
    | .boost => some { r with
        position := .modifiers { t with boost := (modifierValue l).map Number.float } }
    | .fuzzy => some (r.fuzzy t (modifierValue l))
    | _ => r.continueAfter (.term t) k l
  | .done clause => r.continueAfter clause k l
  | .low field i =>
    match k with
    | .bound => some { r with position := .between field i text }
    | _ => none
  | .between field i low =>
    match k with
    | .rangeTo => some { r with position := .high field i low }
    | _ => none
  | .high field i low =>
    match k with
    | .bound => some { r with position := .rangeEnd field i low text }
    | _ => none
  | .rangeEnd field i low high =>
    match k with
    | .rangeClose => some { r with
        position := .done (.range { field, low, high, inclusive := .ofBounds i (l == [']']) }) }
    | _ => none

/-- The tree of a complete query. -/
def finish (r : Reader) : Option Tree :=
  match r.frames, r.position.clause? with
  | [], some clause => some (node r.links r.start clause)
  | _, _ => none

end Reader
end SearchFilters.Query
