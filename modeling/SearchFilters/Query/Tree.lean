import SearchFilters.Number.Basic

/-!
# Query — Tree

Queries as trees: terms and ranges at the leaves, groups of one or two sides above them.  A query
of several clauses nests to the right, one group a clause.
-/

namespace SearchFilters

/-- The name of the field of terms written without one. -/
def implicitField : String := "<implicit>"

/-- What joins two sides of a group.  The first six are those of the query language; a tree built by
hand may hold any other text. -/
inductive Operator where
  /-- juxtaposition -/
  | implicit
  | and
  | or
  | not
  | andNot
  | orNot
  | other (text : String)
  deriving Repr, DecidableEq, Inhabited

namespace Operator

def text : Operator → String
  | implicit => "<implicit>"
  | and => "AND"
  | or => "OR"
  | not => "NOT"
  | andNot => "AND NOT"
  | orNot => "OR NOT"
  | other t => t

/-- The operator with a given text. -/
def ofText (t : String) : Operator :=
  if t = implicit.text then implicit
  else if t = and.text then and
  else if t = or.text then or
  else if t = not.text then not
  else if t = andNot.text then andNot
  else if t = orNot.text then orNot
  else other t

end Operator

/-- Which bounds of a range belong to it. -/
inductive Inclusivity where
  | both
  | none
  | left
  | right
  | other (text : String)
  deriving Repr, DecidableEq, Inhabited

namespace Inclusivity

def text : Inclusivity → String
  | both => "both"
  | none => "none"
  | left => "left"
  | right => "right"
  | other t => t

/-- The inclusivity with a given text. -/
def ofText (t : String) : Inclusivity :=
  if t = both.text then both
  else if t = none.text then none
  else if t = left.text then left
  else if t = right.text then right
  else other t

/-- The inclusivity of a range whose bounds are each included or not. -/
def ofBounds (low high : Bool) : Inclusivity :=
  if low && high then both else if low then left else if high then right else none

def includesLow : Inclusivity → Bool
  | both | left => true
  | _ => false

def includesHigh : Inclusivity → Bool
  | both | right => true
  | _ => false

theorem includesLow_ofBounds (low high : Bool) : (ofBounds low high).includesLow = low := by
  cases low <;> cases high <;> rfl

theorem includesHigh_ofBounds (low high : Bool) : (ofBounds low high).includesHigh = high := by
  cases low <;> cases high <;> rfl

end Inclusivity

/-- A single term: a word, a phrase or a regular expression. -/
structure Term where
  field : String := implicitField
  text : String
  quoted : Bool := false
  boost : Option Number := none
  /-- the sign in front of the term, `+` or `-` -/
  mark : Option String := none
  regex : Bool := false
  /-- the least similarity of a fuzzy word -/
  similarity : Option Number := none
  /-- how far apart the words of a phrase may stand -/
  proximity : Option Int := none
  deriving Repr, DecidableEq, Inhabited

/-- A range of values between two bounds. -/
structure Range where
  field : String := implicitField
  low : String
  high : String
  inclusive : Inclusivity := .both
  deriving Repr, DecidableEq, Inhabited

/-- What surrounds a group. -/
structure Grouping where
  /-- the field the group is written under -/
  field : Option String := none
  parenthesized : Bool := false
  /-- the operator that opens the group -/
  start : Option Operator := none
  deriving Repr, DecidableEq, Inhabited

/-- A query or a part of one. -/
inductive Tree where
  | term (t : Term)
  | range (r : Range)
  /-- a group of a single clause -/
  | single (left : Tree) (g : Grouping)
  /-- two sides joined by an operator -/
  | binary (left : Tree) (op : Operator) (right : Tree) (g : Grouping)
  deriving Repr, DecidableEq, Inhabited

namespace Tree

/-- What surrounds a group; a leaf has nothing around it. -/
def grouping : Tree → Grouping
  | .term _ | .range _ => {}
  | .single _ g | .binary _ _ _ g => g

/-- The same group with other surroundings; a leaf stays as it is. -/
def regroup (f : Grouping → Grouping) : Tree → Tree
  | .single l g => .single l (f g)
  | .binary l op r g => .binary l op r (f g)
  | t => t

/-- A group of one clause that no operator opens stands for that clause. -/
def collapse : Tree → Tree
  | .single l g => if g.start = none then l else .single l g
  | t => t

end Tree

/-- Whether two optional numbers are both absent or of equal size. -/
def Number.sameOption : Option Number → Option Number → Bool
  | none, none => true
  | some a, some b => a.same b
  | _, _ => false

/-- Whether two terms agree, numbers being compared by size. -/
def Term.same (a b : Term) : Bool :=
  a.field == b.field && a.text == b.text && a.quoted == b.quoted &&
    Number.sameOption a.boost b.boost && a.mark == b.mark && a.regex == b.regex &&
    Number.sameOption a.similarity b.similarity && a.proximity == b.proximity

/-- Whether two trees agree, numbers being compared by size. -/
def Tree.same : Tree → Tree → Bool
  | .term a, .term b => a.same b
  | .range a, .range b => a == b
  | .single l g, .single l' g' => l.same l' && g == g'
  | .binary l op r g, .binary l' op' r' g' => l.same l' && op == op' && r.same r' && g == g'
  | _, _ => false

end SearchFilters
