import SearchFilters.Query.Escape
import SearchFilters.Query.Tree

/-!
# Query — Printer

Trees to query texts.  Printing fails only at a number that has no text.  A group prints its clauses
one after the other: a right side that nothing surrounds continues the row of clauses, any other
right side ends it.
-/

namespace SearchFilters

/-- The field name and colon in front of a clause; the implicit field has none. -/
def fieldText (field : String) : List Char :=
  if field = implicitField then [] else field.toList ++ [':']

/-- A mark and the number after it, if there is a number. -/
def modifierText (mark : Char) : Option Number → Except NumberFault (List Char)
  | none => .ok []
  | some x => (mark :: ·) <$> x.modifierText

/-- The text of a term between its sign and its boost. -/
def Term.core (t : Term) : Except NumberFault (List Char) :=
  if t.regex then .ok ('/' :: t.text.toList ++ ['/'])
  else if t.quoted then
    (('"' :: Query.escapeQuoted t.text.toList ++ ['"']) ++ ·) <$>
      modifierText '~' (t.proximity.map Number.int)
  else if t.text.isEmpty then .ok ['"', '"']
  else (Query.escapeWord t.text.toList ++ ·) <$> modifierText '~' t.similarity

/-- The text of a term. -/
def Term.print (t : Term) : Except NumberFault (List Char) := do
  let core ← t.core
  let boost ← modifierText '^' t.boost
  pure (fieldText t.field ++ (t.mark.getD "").toList ++ core ++ boost)

/-- The text of a range. -/
def Range.print (r : Range) : List Char :=
  fieldText r.field ++ (if r.inclusive.includesLow then '[' else '\x7b') :: r.low.toList ++
    " TO ".toList ++ r.high.toList ++ [if r.inclusive.includesHigh then ']' else '\x7d']

/-- The text of an operator with the blanks around it. -/
def Operator.separator : Operator → List Char
  | .implicit => [' ']
  | op => ' ' :: op.text.toList ++ [' ']

namespace Grouping

/-- Whether nothing surrounds a group, so that it continues the row of clauses it ends. -/
def isBare (g : Grouping) : Bool := g.field.isNone && g.start.isNone && !g.parenthesized

/-- The operator that opens a group, with a blank after it. -/
def startText (g : Grouping) : List Char :=
  match g.start with
  | none => []
  | some op => op.text.toList ++ [' ']

/-- The text of a group whose clauses print as the given text. -/
def wrap (g : Grouping) (clauses : List Char) : List Char :=
  let inner := g.startText ++ clauses
  let inner := if g.parenthesized || g.field.isSome then '(' :: inner ++ [')'] else inner
  (g.field.elim [] fieldText) ++ inner

end Grouping

namespace Tree

/-- The text of printed parts, latest first. -/
def joined (parts : List (List Char)) : List Char := parts.reverse.flatten

mutual

/-- The text of a tree. -/
def chars : Tree → Except NumberFault (List Char)
  | .term t => t.print
  | .range r => .ok r.print
  | .single l g => g.wrap <$> chars l
  | .binary l op r g => do
    let first ← chars l
    let parts ← row [op.separator, first] r
    pure (g.wrap (joined parts))

/-- The parts of a row of clauses with a right side printed after those given, latest first.  The
row goes on into a right side that nothing surrounds; any other right side is its last part. -/
def row (parts : List (List Char)) : Tree → Except NumberFault (List (List Char))
  | .term t => (· :: parts) <$> t.print
  | .range r => .ok (r.print :: parts)
  | .single l g => do
    let first ← chars l
    pure ((if g.isBare then first else g.wrap first) :: parts)
  | .binary l op r g => do
    let first ← chars l
    if g.isBare then row (op.separator :: first :: parts) r
    else do
      let inner ← row [op.separator, first] r
      pure (g.wrap (joined inner) :: parts)

end

/-- The query text of a tree. -/
def print (t : Tree) : Except NumberFault String := String.ofList <$> t.chars

end Tree

/-- The query text of a tree, if there is one; the empty query has the empty text. -/
def printQuery : Option Tree → Except NumberFault String
  | none => .ok ""
  | some t => t.print

end SearchFilters
