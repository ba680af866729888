import SearchFilters.Query.Tree

/-!
# Filter — Rejection

Why a query cannot be expressed as filters, with the wording of every cause.
-/

namespace SearchFilters

/-- A modifier of a term that no filter has. -/
inductive Modifier where
  | boost
  | mark (sign : String)
  | regex
  | similarity
  | proximity
  deriving Repr, DecidableEq

namespace Modifier

def text : Modifier → String
  | boost => "boost"
  | mark sign => s!"'{sign}' prefix"
  | regex => "regular expression"
  | similarity => "fuzzy similarity"
  | proximity => "proximity"

end Modifier

/-- The first modifier of a term. -/
def Term.modifier? (t : Term) : Option Modifier :=
  if t.boost.isSome then some .boost
  else
    match t.mark with
    | some sign => some (.mark sign)
    | none =>
      if t.regex then some .regex
      else if t.similarity.isSome then some .similarity
      else if t.proximity.isSome then some .proximity
      else none

/-- A query outside the part of the language that filters cover. -/
inductive Rejection where
  | modifier (m : Modifier)
  | unknownField (name : String)
  | rangeNotAccepted (field : String)
  | exclusiveBounds
  | rangeNotNumeric (low high field : String)
  | rangeRequired (field : String)
  | notInteger (text field : String)
  | notNumber (text field : String)
  | notBoolean (text field : String)
  | groupNotAccepted (field : String)
  | tooDeep (maxDepth : Int)
  | nestedGroup
  | operator (op : Operator)
  | rangeInEnum
  | groupInEnum
  | fieldInEnum (name : String)
  | operatorInEnum (op : Operator)
  deriving Repr, DecidableEq

/-- The wording of a rejection. -/
def Rejection.reason : Rejection → String
  | modifier m => s!"{m.text} is not supported"
  | unknownField name => s!"unknown field '{name}'"
  | rangeNotAccepted field => s!"field '{field}' does not accept a range"
  | exclusiveBounds => "exclusive range bounds are not supported"
  | rangeNotNumeric low high field => s!"range [{low} TO {high}] is not numeric for field '{field}'"
  | rangeRequired field => s!"field '{field}' requires a range"
  | notInteger text field => s!"'{text}' is not an integer for field '{field}'"
  | notNumber text field => s!"'{text}' is not a number for field '{field}'"
  | notBoolean text field => s!"'{text}' is not a boolean for field '{field}'"
  | groupNotAccepted field => s!"field '{field}' does not accept a parenthesized group"
  | tooDeep maxDepth => s!"query nesting exceeds {maxDepth} levels"
  | nestedGroup => "nested groups are not supported"
  | operator op => s!"operator '{op.text}' is not supported here"
  | rangeInEnum => "ranges are not allowed inside an enum group"
  | groupInEnum => "nested groups are not allowed inside an enum group"
  | fieldInEnum name => s!"field '{name}' is not allowed inside an enum group"
  | operatorInEnum op => s!"operator '{op.text}' is not allowed inside an enum group"

/-- Why filters are not extracted: the query is rejected, or a number is beyond reading or
writing. -/
inductive Refusal where
  | rejected (r : Rejection)
  | number (f : NumberFault)
  deriving Repr, DecidableEq

/-- What becomes of a query that nests deeper than a limit.  The rejection names the limit, which
therefore has to be written. -/
def Refusal.tooDeep (maxDepth : Int) : Refusal :=
  match Numeral.write maxDepth with
  | .ok _ => .rejected (.tooDeep maxDepth)
  | .error f => .number f

end SearchFilters
