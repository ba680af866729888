import SearchFilters.Query.Tree
import SearchFilters.Text.Quoted

/-!
# Filter — Joiner

The operators that filters may be joined with.  Each has a negated form, which joins a filter that
is excluded.
-/

namespace SearchFilters

/-- An operator that joins asserted filters. -/
inductive Joiner where
  | implicit
  | and
  | or
  deriving Repr, DecidableEq

namespace Joiner

def all : List Joiner := [implicit, and, or]

/-- The operator before an asserted filter. -/
def asserting : Joiner → Operator
  | implicit => .implicit
  | and => .and
  | or => .or

/-- The operator before an excluded filter. -/
def excluding : Joiner → Operator
  | implicit => .not
  | and => .andNot
  | or => .orNot

def text (j : Joiner) : String := j.asserting.text

/-- The joiner of a given text. -/
def ofText? (t : String) : Option Joiner := all.find? fun j => j.text == t

/-- The name that a joiner is asked for by. -/
def name : Joiner → String
  | implicit => "implicit"
  | and => "and"
  | or => "or"

/-- The joiner of a given name in any case. -/
def ofName? (n : String) : Option Joiner := all.find? fun j => j.name == n.toLower

/-- The wording of a text that is no joiner. -/
def unknownMessage (t : String) : String := "Not a positive operator: " ++ Text.quotedText t

end Joiner
end SearchFilters
