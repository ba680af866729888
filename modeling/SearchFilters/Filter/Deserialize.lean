import SearchFilters.Field.Registry
import SearchFilters.Filter.EnumTerms
import SearchFilters.Filter.Joiner
import SearchFilters.Number.Reading

/-!
# Filter — Deserialize

Filters out of queries.  A query nests to the right: each group has a filter on its left and the
rest of the filters on its right.  Whether the first filter of a side has the wanted polarity is
decided by what stands before it: the operator that opens the whole query, or the operator that
joins the side.  Whatever no filter can express rejects the query.
-/

namespace SearchFilters

/-- What to extract. -/
structure Request where
  registry : Registry
  joiner : Joiner
  /-- asserted filters if true, excluded ones otherwise -/
  asserted : Bool
  maxDepth : Int

/-- An integer in a query text. -/
def readInteger (text : String) : Except Refusal (Option Int) :=
  (Numeral.read text.toList).mapError Refusal.number

/-- A number in a query text. -/
def readNumber (text : String) : Option Number :=
  (Binary64.read text.toList).map Number.float

/-- The filter of a range on a field. -/
def rangeFilter (r : Range) (f : Field) : Except Refusal Filter :=
  if r.inclusive ≠ .both ∧ f.type.isRange then .error (.rejected .exclusiveBounds)
  else
    match h : f.type with
    | .integerRange => do
      let low ← readInteger r.low
      let high ← readInteger r.high
      match low, high with
      | some a, some b => pure ⟨f, .integerRange a b, h.symm⟩
      | _, _ => .error (.rejected (.rangeNotNumeric r.low r.high f.name))
    | .floatRange =>
      match readNumber r.low, readNumber r.high with
      | some a, some b => .ok ⟨f, .floatRange a b, h.symm⟩
      | _, _ => .error (.rejected (.rangeNotNumeric r.low r.high f.name))
    | _ => .error (.rejected (.rangeNotAccepted f.name))

/-- The filter of a term on a field. -/
def termFilter (t : Term) (f : Field) : Except Refusal Filter :=
  match h : f.type with
  | .string => .ok ⟨f, .string t.text, h.symm⟩
  | .integer => do
    match ← readInteger t.text with
    | some i => pure ⟨f, .integer i, h.symm⟩
    | none => .error (.rejected (.notInteger t.text f.name))
  | .float =>
    match readNumber t.text with
    | some x => .ok ⟨f, .float x, h.symm⟩
    | none => .error (.rejected (.notNumber t.text f.name))
  | .boolean =>
    if t.text = "true" then .ok ⟨f, .boolean true, h.symm⟩
    else if t.text = "false" then .ok ⟨f, .boolean false, h.symm⟩
    else .error (.rejected (.notBoolean t.text f.name))
  | .enum => .ok ⟨f, .enum [t.text], h.symm⟩
  | .integerRange | .floatRange => .error (.rejected (.rangeRequired f.name))

/-- The filter of a group written under a field. -/
def groupFilter (t : Tree) (f : Field) : Except Refusal Filter :=
  if h : f.type = .enum then
    match enumTerms t with
    | .ok items => .ok ⟨f, .enum items, h.symm⟩
    | .error r => .error (.rejected r)
  else .error (.rejected (.groupNotAccepted f.name))

/-- The field a query names. -/
def Registry.find (r : Registry) (name : String) : Except Refusal Field :=
  match r.get? name with
  | some f => .ok f
  | none => .error (.rejected (.unknownField name))

/-- The filter of a clause: a leaf, or a group written under the given field. -/
def clauseFilter (r : Registry) : Tree → Except Refusal Filter
  | .term t =>
    match t.modifier? with
    | some m => .error (.rejected (.modifier m))
    | none => r.find t.field >>= termFilter t
  | .range x => r.find x.field >>= rangeFilter x
  | .single l g => r.find (g.field.getD implicitField) >>= groupFilter (.single l g)
  | .binary l op s g => r.find (g.field.getD implicitField) >>= groupFilter (.binary l op s g)

namespace Request

/-- Whether the first filter of a right side is left out; none if the operator joins no filters. -/
def dropsAfter? (q : Request) (op : Operator) : Option Bool :=
  if op = q.joiner.asserting then some !q.asserted
  else if op = q.joiner.excluding then some q.asserted
  else none

/-- Whether the first filter of a query is left out. -/
def dropsFirst (q : Request) (g : Grouping) : Bool := q.asserted == (g.start == some .not)

/-- Without its first item if told so. -/
def keep (drop : Bool) (fs : List Filter) : List Filter := if drop then fs.tail else fs

/-- The filters of a part of a query that lies at the given depth. -/
def walk (q : Request) (topLevel : Bool) (depth : Nat) : Tree → Except Refusal (List Filter)
  | .term t =>
    if q.maxDepth < depth then .error (.tooDeep q.maxDepth)
    else do pure [← clauseFilter q.registry (.term t)]
  | .range r =>
    if q.maxDepth < depth then .error (.tooDeep q.maxDepth)
    else do pure [← clauseFilter q.registry (.range r)]
  | .single l g =>
    if q.maxDepth < depth then .error (.tooDeep q.maxDepth)
    else if g.field.isSome then do pure [← clauseFilter q.registry (.single l g)]
    else if g.parenthesized then .error (.rejected .nestedGroup)
    else do
      let left ← q.walk false (depth + 1) l
      pure (keep (topLevel && q.dropsFirst g) left)
  | .binary l op r g =>
    if q.maxDepth < depth then .error (.tooDeep q.maxDepth)
    else if g.field.isSome then do pure [← clauseFilter q.registry (.binary l op r g)]
    else if g.parenthesized then .error (.rejected .nestedGroup)
    else do
      let left ← q.walk false (depth + 1) l
      let right ← q.walk false (depth + 1) r
      -- a fault on either side is reported before one of the operator
      match q.dropsAfter? op with
      | none => .error (.rejected (.operator op))
      | some drop => pure (keep (topLevel && q.dropsFirst g) left ++ keep drop right)

end Request

/-- How deep a query may nest unless told otherwise. -/
def defaultMaxDepth : Int := 256

/-- The filters of one polarity, in their order. -/
def deserialize (t : Tree) (q : Request) (topLevel : Bool) : Except Refusal (List Filter) :=
  q.walk topLevel 0 t

end SearchFilters
