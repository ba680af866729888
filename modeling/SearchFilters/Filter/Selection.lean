import SearchFilters.Filter.Deserialize
import SearchFilters.Filter.Serialize

/-!
# Filter — Selection

Whole queries as the filters they assert and the filters they exclude.

* `split`: the filters of a query.
* `build`: the query of some filters, asserted ones first.
-/

namespace SearchFilters

/-- The filters of a query by polarity. -/
structure Selection where
  asserted : List Filter := []
  excluded : List Filter := []

/-- The filters of a query; the empty query has none. -/
def split (t : Option Tree) (registry : Registry) (joiner : Joiner) (maxDepth : Int) :
    Except Refusal Selection :=
  match t with
  | none => .ok {}
  | some t => do
    let asserted ← deserialize t { registry, joiner, asserted := true, maxDepth } true
    let excluded ← deserialize t { registry, joiner, asserted := false, maxDepth } true
    pure { asserted, excluded }

/-- A filter's part of a query with its polarity. -/
structure Item where
  tree : Tree
  asserted : Bool

/-- The operator before an item. -/
def Joiner.before (j : Joiner) (i : Item) : Operator :=
  if i.asserted then j.asserting else j.excluding

/-- The operator that opens a query whose first item is given. -/
def Item.start (i : Item) : Option Operator := if i.asserted then none else some .not

/-- What follows an item in a row: the last item stands for itself. -/
def rowOf (j : Joiner) : Item → List Item → Tree
  | i, [] => i.tree
  | i, next :: rest => .binary i.tree (j.before next) (rowOf j next rest) {}

/-- The query of a row of items. -/
def queryOf (j : Joiner) : List Item → Option Tree
  | [] => none
  | [i] => some (.single i.tree { start := i.start })
  | i :: next :: rest =>
    some (.binary i.tree (j.before next) (rowOf j next rest) { start := i.start })

/-- The parts of a query that express some filters of one polarity. -/
def itemsOf (asserted : Bool) (fs : List Filter) : Except NumberFault (List Item) :=
  fs.mapM fun f => do pure { tree := ← f.serialize, asserted }

/-- The query of some filters; none if there are no filters. -/
def build (s : Selection) (joiner : Joiner) : Except NumberFault (Option Tree) := do
  let asserted ← itemsOf true s.asserted
  let excluded ← itemsOf false s.excluded
  pure (queryOf joiner (asserted ++ excluded))

/-- Whether two selections agree filter by filter. -/
def Selection.same (s t : Selection) : Bool :=
  let sameList (fs gs : List Filter) : Bool :=
    fs.length == gs.length && (fs.zip gs).all fun p => p.1.same p.2
  sameList s.asserted t.asserted && sameList s.excluded t.excluded

end SearchFilters
