import SearchFilters.Field.Basic
import SearchFilters.Text.Blank

/-!
# Filter — Serialize

Filters as parts of queries: ranges for range fields, a group joined by `OR` for enum fields and a
single term for every other field.
-/

namespace SearchFilters

/-- Whether a word has to be quoted to stay one term of a query. -/
def needsQuoting (s : List Char) : Bool :=
  s.head? == some '+' || s.head? == some '-' ||
    s.any fun c => Text.isBlank c || "/~^:()\x7b\x7d[]".toList.contains c

/-- A term, quoted if its text needs it. -/
def plainTermOf (field text : String) (quoted : Bool) : Term :=
  { field, text, quoted := quoted || text.isEmpty || needsQuoting text.toList }

/-- The term of an enum item. -/
def enumTerm (item : String) : Tree := .term (plainTermOf implicitField item false)

/-- A row of enum items joined by `OR`, the last one in a group of its own. -/
def enumChain : String → List String → Tree
  | item, [] => .single (enumTerm item) {}
  | item, next :: rest => .binary (enumTerm item) .or (enumChain next rest) {}

/-- The group of the selected values of an enum field; nothing selected is the empty term. -/
def enumGroup (field : String) (items : List String) : Tree :=
  let g : Grouping := { field := some field, parenthesized := true }
  match items with
  | [] => .single (enumTerm "") g
  | [item] => .single (enumTerm item) g
  | item :: next :: rest => .binary (enumTerm item) .or (enumChain next rest) g

/-- The part of a query that expresses a filter. -/
def Filter.serialize (f : Filter) : Except NumberFault Tree :=
  let name := f.field.name
  match f.value with
  | .string s => .ok (.term (plainTermOf name s false))
  | .boolean b => .ok (.term (plainTermOf name (if b then "true" else "false") false))
  | .enum items => .ok (enumGroup name items)
  | .integer i => do
    let s ← Numeral.write i
    pure (.term (plainTermOf name (String.ofList s) (decide (i < 0))))
  | .float x => do
    let s ← x.text
    pure (.term (plainTermOf name (String.ofList s) x.isNegative))
  | .integerRange low high => do
    let l ← Numeral.write low
    let h ← Numeral.write high
    pure (.range { field := name, low := String.ofList l, high := String.ofList h })
  | .floatRange low high => do
    let l ← low.text
    let h ← high.text
    pure (.range { field := name, low := String.ofList l, high := String.ofList h })

namespace Filter
variable {f : Filter} {s l u : List Char}

/-- The clause of an integer that can be written; a negative one is quoted, as its sign would be
taken for that of the clause. -/
theorem serialize_integer {i : Int} (hv : f.value = .integer i) (hs : Numeral.write i = .ok s) :
    f.serialize =
      .ok (.term (plainTermOf f.field.name (String.ofList s) (decide (i < 0)))) := by
  simp only [serialize, hv, hs]
  rfl

/-- The clause of a number that can be written, quoted if it has a sign. -/
theorem serialize_float {x : Number} (hv : f.value = .float x) (hs : x.text = .ok s) :
    f.serialize = .ok (.term (plainTermOf f.field.name (String.ofList s) x.isNegative)) := by
  simp only [serialize, hv, hs]
  rfl

/-- The clause of a range of integers, both of which can be written. -/
theorem serialize_integerRange {low high : Int} (hv : f.value = .integerRange low high)
    (hl : Numeral.write low = .ok l) (hu : Numeral.write high = .ok u) :
    f.serialize =
      .ok (.range { field := f.field.name, low := String.ofList l, high := String.ofList u }) := by
  simp only [serialize, hv, hl, hu]
  rfl

/-- The clause of a range of numbers, both of which can be written. -/
theorem serialize_floatRange {low high : Number} (hv : f.value = .floatRange low high)
    (hl : low.text = .ok l) (hu : high.text = .ok u) :
    f.serialize =
      .ok (.range { field := f.field.name, low := String.ofList l, high := String.ofList u }) := by
  simp only [serialize, hv, hl, hu]
  rfl

end Filter
end SearchFilters
