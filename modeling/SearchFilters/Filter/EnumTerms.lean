import SearchFilters.Filter.Rejection

/-!
# Filter — EnumTerms

The values of an enum group such as `color:(red OR blue)`.
-/

namespace SearchFilters

/-- The text of a clause of an enum group: a term without field and modifiers. -/
def plainTerm : Tree → Except Rejection String
  | .range _ => .error .rangeInEnum
  | .single _ _ | .binary _ _ _ _ => .error .groupInEnum
  | .term t =>
    if t.field ≠ implicitField then .error (.fieldInEnum t.field)
    else
      match t.modifier? with
      | some m => .error (.modifier m)
      | none => .ok t.text

/-- The terms of an enum group in their order.  The group has to be a row of plain terms joined by
`OR`; groups on the right continue the row. -/
def enumTerms : Tree → Except Rejection (List String)
  | .single l _ => do pure [← plainTerm l]
  | .binary l op r _ => do
    let first ← plainTerm l
    if op ≠ .or then .error (.operatorInEnum op)
    else pure (first :: (← enumTerms r))
  | t => do pure [← plainTerm t]

end SearchFilters
