import SearchFilters.Field.Registry
import SearchFilters.Number.Reading
import SearchFilters.Text.Blank
import SearchFilters.Text.Split

/-!
# Filter — Assignment

Filters as `FIELD=VALUE` texts: strings as they are, numbers as decimals, booleans as `true` and
`false`, ranges as `MIN..MAX`, and enum values as option keys between commas.
-/

namespace SearchFilters

/-- Why a text gives no value. -/
inductive AssignmentError where
  | invalid (e : ValidationError)
  | number (f : NumberFault)
  deriving Repr, DecidableEq

namespace Value

/-- Separates the bounds of a range. -/
def rangeSeparator : List Char := ['.', '.']

/-- An integer numeral. -/
def readInteger (s : List Char) : Except AssignmentError (Option Int) :=
  (Numeral.read s).mapError AssignmentError.number

/-- The value of a type that a text stands for, if any. -/
def read (t : FieldType) (s : List Char) : Except AssignmentError (Option Value) :=
  match t with
  | .string => .ok (some (.string (String.ofList s)))
  | .integer => do pure ((← readInteger s).map .integer)
  | .float => .ok ((Binary64.read s).map fun x => .float (.float x))
  | .boolean =>
    .ok (if s = "true".toList then some (.boolean true)
      else if s = "false".toList then some (.boolean false)
      else none)
  | .integerRange =>
    match Text.cut? rangeSeparator s with
    | none => .ok none
    | some (l, h) => do
      let low ← readInteger l
      let high ← readInteger h
      pure (do pure (.integerRange (← low) (← high)))
  | .floatRange =>
    match Text.cut? rangeSeparator s with
    | none => .ok none
    | some (l, h) => .ok (do
      let low ← Binary64.read l
      let high ← Binary64.read h
      pure (.floatRange (.float low) (.float high)))
  | .enum =>
    let items := ((Text.splitAll ',' s).map Text.trim).filter fun item => !item.isEmpty
    .ok (some (.enum (items.map String.ofList)))

/-- **A text that is read for a type gives a value of the type.** -/
theorem type_of_read {t : FieldType} {s : List Char} {v : Value} (h : read t s = .ok (some v)) :
    v.type = t := by
  cases t with
  | string => cases h; rfl
  | integer =>
    simp only [read, bind, Except.bind, pure, Except.pure] at h
    split at h
    · cases h
    · next i _ =>
      simp only [Except.ok.injEq, Option.map_eq_some_iff] at h
      obtain ⟨_, -, rfl⟩ := h; rfl
  | float =>
    simp only [read, Except.ok.injEq, Option.map_eq_some_iff] at h
    obtain ⟨_, -, rfl⟩ := h; rfl
  | boolean =>
    simp only [read, Except.ok.injEq] at h
    split at h
    · cases h; rfl
    · split at h
      · cases h; rfl
      · cases h
  | integerRange =>
    simp only [read] at h
    split at h
    · cases h
    · simp only [bind, Except.bind, pure, Except.pure] at h
      split at h
      · cases h
      · split at h
        · cases h
        · simp only [Except.ok.injEq, Option.bind_eq_some_iff, Option.some.injEq] at h
          obtain ⟨_, -, _, -, rfl⟩ := h; rfl
  | floatRange =>
    simp only [read] at h
    split at h
    · cases h
    · simp only [Except.ok.injEq, Option.bind_eq_bind, Option.bind_eq_some_iff, Option.pure_def,
        Option.some.injEq] at h
      obtain ⟨_, -, _, -, rfl⟩ := h; rfl
  | enum => cases h; rfl

/-- The text of a value. -/
def format : Value → Except NumberFault (List Char)
  | .string s => .ok s.toList
  | .integer i => Numeral.write i
  | .float x => x.text
  | .boolean b => .ok (if b then "true" else "false").toList
  | .integerRange low high => do
    pure ((← Numeral.write low) ++ rangeSeparator ++ (← Numeral.write high))
  | .floatRange low high => do pure ((← low.text) ++ rangeSeparator ++ (← high.text))
  | .enum items => .ok ([','].intercalate (items.map String.toList))

end Value

namespace Filter

/-- The filter on a field whose value a text stands for. -/
def ofText (f : Field) (text : String) : Except AssignmentError Filter :=
  match h : Value.read f.type text.toList with
  | .error e => .error e
  | .ok none => .error (.invalid (.unreadableValue f.name f.type))
  | .ok (some v) => .ok ⟨f, v, Value.type_of_read h⟩

/-- The filter that an assignment stands for. -/
def ofAssignment (r : Registry) (text : String) : Except AssignmentError Filter :=
  match Text.cut? ['='] text.toList with
  | none | some ([], _) => .error (.invalid .malformedAssignment)
  | some (name, value) =>
    match r.get? (String.ofList name) with
    | none => .error (.invalid (.unknownField (String.ofList name)))
    | some f => ofText f (String.ofList value)

end Filter
end SearchFilters
