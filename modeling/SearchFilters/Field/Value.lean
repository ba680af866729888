import SearchFilters.Field.Datum

/-!
# Field — Value

The types of fields and the values they hold.  `Value.ofDatum?` accepts a datum as a value of a
type, `Value.toDatum` shows a value as a datum.
-/

namespace SearchFilters

/-- The type of a field's values. -/
inductive FieldType where
  | string
  | integer
  | float
  | integerRange
  | floatRange
  | boolean
  | enum
  deriving Repr, DecidableEq

namespace FieldType

def all : List FieldType := [string, integer, float, integerRange, floatRange, boolean, enum]

def name : FieldType → String
  | string => "string"
  | integer => "integer"
  | float => "float"
  | integerRange => "integer-range"
  | floatRange => "float-range"
  | boolean => "boolean"
  | enum => "enum"

/-- The type of a given name. -/
def ofName? (n : String) : Option FieldType := all.find? fun t => t.name == n

def isRange : FieldType → Bool
  | integerRange | floatRange => true
  | _ => false

/-- Whether values are single numbers. -/
def isNumeric : FieldType → Bool
  | integer | float => true
  | _ => false

/-- What a value of the type has to be, in messages. -/
def requirement : FieldType → String
  | string => "must be a string"
  | integer => "must be an integer"
  | float => "must be a number"
  | integerRange => "must be a pair of integers"
  | floatRange => "must be a pair of numbers"
  | boolean => "must be a boolean"
  | enum => "must be a list of strings"

/-- Every type is found by its name. -/
theorem ofName?_name (t : FieldType) : ofName? t.name = some t := by
  cases t <;> decide

end FieldType

/-- A value of a field. -/
inductive Value where
  | string (s : String)
  | integer (i : Int)
  /-- a number; an integer stays one -/
  | float (x : Number)
  | integerRange (low high : Int)
  | floatRange (low high : Number)
  | boolean (b : Bool)
  /-- the selected option keys -/
  | enum (items : List String)
  deriving Repr, DecidableEq

namespace Value

def type : Value → FieldType
  | string _ => .string
  | integer _ => .integer
  | float _ => .float
  | integerRange _ _ => .integerRange
  | floatRange _ _ => .floatRange
  | boolean _ => .boolean
  | enum _ => .enum

/-- The value a field starts with when none is given. -/
def empty : FieldType → Value
  | .string => string ""
  | .integer => integer 0
  | .float => float (.float (.zero false))
  | .integerRange => integerRange 0 0
  | .floatRange => floatRange (.float (.zero false)) (.float (.zero false))
  | .boolean => boolean false
  | .enum => enum []

/-- The two items of a list or tuple of two. -/
def pair? (d : Datum) : Option (Datum × Datum) :=
  match d.items? with
  | some [a, b] => some (a, b)
  | _ => none

/-- A datum as a value of a type, if it is one. -/
def ofDatum? (t : FieldType) (d : Datum) : Option Value :=
  match t with
  | .string => d.string?.map string
  | .integer => d.int?.map integer
  | .float => d.finite?.map float
  | .integerRange => do
    let (a, b) ← pair? d
    pure (integerRange (← a.int?) (← b.int?))
  | .floatRange => do
    let (a, b) ← pair? d
    pure (floatRange (← a.finite?) (← b.finite?))
  | .boolean =>
    match d with
    | .bool b => some (boolean b)
    | _ => none
  | .enum => do
    let items ← d.items?
    pure (enum (← items.mapM Datum.string?))

/-- A value as a datum. -/
def toDatum : Value → Datum
  | string s => .string s
  | integer i => .int i
  | float x => .number x
  | integerRange low high => .tuple [.int low, .int high]
  | floatRange low high => .tuple [.number low, .number high]
  | boolean b => .bool b
  | enum items => .tuple (items.map .string)

/-- Whether two values agree, numbers being compared by size. -/
def same (v w : Value) : Bool := v.type == w.type && v.toDatum.same w.toDatum

/-- The value that a type starts with is of the type. -/
theorem type_empty (t : FieldType) : (empty t).type = t := by cases t <;> rfl

/-- **A datum that is accepted for a type gives a value of the type.** -/
theorem type_of_ofDatum? {t : FieldType} {d : Datum} {v : Value} (h : ofDatum? t d = some v) :
    v.type = t := by
  cases t <;> simp only [ofDatum?, Option.map_eq_some_iff, Option.bind_eq_bind,
    Option.bind_eq_some_iff, Option.pure_def, Option.some.injEq] at h
  · obtain ⟨_, -, rfl⟩ := h; rfl
  · obtain ⟨_, -, rfl⟩ := h; rfl
  · obtain ⟨_, -, rfl⟩ := h; rfl
  · obtain ⟨_, -, _, -, _, -, rfl⟩ := h; rfl
  · obtain ⟨_, -, _, -, _, -, rfl⟩ := h; rfl
  · split at h
    · cases h; rfl
    · cases h
  · obtain ⟨_, -, _, -, rfl⟩ := h; rfl

end Value
end SearchFilters
