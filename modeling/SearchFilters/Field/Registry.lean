import SearchFilters.Field.Basic
import SearchFilters.Text.Quoted

/-!
# Field — Registry

Ordered collections of fields in which every name stands for one field.
-/

namespace SearchFilters

/-- Fields in order, no two of one name. -/
structure Registry where
  fields : List Field
  nodup : (fields.map Field.name).Nodup

namespace Registry

/-- A registry of the given fields. -/
def ofFields (fields : List Field) : Except ValidationError Registry :=
  if h : (fields.map Field.name).Nodup then .ok ⟨fields, h⟩ else .error .duplicateField

/-- The field of a name. -/
def get? (r : Registry) (name : String) : Option Field := r.fields.find? fun f => f.name == name

def contains (r : Registry) (name : String) : Bool := (r.get? name).isSome

def size (r : Registry) : Nat := r.fields.length

def names (r : Registry) : List String := r.fields.map Field.name

/-- The registry with one more field at its end. -/
def add (r : Registry) (f : Field) : Except ValidationError Registry := ofFields (r.fields ++ [f])

/-- Whether two registries hold fields that agree, in one order. -/
def same (r s : Registry) : Bool :=
  r.size == s.size && (r.fields.zip s.fields).all fun (f, g) => f.same g

/-- The registry in words. -/
def text (r : Registry) : String := "FieldRegistry(" ++ Text.quotedList r.names ++ ")"

/-- The registry of the implicit field alone. -/
def implicit : Registry where
  fields := [{ name := implicitField, displayName := "Default field", type := .string,
               default := .string "", default_type := rfl }]
  nodup := by simp

/-- The field of a name has the name. -/
theorem name_of_get? {r : Registry} {name : String} {f : Field} (h : r.get? name = some f) :
    f.name = name := by
  simpa using List.find?_some h

/-- The field of a name is one of the registry. -/
theorem mem_of_get? {r : Registry} {name : String} {f : Field} (h : r.get? name = some f) :
    f ∈ r.fields :=
  List.mem_of_find?_eq_some h

end Registry
end SearchFilters
