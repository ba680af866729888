import SearchFilters.Field.Error

/-!
# Field — Basic

Fields that queries may be split on.  `Field.make` checks the rules of a field: a known type, a
name, strings only in the implicit field, options only in enum fields, and a default value of the
field's type.
-/

namespace SearchFilters

/-- A field that filters may refer to. -/
structure Field where
  /-- the name as queries write it -/
  name : String
  displayName : String
  type : FieldType
  /-- the value a new filter starts with -/
  default : Value
  /-- the lower bound offered to editors, null if there is none -/
  minimum : Datum := .null
  /-- the upper bound offered to editors, null if there is none -/
  maximum : Datum := .null
  /-- option keys with their labels -/
  options : List (String × String) := []
  /-- whether an editor should offer autocompletion -/
  autocomplete : Bool := false
  default_type : default.type = type

namespace Field

/-- A field from its parts, or the first rule that they break. -/
def make (name displayName typeName : String) (default minimum maximum : Datum)
    (options : List (String × String)) (autocomplete : Bool) : Except ValidationError Field :=
  match FieldType.ofName? typeName with
  | none => .error (.unknownType name)
  | some type =>
    if name.isEmpty then .error .emptyName
    else if name = implicitField ∧ type ≠ .string then .error .implicitType
    else if !options.isEmpty ∧ type ≠ .enum then .error (.unexpectedOptions name)
    else
      match h : Value.ofDatum? type default with
      | none => .error (.unfitValue name type)
      | some value =>
        .ok { name, displayName, type, default := value, minimum, maximum, options, autocomplete,
              default_type := Value.type_of_ofDatum? h }

def optionKeys (f : Field) : List String := f.options.map Prod.fst

/-- The label of an option key, its last one if there are several; a key without a label is its own
label. -/
def labelFor (f : Field) (key : String) : String :=
  ((f.options.reverse.find? fun o => o.1 == key).map Prod.snd).getD key

/-- Whether two fields agree, numbers being compared by size. -/
def same (f g : Field) : Bool :=
  f.name == g.name && f.displayName == g.displayName && f.default.same g.default &&
    f.minimum.same g.minimum && f.maximum.same g.maximum && f.options == g.options &&
    f.autocomplete == g.autocomplete

end Field

/-- A constraint on a field: a value of the field's type. -/
structure Filter where
  field : Field
  value : Value
  fits : value.type = field.type

namespace Filter

/-- A filter from a field and a datum. -/
def make (field : Field) (d : Datum) : Except ValidationError Filter :=
  match h : Value.ofDatum? field.type d with
  | none => .error (.unfitValue field.name field.type)
  | some value => .ok ⟨field, value, Value.type_of_ofDatum? h⟩

/-- The selected values of an enum filter that are no option keys of its field; a field without
options knows every value. -/
def unknownOptions (f : Filter) : List String :=
  match f.value with
  | .enum items =>
    if f.field.options.isEmpty then []
    else items.filter fun item => !f.field.optionKeys.contains item
  | _ => []

/-- Whether two filters on fields of one registry agree. -/
def same (f g : Filter) : Bool := f.field.name == g.field.name && f.value.same g.value

end Filter
end SearchFilters
