import SearchFilters.Field.Value
import SearchFilters.Query.Tree

/-!
# Field — Error

Why a field, a registry or a filter cannot be built, with the wording of every cause.
-/

namespace SearchFilters

/-- What a text has to be to give a value of a type. -/
def FieldType.textRequirement : FieldType → String
  | .boolean => "must be 'true' or 'false'"
  | .integerRange | .floatRange => "must be written as MIN..MAX"
  | t => t.requirement

/-- A field, registry or filter that cannot be built. -/
inductive ValidationError where
  | unknownType (field : String)
  | emptyName
  /-- the implicit field holds strings only -/
  | implicitType
  /-- a field that is no enum has options -/
  | unexpectedOptions (field : String)
  /-- a datum is no value of the field -/
  | unfitValue (field : String) (type : FieldType)
  /-- a text gives no value of the field -/
  | unreadableValue (field : String) (type : FieldType)
  | duplicateField
  /-- a filter is not written as an assignment -/
  | malformedAssignment
  | unknownField (name : String)
  /-- an option has no key -/
  | malformedOption
  deriving Repr, DecidableEq

/-- The wording of an error. -/
def ValidationError.message : ValidationError → String
  | unknownType field => s!"Invalid type of field '{field}': unknown field type"
  | emptyName => "Invalid field name: must not be empty"
  | implicitType =>
    s!"Invalid type of field '{implicitField}': the implicit field must be a string"
  | unexpectedOptions field => s!"Invalid options of field '{field}': only enum fields have options"
  | unfitValue field type => s!"Invalid value for field '{field}': {type.requirement}"
  | unreadableValue field type => s!"Invalid value for field '{field}': {type.textRequirement}"
  | duplicateField => "Invalid field registry: duplicate field name"
  | malformedAssignment => "Invalid filter: must be written as FIELD=VALUE"
  | unknownField name => s!"Invalid filter: unknown field '{name}'"
  | malformedOption => "Invalid option: must be written as KEY=LABEL"

end SearchFilters
