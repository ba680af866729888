import SearchFilters.Field.Registry
import SearchFilters.Filter.Deserialize

/-!
# Config — Basic

Configurations, what is wrong with one that cannot be used, and what is doubtful about one that can.
-/

namespace SearchFilters

/-- The fields that queries are split on, and how. -/
structure Config where
  fields : Registry := .implicit
  /-- the operator that joins filters when none is asked for -/
  defaultOperator : String := Joiner.implicit.text
  /-- the depth beyond which a query is not split -/
  maxDepth : Int := defaultMaxDepth
  coloredOutput : Bool := true

/-- What is wrong with a configured value. -/
inductive ConfigFault where
  | notBoolean
  | notString
  | notInteger
  | notPositive
  | notOperator
  | notTables
  | notTable
  | noName
  | notType
  | notLabels
  | notNumber
  | invalid (e : ValidationError)
  deriving Repr, DecidableEq

def ConfigFault.reason : ConfigFault → String
  | notBoolean => "must be a boolean"
  | notString => "must be a string"
  | notInteger => "must be an integer"
  | notPositive => "must be positive"
  | notOperator => "must be one of " ++ ", ".intercalate (Joiner.all.map Joiner.text)
  | notTables => "must be an array of tables"
  | notTable => "must be a table"
  | noName => "must be a non-empty string"
  | notType => "must be one of " ++ ", ".intercalate (FieldType.all.map FieldType.name)
  | notLabels => "must be a table of option labels"
  | notNumber => "must be a number"
  | invalid e => e.message

/-- Why a configuration cannot be used. -/
inductive ConfigError where
  /-- the value under a key is wrong -/
  | value (key : String) (fault : ConfigFault)
  /-- a section that is no table -/
  | unusableSection (name : String)
  /-- the bounds of a field cannot be compared -/
  | incomparableBounds (field : String)
  deriving Repr, DecidableEq

def ConfigError.message : ConfigError → String
  | value key fault => s!"Invalid config value for '{key}': {fault.reason}"
  | unusableSection name => s!"Invalid config section '{name}': must be a table"
  | incomparableBounds field => s!"Invalid bounds of field '{field}'"

/-- What is doubtful about a configuration. -/
inductive ConfigWarning where
  | missingFile (path : String)
  | noFields
  | emptyBounds (field : String) (low high : Datum)

def ConfigWarning.message : ConfigWarning → Except NumberFault String
  | missingFile path =>
    .ok (s!"No config file found at {path}. Using defaults. " ++
      "Create config with: lucene-filters init-config")
  | noFields => .ok "No fields configured; every field-qualified query will be rejected"
  | emptyBounds field low high => do
    let low := String.ofList (← low.text)
    let high := String.ofList (← high.text)
    pure s!"Field '{field}' has min={low} greater than max={high}"

namespace Config

/-- The joiner that is used when none is asked for. -/
def joiner? (c : Config) : Option Joiner := Joiner.ofText? c.defaultOperator

/-- A warning if the lower bound of a field exceeds the upper one. -/
def boundsWarning (f : Field) : Except ConfigError (Option ConfigWarning) :=
  if f.minimum.isNull || f.maximum.isNull then .ok none
  else
    match f.minimum.exceeds? f.maximum with
    | none => .error (.incomparableBounds f.name)
    | some true => .ok (some (.emptyBounds f.name f.minimum f.maximum))
    | some false => .ok none

/-- The warnings about a configuration that can be used. -/
def validate (c : Config) : Except ConfigError (List ConfigWarning) :=
  if c.joiner?.isNone then .error (.value "query.default_operator" .notOperator)
  else if c.maxDepth < 1 then .error (.value "query.max_depth" .notPositive)
  else do
    let bounds ← c.fields.fields.mapM boundsWarning
    pure ((if c.fields.size = 0 then [.noFields] else []) ++ bounds.filterMap id)

end Config
end SearchFilters
