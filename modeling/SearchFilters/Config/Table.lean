import SearchFilters.Config.Basic
import SearchFilters.Field.Entries
import SearchFilters.Text.Split

/-!
# Config — Table

Configurations as tables of data.  `Config.ofTable` reads a table, `Config.toTable` makes one.
-/

namespace SearchFilters

/-- The default value of a field as a table holds it, pairs and selections being lists. -/
def Value.toListed (v : Value) : Datum :=
  match v.toDatum with
  | .tuple xs => .list xs
  | d => d

namespace Field

/-- A bound of a field, null if there is none. -/
def boundOf (key : String) : Option Datum → Except ConfigError Datum
  | none | some .null => .ok .null
  | some (.number n) => .ok (.number n)
  | some _ => .error (.value key .notNumber)

/-- The labels of the options in a table. -/
def labelsOf (key : String) : Option Datum → Except ConfigError (List (String × String))
  | none => .ok []
  | some (.table es) =>
    match es.mapM fun e => e.2.string?.map (Prod.mk e.1) with
    | some options => .ok options
    | none => .error (.value key .notLabels)
  | some _ => .error (.value key .notLabels)

/-- The field that a table describes, at its place in the list of fields. -/
def ofTable (index : Nat) : Datum → Except ConfigError Field
  | .table es => do
    let place := s!"fields[{index}]"
    let name ← match Datum.get? es "name" with
      | some (.string n) =>
        if n.isEmpty then .error (.value (place ++ ".name") .noName) else .ok n
      | _ => .error (.value (place ++ ".name") .noName)
    let type ← match Datum.get? es "type" with
      | none => .ok FieldType.string
      | some (.string t) =>
        match FieldType.ofName? t with
        | some type => .ok type
        | none => .error (.value (place ++ ".type") .notType)
      | some _ => .error (.value (place ++ ".type") .notType)
    let displayName ← match Datum.get? es "display_name" with
      | none => .ok name
      | some (.string s) => .ok s
      | some _ => .error (.value (place ++ ".display_name") .notString)
    let options ← labelsOf (place ++ ".options") (Datum.get? es "options")
    let autocomplete ← match Datum.get? es "autocomplete" with
      | none => .ok false
      | some (.bool b) => .ok b
      | some _ => .error (.value (place ++ ".autocomplete") .notBoolean)
    let default := (Datum.get? es "default").getD (Value.empty type).toDatum
    let minimum ← boundOf (place ++ ".min") (Datum.get? es "min")
    let maximum ← boundOf (place ++ ".max") (Datum.get? es "max")
    match make name displayName type.name default minimum maximum options autocomplete with
    | .ok f => .ok f
    | .error e => .error (.value place (.invalid e))
  | _ => .error (.value s!"fields[{index}]" .notTable)

/-- The entry of a bound, if there is one. -/
def boundEntry (key : String) (bound : Datum) : List (String × Datum) :=
  if bound.isNull then [] else [(key, bound)]

/-- The table that describes a field.  Only enum fields have options and autocompletion. -/
def toTable (f : Field) : Datum :=
  let choices : List (String × Datum) :=
    if f.type = .enum then
      ("autocomplete", .bool f.autocomplete) ::
        (if f.options.isEmpty then []
        else [("options", .table (mergeEntries (f.options.map fun o => (o.1, .string o.2))))])
    else []
  .table ([("name", .string f.name), ("display_name", .string f.displayName),
    ("type", .string f.type.name), ("default", f.default.toListed)] ++
    boundEntry "min" f.minimum ++ boundEntry "max" f.maximum ++ choices)

end Field

namespace Config

/-- The value under a key of a section.  A section that is no table counts as empty if it is a list
or a text in which the key does not occur. -/
def valueIn (es : List (String × Datum)) (name key : String) :
    Except ConfigError (Option Datum) :=
  match Datum.get? es name with
  | none => .ok none
  | some (.table sub) => .ok (Datum.get? sub key)
  | some (.list xs) | some (.tuple xs) =>
    if xs.any fun x => x.string? == some key then .error (.unusableSection name) else .ok none
  | some (.string s) =>
    if (Text.cut? key.toList s.toList).isSome then .error (.unusableSection name) else .ok none
  | some _ => .error (.unusableSection name)

/-- The registry of a list of tables. -/
def fieldsOf : Option Datum → Except ConfigError Registry
  | none => .ok .implicit
  | some (.list xs) => do
    let fields ← xs.zipIdx.mapM fun (x, i) => Field.ofTable i x
    match Registry.ofFields fields with
    | .ok r => .ok r
    | .error e => .error (.value "fields" (.invalid e))
  | some _ => .error (.value "fields" .notTables)

/-- The configuration in a table; what the table does not mention stays as usual. -/
def ofTable (es : List (String × Datum)) : Except ConfigError Config := do
  let coloredOutput ← match ← valueIn es "display" "colored_output" with
    | none => .ok true
    | some (.bool b) => .ok b
    | some _ => .error (.value "display.colored_output" .notBoolean)
  let defaultOperator ← match ← valueIn es "query" "default_operator" with
    | none => .ok Joiner.implicit.text
    | some (.string s) => .ok s
    | some _ => .error (.value "query.default_operator" .notString)
  let maxDepth ← match ← valueIn es "query" "max_depth" with
    | none => .ok defaultMaxDepth
    | some (.number (.int i)) => .ok i
    | some _ => .error (.value "query.max_depth" .notInteger)
  let fields ← fieldsOf (Datum.get? es "fields")
  pure { fields, defaultOperator, maxDepth, coloredOutput }

/-- The table of a configuration. -/
def toTable (c : Config) : List (String × Datum) :=
  [("display", .table [("colored_output", .bool c.coloredOutput)]),
   ("query", .table [("default_operator", .string c.defaultOperator),
      ("max_depth", .int c.maxDepth)]),
   ("fields", .list (c.fields.fields.map Field.toTable))]

end Config
end SearchFilters
