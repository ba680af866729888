import SearchFilters.Cli.Loading
import SearchFilters.Config.Example
import SearchFilters.Console.Json
import SearchFilters.Console.Table
import SearchFilters.Filter.Assignment

/-!
# Cli — Fields

The commands that list the fields of a configuration, declare one more, and write a configuration to
start from.
-/

namespace SearchFilters.Cli

/-! ### Listing fields -/

/-- A field as data. -/
def fieldDatum (f : Field) : Datum :=
  .table [("name", .string f.name), ("display_name", .string f.displayName),
    ("type", .string f.type.name), ("default", f.default.toListed), ("min", f.minimum),
    ("max", f.maximum),
    ("options", .table (mergeEntries (f.options.map fun o => (o.1, .string o.2)))),
    ("autocomplete", .bool f.autocomplete)]

/-- The bounds of a field on both sides of two dots. -/
def boundsText (f : Field) : Except NumberFault (List Char) := do
  let side (d : Datum) : Except NumberFault (List Char) := if d.isNull then pure [] else d.text
  if f.minimum.isNull && f.maximum.isNull then pure []
  else pure ((← side f.minimum) ++ ['.', '.'] ++ (← side f.maximum))

/-- The options of an enum field, with labels that differ from their keys. -/
def optionsText (f : Field) : List Char :=
  if f.type = .enum then
    let labels := f.options.map fun (key, label) =>
      Console.cell (if label == key then key else s!"{key} ({label})").toList
    let all := if f.autocomplete then labels ++ ["autocomplete".toList] else labels
    ", ".toList.intercalate all
  else []

def fieldRow (f : Field) : Except NumberFault Console.Row := do
  pure [Console.cell f.name.toList, Console.cell f.displayName.toList, f.type.name.toList,
    Console.cell (← f.default.format), ← boundsText f, optionsText f]

def runListFields (c : Config) (layout : Layout) : Outcome :=
  let fields := c.fields.fields
  let lines : Except NumberFault (List String) := match layout with
    | .json => do pure [String.ofList (← Console.json 0 (.list (fields.map fieldDatum)))]
    | .table => do
      let rows ← fields.mapM fieldRow
      pure (Console.tableLines
        [{ title := "Name", wraps := false }, { title := "Label" },
          { title := "Type", wraps := false }, { title := "Default" },
          { title := "Bounds", align := .right }, { title := "Options" }] rows)
  .ofNumber (lines.map .showing)

/-! ### Declaring fields -/

/-- An option with its label, written with an equals sign between them; a key alone is its own
label. -/
def optionOf (written : String) : Except ValidationError (String × String) :=
  match Text.cut? ['='] written.toList with
  | some ([], _) => .error .malformedOption
  | some (key, label) => .ok (String.ofList key, String.ofList label)
  | none => if written.isEmpty then .error .malformedOption else .ok (written, written)

/-- The field of a draft. -/
def FieldDraft.toField (d : FieldDraft) : Except AssignmentError Field := do
  let invalid (e : ValidationError) : AssignmentError := .invalid e
  let options ← (d.options.mapM optionOf).mapError invalid
  let bound (b : Option Binary64) : Datum := (b.map Datum.float).getD .null
  let label := match d.displayName with
    | some l => if l.isEmpty then d.name else l
    | none => d.name
  let f ← (Field.make d.name label d.type.name (Value.empty d.type).toDatum (bound d.minimum)
    (bound d.maximum) options d.autocomplete).mapError invalid
  match d.default with
  | none => pure f
  | some text =>
    let filter ← Filter.ofText f text
    match Field.make f.name f.displayName f.type.name filter.value.toDatum f.minimum f.maximum
      f.options f.autocomplete with
    | .ok f => pure f
    | .error e => throw (.invalid e)

/-- The outcome of writing a file: the given one once the file is there, or an error with the given
code. -/
def writeOutcome (c : Circumstances) (fs : Files) (p : Path) (text : String) (done : Outcome)
    (code : Nat) : Outcome :=
  let failed (message : String) : Outcome :=
    .failed code s!"Failed to write config file: {message}" none
  match fs.writeFault? p with
  | some f => failed f.message
  | none =>
    match c.hindrance? p with
    | some h => (failed h.message).behind (.make (h.directory p))
    | none => done.behind (.write p text)

/-- The outcome of saving a configuration where it was looked for. -/
def saveOutcome (c : Circumstances) (w : Workspace) (m : Manner) (l : Loaded) (config : Config)
    (message : String) : Outcome :=
  match config.toText with
  | .error f => .broken (.number f)
  | .ok text =>
    let records := if m.debug then [Console.record s!"Saved config to {l.path.text}"] else []
    writeOutcome c w.files l.path text ((Outcome.showing [Console.line message]).after records) 2

def runAddField (c : Circumstances) (w : Workspace) (m : Manner) (l : Loaded) (d : FieldDraft) :
    Outcome :=
  if l.config.fields.contains d.name then .failed 1 s!"Field already exists: {d.name}" none
  else
    match d.toField with
    | .error (.number f) => .broken (.number f)
    | .error (.invalid e) => .failed 1 e.message none
    | .ok f =>
      match l.config.fields.add f with
      | .error e => .failed 1 e.message none
      | .ok fields =>
        let message := s!"Added {f.type.name} field: {d.name}"
        (saveOutcome c w m l { l.config with fields } message).after
          (if m.verbose then [Console.line s!"Field registry: {fields.text}"] else [])

/-! ### The example configuration -/

def runInitConfig (c : Circumstances) (w : Workspace) (force : Bool) (output : Option String) :
    Outcome :=
  match placeOf? w output with
  | none => .broken .unknownHome
  | some path =>
    if w.files.has path && !force then
      .failed 1 s!"Config file already exists: {path.text}" (some "Use --force to overwrite")
    else
      let done := Outcome.showing [Console.line s!"Created config file: {path.text}",
        "List the declared fields with: lucene-filters fields list"]
      writeOutcome c w.files path Config.exampleText done 1

end SearchFilters.Cli
