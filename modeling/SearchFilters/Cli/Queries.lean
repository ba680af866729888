import SearchFilters.Cli.Command
import SearchFilters.Cli.Outcome
import SearchFilters.Console.Json
import SearchFilters.Console.Table
import SearchFilters.Filter.Assignment
import SearchFilters.Filter.Selection
import SearchFilters.Query.Parser
import SearchFilters.Query.Printer

/-!
# Cli — Queries

The commands that split a query into filters and that build one from them.
-/

namespace SearchFilters.Cli

/-- The operator between filters: the one asked for, or else that of the configuration. -/
def joinerFor (c : Config) (asked : Option Joiner) : Joiner :=
  asked.getD (c.joiner?.getD .implicit)

/-! ### Splitting queries -/

/-- A filter as data. -/
def filterDatum (f : Filter) : Datum :=
  .table [("field", .string f.field.name), ("type", .string f.field.type.name),
    ("value", f.value.toListed)]

/-- The lines of a selection as JSON. -/
def selectionJson (query : String) (s : Selection) : Except NumberFault (List String) := do
  let d : Datum := .table [("query", .string query),
    ("positive", .list (s.asserted.map filterDatum)),
    ("negative", .list (s.excluded.map filterDatum))]
  pure [String.ofList (← Console.json 0 d)]

/-- The cells of a filter: its sign, its field, the type of the field and its value. -/
def filterRow (sign : String) (f : Filter) : Except NumberFault Console.Row := do
  let value ← f.value.format
  pure [sign.toList, Console.cell f.field.displayName.toList, f.field.type.name.toList,
    Console.cell value]

/-- The lines of a selection as a table. -/
def selectionTable (query : String) (s : Selection) : Except NumberFault (List String) := do
  if s.asserted.isEmpty && s.excluded.isEmpty then
    pure [Console.line ("No filters in: " ++ query)]
  else
    let asserted ← s.asserted.mapM (filterRow "+")
    let excluded ← s.excluded.mapM (filterRow "NOT")
    pure (Console.tableLines
      [{ title := "", wraps := false }, { title := "Field", wraps := false },
        { title := "Type", wraps := false }, { title := "Value" }]
      (asserted ++ excluded))

/-- The numbers of filters on either side. -/
def selectionCounts (s : Selection) : String :=
  s!"{s.asserted.length} asserted and {s.excluded.length} excluded filters"

/-- The outcome of a query that has no filters. -/
def rejection (m : Manner) (r : Rejection) : Outcome :=
  (Outcome.failed 2 s!"Query cannot be edited as filters: {r.reason}"
    (some "Only flat combinations of configured fields are supported")).after
    (if m.debug then [Console.record s!"Rejected query: {r.reason}"] else [])

def runParse (m : Manner) (c : Config) (words : List String) (joiner : Option Joiner)
    (layout : Layout) : Outcome :=
  let query := " ".intercalate words
  match Query.parse query with
  | .error ⟨_, .proximityOverflow⟩ => .broken .distance
  | .error e => .failed 1 s!"Invalid search query: {e.message}" none
  | .ok t =>
    match split t c.fields (joinerFor c joiner) c.maxDepth with
    | .error (.number f) => .broken (.number f)
    | .error (.rejected r) => rejection m r
    | .ok s =>
      let note := if m.verbose then [Console.line s!"Found {selectionCounts s}"] else []
      let lines := match layout with
        | .json => selectionJson query s
        | .table => selectionTable query s
      (Outcome.ofNumber (lines.map .showing)).after note

/-! ### Building queries -/

/-- The warning about values of an enum filter that are no options. -/
def unknownOptionsLine (f : Filter) : Option String :=
  if f.unknownOptions.isEmpty then none
  else some (Console.notice "Warning"
    (s!"Field '{f.field.name}' has no option(s) " ++ ", ".intercalate f.unknownOptions ++
      "; known: " ++ ", ".intercalate f.field.optionKeys))

/-- The filters of assignments, asserted and excluded. -/
def selectionOf (r : Registry) (assignments exclusions : List String) :
    Except AssignmentError Selection := do
  let asserted ← assignments.mapM (Filter.ofAssignment r)
  let excluded ← exclusions.mapM (Filter.ofAssignment r)
  pure { asserted, excluded }

def runBuild (m : Manner) (c : Config) (assignments exclusions : List String)
    (joiner : Option Joiner) : Outcome :=
  match selectionOf c.fields assignments exclusions with
  | .error (.number f) => .broken (.number f)
  | .error (.invalid e) =>
    .failed 1 e.message (some "List the configured fields with: lucene-filters fields list")
  | .ok s =>
    let warnings :=
      if m.quiet then [] else (s.asserted ++ s.excluded).filterMap unknownOptionsLine
    let result : Except NumberFault Outcome := do
      let t ← build s (joinerFor c joiner)
      let note :=
        if m.debug then [Console.notice "debug" s!"Composed {selectionCounts s}"] else []
      pure ((Outcome.ofNumber ((printQuery t).map fun q => .showing [q])).after note)
    (Outcome.ofNumber result).after warnings

end SearchFilters.Cli
