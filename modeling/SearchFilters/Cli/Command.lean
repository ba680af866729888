import SearchFilters.Cli.Usage
import SearchFilters.Field.Value
import SearchFilters.Filter.Joiner

/-!
# Cli — Command

The commands of the program: how each is called, and what is asked for when it is.
-/

namespace SearchFilters.Cli

def programName : String := "lucene-filters"

def versionText : String := "0.1.0"

/-! ### How commands are called -/

/-- The option that names the operator between filters. -/
def operatorSwitch : Switch where
  name := "operator"
  letter := some 'O'
  takes := .choice (Joiner.all.map Joiner.name) true
  help := "Operator joining the filters (default: query.default_operator from config)"

/-- The option that chooses between a table and JSON. -/
def formatSwitch : Switch where
  name := "format"
  letter := some 'f'
  takes := .choice ["table", "json"] false
  help := "Output format (default: table)"

def rootSpec : Spec where
  path := [programName]
  operands := .command
  summary := "Edit Lucene queries as typed field filters."
  about := [
    ["Edit Lucene queries as typed field filters."],
    ["A query such as 'color:(red OR blue) NOT size:[1 TO 3]' is split into",
      "the filters it asserts and the filters it excludes, each typed by the",
      "field it names. Filters can be composed back into query text."],
    ["Fields are declared in ~/.config/lucene-filters/config.toml, or in the",
      "file given with --config."],
    ["Examples:",
      "  lucene-filters parse 'color:(red OR blue) NOT size:[1 TO 3]'",
      "  lucene-filters build color=red,blue -x size=1..3",
      "  lucene-filters fields list"]]
  switches := [
    { name := "config", letter := some 'c', takes := .file,
      help := "Config file with the field definitions " ++
        "(default: ~/.config/lucene-filters/config.toml)" },
    { name := "no-color", help := "Disable colored output" },
    { name := "verbose", letter := some 'v', help := "Show what the command is doing" },
    { name := "debug", help := "Log every rejection reason (implies --verbose)" },
    { name := "quiet", letter := some 'q', help := "Only print results and errors" },
    versionSwitch, helpSwitch]
  commands := [
    ("build", "Print the Lucene query for a set of filters."),
    ("fields", "Field registry commands."),
    ("help", "Show help for COMMAND, e.g."),
    ("init-config", "Write an example config declaring one field of every type."),
    ("parse", "Show the filters a Lucene query is made of.")]

def helpSpec : Spec where
  path := [programName, "help"]
  operands := .many "[COMMAND]..." false
  summary := "Show help for COMMAND, e.g."
  about := [["Show help for COMMAND, e.g. 'help fields add'."]]
  switches := [helpSwitch]

def parseSpec : Spec where
  path := [programName, "parse"]
  operands := .many "QUERY..." true
  summary := "Show the filters a Lucene query is made of."
  about := [
    ["Show the filters a Lucene query is made of."],
    ["QUERY is a Lucene query string. Multiple arguments are joined with",
      "spaces. Asserted filters are joined with the operator, excluded",
      "filters are preceded by NOT."],
    ["Examples:",
      "  lucene-filters parse 'name:Alice count:5'",
      "  lucene-filters parse 'color:(red OR blue) NOT size:[1 TO 3]'",
      "  lucene-filters parse --operator and 'a AND b AND NOT c'"],
    ["Exit codes:",
      "  0  the query was split into filters",
      "  1  the query is not valid Lucene syntax",
      "  2  the query cannot be expressed as filters"]]
  switches := [operatorSwitch, formatSwitch, helpSwitch]

def buildSpec : Spec where
  path := [programName, "build"]
  operands := .many "FIELD=VALUE..." false
  summary := "Print the Lucene query for a set of filters."
  about := [
    ["Print the Lucene query for a set of filters."],
    ["Each FIELD=VALUE names a configured field and its value. Enum values",
      "are comma-separated option keys, ranges are written MIN..MAX and",
      "booleans as true or false."],
    ["Examples:",
      "  lucene-filters build name=Alice count=5",
      "  lucene-filters build color=red,blue -x size=1..3",
      "  lucene-filters build --operator or name=Alice name=Bob"]]
  switches := [
    { name := "exclude", letter := some 'x', takes := .text "FIELD=VALUE",
      help := "Filter to exclude with NOT (repeatable)" },
    operatorSwitch, helpSwitch]

def initConfigSpec : Spec where
  path := [programName, "init-config"]
  operands := .none
  summary := "Write an example config declaring one field of every type."
  about := [
    ["Write an example config declaring one field of every type."],
    ["Edit the [[fields]] tables afterwards to describe the fields of your",
      "index, or add them with 'lucene-filters fields add'."],
    ["Examples:",
      "  lucene-filters init-config",
      "  lucene-filters init-config --output ./fields.toml",
      "  lucene-filters init-config --force"]]
  switches := [
    { name := "force", letter := some 'f', help := "Replace an existing config file" },
    { name := "output", letter := some 'o', takes := .file,
      help := "Where to write the file (default: ~/.config/lucene-filters/config.toml)" },
    helpSwitch]

def fieldsSpec : Spec where
  path := [programName, "fields"]
  operands := .command
  summary := "Field registry commands."
  about := [
    ["Field registry commands."],
    ["Commands for listing and declaring the fields queries are split on."]]
  switches := [helpSwitch]
  commands := [
    ("add", "Add field NAME to the configuration file."),
    ("list", "List the fields queries can be split on.")]

def addFieldSpec : Spec where
  path := [programName, "fields", "add"]
  operands := .one "NAME"
  summary := "Add field NAME to the configuration file."
  about := [
    ["Add field NAME to the configuration file."],
    ["Examples:",
      "  lucene-filters fields add count --type integer --min 0 --max 10 --default 5",
      "  lucene-filters fields add color --type enum -o red=Red -o blue=Blue --autocomplete"]]
  switches := [
    { name := "type", letter := some 't', required := true,
      takes := .choice (FieldType.all.map FieldType.name) false,
      help := "Value type of the field" },
    { name := "display-name", letter := some 'd', takes := .text "TEXT",
      help := "Human-readable label" },
    { name := "default", takes := .text "TEXT",
      help := "Default value, written like a build value (e.g. 5, 1..3, red,blue)" },
    { name := "min", takes := .number, help := "Lower numeric bound" },
    { name := "max", takes := .number, help := "Upper numeric bound" },
    { name := "option", letter := some 'o', takes := .text "KEY=LABEL",
      help := "Enum option (repeatable)" },
    { name := "autocomplete", help := "Offer autocompletion for enum values" },
    helpSwitch]

def listFieldsSpec : Spec where
  path := [programName, "fields", "list"]
  operands := .none
  summary := "List the fields queries can be split on."
  about := [["List the fields queries can be split on."]]
  switches := [formatSwitch, helpSwitch]

def specs : List Spec :=
  [rootSpec, helpSpec, parseSpec, buildSpec, initConfigSpec, fieldsSpec, addFieldSpec,
    listFieldsSpec]

/-- The command that words after the program's name call. -/
def specOf? (words : List String) : Option Spec :=
  specs.find? fun c => c.path == programName :: words

/-! ### What is asked for -/

/-- How results are shown. -/
inductive Layout where
  | table
  | json
  deriving Repr, DecidableEq

/-- A field to be declared, as it is written. -/
structure FieldDraft where
  name : String
  type : FieldType
  displayName : Option String := none
  default : Option String := none
  minimum : Option Binary64 := none
  maximum : Option Binary64 := none
  options : List String := []
  autocomplete : Bool := false
  deriving Repr, DecidableEq

/-- A command with what it is given. -/
inductive Command where
  | help (words : List String)
  | parse (words : List String) (joiner : Option Joiner) (layout : Layout)
  | build (assignments exclusions : List String) (joiner : Option Joiner)
  | listFields (layout : Layout)
  | addField (draft : FieldDraft)
  | initConfig (force : Bool) (output : Option String)
  deriving Repr, DecidableEq

/-- What is asked for on the way to a command. -/
structure Manner where
  /-- the written path of the configuration -/
  config : Option String := none
  verbose : Bool := false
  debug : Bool := false
  quiet : Bool := false
  deriving Repr, DecidableEq

/-- A command that stops before its work, and why. -/
structure Halt where
  spec : Spec
  stop : Stop

namespace Given

def joiner? (g : Given) : Option Joiner := (g.last? "operator").bind Joiner.ofName?

def layout (g : Given) : Layout := if g.last? "format" = some "json" then .json else .table

def number? (g : Given) (name : String) : Option Binary64 :=
  (g.last? name).bind fun s => Binary64.ofLiteral? s.toList

end Given

/-- A command without commands below it, from what it is given. -/
def commandOf (name : String) (g : Given) : Command :=
  if name = "help" then .help g.words
  else if name = "build" then .build g.words (g.all "exclude") g.joiner?
  else if name = "init-config" then .initConfig (g.has "force") (g.last? "output")
  else if name = "list" then .listFields g.layout
  else if name = "add" then
    .addField {
      name := g.words.headD ""
      type := ((g.last? "type").bind FieldType.ofName?).getD .string
      displayName := g.last? "display-name"
      default := g.last? "default"
      minimum := g.number? "min"
      maximum := g.number? "max"
      options := g.all "option"
      autocomplete := g.has "autocomplete" }
  else .parse g.words g.joiner? g.layout

/-- The manner asked for, and the command with its arguments. -/
def readRoot (isDirectory : String → Bool) (arguments : List String) :
    Except Halt (Manner × String × List String) := do
  let halt (stop : Stop) : Halt := ⟨rootSpec, stop⟩
  let g ← (rootSpec.read isDirectory arguments).mapError halt
  let (name, rest) ← (rootSpec.subcommand isDirectory g).mapError halt
  let debug := g.has "debug"
  pure ({ config := g.last? "config", verbose := g.has "verbose" || debug, debug,
          quiet := g.has "quiet" }, name, rest)

/-- The command of a name, from its arguments. -/
def readCommand (isDirectory : String → Bool) (name : String) (arguments : List String) :
    Except Halt Command := do
  let (path, arguments) ← if name = "fields" then do
      let halt (stop : Stop) : Halt := ⟨fieldsSpec, stop⟩
      let g ← (fieldsSpec.read isDirectory arguments).mapError halt
      let (sub, rest) ← (fieldsSpec.subcommand isDirectory g).mapError halt
      pure ([name, sub], rest)
    else pure ([name], arguments)
  let spec := (specOf? path).getD rootSpec
  let g ← (spec.read isDirectory arguments).mapError fun stop => ⟨spec, stop⟩
  pure (commandOf (path.getLastD name) g)

end SearchFilters.Cli
