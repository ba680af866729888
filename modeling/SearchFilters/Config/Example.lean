/-!
# Config — Example

A configuration that declares a field of every type, to start from.
-/

namespace SearchFilters.Config

/-- The lines of the example. -/
def exampleLines : List String := [
  "# lucene-filters configuration",
  "#",
  "# Fields declared here are the ones Lucene queries can be split into",
  "# typed filters on. A query mentioning any other field is left as is.",
  "",
  "[display]",
  "# Use colored terminal output (NO_COLOR or --no-color also disable it)",
  "colored_output = true",
  "",
  "[query]",
  "# Operator joining filters: \"<implicit>\" (whitespace), \"AND\" or \"OR\".",
  "# Excluded filters are joined with its negation (\"NOT\", \"AND NOT\", \"OR NOT\").",
  "default_operator = \"<implicit>\"",
  "",
  "# Nesting depth beyond which a query is not split",
  "max_depth = 256",
  "",
  "# Every field has a name (as written in queries), a type and optional",
  "# display_name and default. Types:",
  "#   string, integer, float, integer-range, float-range, boolean, enum",
  "# Numeric and range fields accept min and max bounds, enum fields an",
  "# [fields.options] table of option keys and labels.",
  "",
  "# Terms without a field prefix",
  "[[fields]]",
  "name = \"<implicit>\"",
  "display_name = \"Default field\"",
  "type = \"string\"",
  "default = \"\"",
  "",
  "[[fields]]",
  "name = \"string-field\"",
  "display_name = \"String field\"",
  "type = \"string\"",
  "default = \"\"",
  "",
  "[[fields]]",
  "name = \"integer-field\"",
  "display_name = \"Integer field\"",
  "type = \"integer\"",
  "default = 5",
  "min = 0",
  "max = 10",
  "",
  "[[fields]]",
  "name = \"float-field\"",
  "display_name = \"Float field\"",
  "type = \"float\"",
  "default = 0.5",
  "min = 0.0",
  "max = 1.0",
  "",
  "[[fields]]",
  "name = \"integer-range-field\"",
  "display_name = \"Integer range field\"",
  "type = \"integer-range\"",
  "default = [2, 8]",
  "min = 0",
  "max = 10",
  "",
  "[[fields]]",
  "name = \"float-range-field\"",
  "display_name = \"Float range field\"",
  "type = \"float-range\"",
  "default = [0.2, 0.8]",
  "min = 0.0",
  "max = 1.0",
  "",
  "[[fields]]",
  "name = \"boolean-field\"",
  "display_name = \"Boolean field\"",
  "type = \"boolean\"",
  "default = false",
  "",
  "[[fields]]",
  "name = \"enum-field\"",
  "display_name = \"Enum field\"",
  "type = \"enum\"",
  "default = [\"red\"]",
  "autocomplete = true",
  "",
  "[fields.options]",
  "red = \"Red\"",
  "green = \"Green\"",
  "blue = \"Blue-ish\"",
  "\"black and white\" = \"Black and white\""]

/-- The text of the example. -/
def exampleText : String := String.join (exampleLines.map (· ++ "\n"))

end SearchFilters.Config
