import SearchFilters.Cli.Argument

/-!
# Cli — Usage

The help of a command and the wording of faults in its arguments.
-/

namespace SearchFilters.Cli

/-! ### Help -/

/-- What an option takes, in help. -/
def Taking.label : Taking → Option String
  | .flag => none
  | .text name => some name
  | .number => some "FLOAT"
  | .file => some "FILE"
  | .choice names _ => some ("[" ++ "|".intercalate names ++ "]")

def Switch.label (s : Switch) : String :=
  let names := match s.letter with
    | some c => s!"-{c}, {s.longText}"
    | none => s.longText
  match s.takes.label with
  | some l => names ++ " " ++ l
  | none => names

/-- Lines of two columns. -/
def helpRows (rows : List (String × String)) : List String :=
  let width := (rows.map fun r => r.1.length).foldl max 0
  rows.map fun (l, r) => "  " ++ l ++ String.ofList (List.replicate (width - l.length + 2) ' ') ++ r

/-- The words of a command, in its usage line. -/
def Operands.label : Operands → List String
  | .none => []
  | .one label | .many label _ => [label]
  | .command => ["COMMAND", "[ARGS]..."]

namespace Spec

/-- The usage line of a command. -/
def usageLine (c : Spec) : String :=
  " ".intercalate ("Usage:" :: c.path ++ "[OPTIONS]" :: c.operands.label)

/-- The lines of a command's help. -/
def helpLines (c : Spec) : List String :=
  let about := c.about.flatMap fun p => "" :: p.map ("  " ++ ·)
  let options := c.switches.map fun s =>
    (s.label, if s.required then s.help ++ "  [required]" else s.help)
  let commands := if c.commands.isEmpty then [] else "" :: "Commands:" :: helpRows c.commands
  c.usageLine :: about ++ ["", "Options:"] ++ helpRows options ++ commands

end Spec

/-! ### Faults -/

def quoted (s : String) : String := Text.quotedText s

def quotedAll (names : List String) : String := ", ".intercalate (names.map quoted)

/-- A suggestion of names that are close to the one given. -/
def suggestion : List String → String
  | [] => ""
  | [n] => s!" Did you mean {quoted n}?"
  | ns => s!" (Did you mean one of: {quotedAll ns}?)"

/-- The wording of a fault. -/
def UsageFault.message : UsageFault → String
  | unknownOption written near => s!"No such option {quoted written}.{suggestion near}"
  | unknownCommand name near => s!"No such command {quoted name}.{suggestion near}"
  | missingValue written => s!"Option {quoted written} requires an argument."
  | needlessValue written => s!"Option {quoted written} does not take a value."
  | notOneOf s value names =>
    s!"Invalid value for {s.hint}: {quoted value} is not one of {quotedAll names}."
  | notNumber s value => s!"Invalid value for {s.hint}: {quoted value} is not a valid float."
  | isDirectory s value => s!"Invalid value for {s.hint}: File {quoted value} is a directory."
  | missingOption s =>
    let choices := match s.takes with
      | .choice names _ => " Choose from:\n\t" ++ ",\n\t".intercalate names
      | _ => ""
    s!"Missing option {s.hint}.{choices}"
  | missingOperand label => s!"Missing argument '{label}'."
  | extraWords [w] => s!"Got unexpected extra argument ({w})"
  | extraWords ws => "Got unexpected extra arguments (" ++ " ".intercalate ws ++ ")"
  | missingCommand => "Missing command."

/-- Whether a fault is shown without the command's usage. -/
def UsageFault.isBare : UsageFault → Bool
  | missingValue _ | needlessValue _ => true
  | _ => false

/-- The lines that tell of a fault. -/
def Spec.faultLines (c : Spec) (f : UsageFault) : List String :=
  let usage := [c.usageLine, s!"Try '{c.name} --help' for help.", ""]
  (if f.isBare then [] else usage) ++ ["Error: " ++ f.message]

end SearchFilters.Cli
