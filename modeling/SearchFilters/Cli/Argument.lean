import SearchFilters.Number.Literal
import SearchFilters.Text.Quoted
import SearchFilters.Text.Similar
import SearchFilters.Text.Split

/-!
# Cli — Argument

Commands with the options and words that they take, and the reading of arguments as such.
-/

namespace SearchFilters.Cli

/-- What an option takes. -/
inductive Taking where
  /-- nothing -/
  | flag
  /-- any text, under a name in help -/
  | text (name : String)
  | number
  | file
  | choice (names : List String) (anyCase : Bool)
  deriving Repr, DecidableEq

/-- An option of a command. -/
structure Switch where
  /-- its name after two dashes -/
  name : String
  /-- its letter after one dash -/
  letter : Option Char := none
  takes : Taking := .flag
  required : Bool := false
  help : String
  deriving Repr, DecidableEq

/-- The words that a command takes besides its options. -/
inductive Operands where
  | none
  | one (label : String)
  | many (label : String) (required : Bool)
  /-- another command with its arguments -/
  | command
  deriving Repr, DecidableEq

/-- A command as its users see it. -/
structure Spec where
  /-- the words that call it, the program's name first -/
  path : List String
  operands : Operands
  /-- what it does, in lists of commands -/
  summary : String
  /-- what it does, in paragraphs of lines -/
  about : List (List String)
  switches : List Switch
  /-- the commands below it with their summaries -/
  commands : List (String × String) := []

/-- The options and words given to a command. -/
structure Given where
  options : List (Switch × String) := []
  words : List String := []

/-- What is wrong with the arguments of a command. -/
inductive UsageFault where
  | unknownOption (written : String) (near : List String)
  | unknownCommand (name : String) (near : List String)
  | missingValue (written : String)
  | needlessValue (written : String)
  | notOneOf (s : Switch) (value : String) (names : List String)
  | notNumber (s : Switch) (value : String)
  | isDirectory (s : Switch) (value : String)
  | missingOption (s : Switch)
  | missingOperand (label : String)
  | extraWords (words : List String)
  | missingCommand
  deriving Repr, DecidableEq

/-- Why a command does not get to its work. -/
inductive Stop where
  | fault (f : UsageFault)
  /-- a command of commands without arguments -/
  | noArguments
  | help
  | version
  deriving Repr, DecidableEq

/-- The option that asks for help. -/
def helpSwitch : Switch where
  name := "help"
  letter := some 'h'
  help := "Show this message and exit."

/-- The option that asks for the version. -/
def versionSwitch : Switch := { name := "version", help := "Show the version and exit." }

namespace Switch

def takesValue (s : Switch) : Bool := s.takes != .flag

def longText (s : Switch) : String := "--" ++ s.name

/-- The option in messages. -/
def hint (s : Switch) : String :=
  match s.letter with
  | some c => s!"'{s.longText}' / '-{c}'"
  | none => s!"'{s.longText}'"

end Switch

namespace Given

/-- The last value given for an option. -/
def last? (g : Given) (name : String) : Option String :=
  (g.options.reverse.find? fun o => o.1.name == name).map Prod.snd

/-- All values given for an option. -/
def all (g : Given) (name : String) : List String :=
  (g.options.filter fun o => o.1.name == name).map Prod.snd

def has (g : Given) (name : String) : Bool := (g.last? name).isSome

end Given

namespace Spec

def name (c : Spec) : String := " ".intercalate c.path

def isGroup (c : Spec) : Bool := c.operands == .command

/-! ### Options and words -/

/-- An option that still awaits its value, and how it is written. -/
abbrev Awaiting := Option (Switch × String)

/-- The options of the letters after one dash.  An option that takes a value takes the letters after
its own, or else the next argument. -/
def readLetters (c : Spec) : List Char → Except UsageFault (List (Switch × String) × Awaiting)
  | [] => .ok ([], none)
  | l :: rest =>
    let written := String.ofList ['-', l]
    match c.switches.find? fun s => s.letter == some l with
    | none => .error (.unknownOption written [])
    | some s =>
      if s.takesValue then
        if rest.isEmpty then .ok ([], some (s, written))
        else .ok ([(s, String.ofList rest)], none)
      else do
        let (more, awaiting) ← c.readLetters rest
        pure ((s, "") :: more, awaiting)

/-- The option of a name after two dashes, which may carry its value after an equals sign. -/
def readName (c : Spec) (argument : List Char) :
    Except UsageFault (List (Switch × String) × Awaiting) :=
  let (name, value) := match Text.cut? ['='] argument with
    | some (n, v) => (String.ofList n, some (String.ofList v))
    | none => (String.ofList argument, none)
  match c.switches.find? fun s => s.longText == name with
  | none => .error (.unknownOption name (Text.similar (c.switches.map Switch.longText) name))
  | some s =>
    match s.takesValue, value with
    | true, some v => .ok ([(s, v)], none)
    | true, none => .ok ([], some (s, name))
    | false, some _ => .error (.needlessValue name)
    | false, none => .ok ([(s, "")], none)

/-- The options and words of a row of arguments.  After two dashes all are words; the words of a
group begin with the first of them. -/
def readArguments (c : Spec) : Awaiting → List String → Except UsageFault Given
  | some (_, written), [] => .error (.missingValue written)
  | none, [] => .ok {}
  | some (s, _), a :: rest => do
    let g ← c.readArguments none rest
    pure { g with options := (s, a) :: g.options }
  | none, a :: rest =>
    match a.toList with
    | ['-', '-'] => .ok { words := rest }
    | '-' :: l :: ls => do
      let (options, awaiting) ←
        if l == '-' then c.readName ('-' :: l :: ls) else c.readLetters (l :: ls)
      let g ← c.readArguments awaiting rest
      pure { g with options := options ++ g.options }
    | _ =>
      if c.isGroup then .ok { words := a :: rest }
      else do
        let g ← c.readArguments none rest
        pure { g with words := a :: g.words }

/-! ### Checks -/

/-- Whether a name is one of a choice. -/
def isChoice (names : List String) (anyCase : Bool) (value : String) : Bool :=
  names.any fun n => n == value || (anyCase && n == value.toLower)

/-- What is wrong with the value of an option. -/
def valueFault? (isDirectory : String → Bool) (s : Switch) (value : String) : Option UsageFault :=
  match s.takes with
  | .flag | .text _ => none
  | .number => if (Binary64.ofLiteral? value.toList).isSome then none else some (.notNumber s value)
  | .file => if isDirectory value then some (.isDirectory s value) else none
  | .choice names anyCase =>
    if isChoice names anyCase value then none else some (.notOneOf s value names)

/-- What is wrong with the options given, each of which stands for its last value. -/
def optionFault? (isDirectory : String → Bool) (g : Given) : Option UsageFault :=
  ((g.options.map Prod.fst).eraseDups).findSome? fun s =>
    (g.last? s.name).bind (valueFault? isDirectory s)

/-- A word that is missing. -/
def operandFault? (c : Spec) (g : Given) : Option UsageFault :=
  match c.operands with
  | .one label | .many label true =>
    if g.words.isEmpty then some (.missingOperand label) else none
  | _ => none

/-- An option that is missing. -/
def requiredFault? (c : Spec) (g : Given) : Option UsageFault :=
  (c.switches.find? fun s => s.required && !g.has s.name).map .missingOption

/-- Words that are too many. -/
def extraFault? (c : Spec) (g : Given) : Option UsageFault :=
  match c.operands with
  | .none => if g.words.isEmpty then none else some (.extraWords g.words)
  | .one _ => if g.words.length ≤ 1 then none else some (.extraWords g.words.tail)
  | _ => none

/-- The first fault of what is given: of the options, in the order given, of the words, of what is
missing, and of what is too much. -/
def fault? (c : Spec) (isDirectory : String → Bool) (g : Given) : Option UsageFault :=
  (optionFault? isDirectory g).or ((c.operandFault? g).or
    ((c.requiredFault? g).or (c.extraFault? g)))

/-- What is asked for instead of the command's work. -/
def request? (g : Given) : Option Stop :=
  g.options.findSome? fun o =>
    if o.1 == helpSwitch then some .help
    else if o.1 == versionSwitch then some .version
    else none

/-- The options and words given to a command, if it can work with them. -/
def read (c : Spec) (isDirectory : String → Bool) (arguments : List String) :
    Except Stop Given := do
  if c.isGroup && arguments.isEmpty then throw .noArguments
  let g ← (c.readArguments none arguments).mapError Stop.fault
  match request? g, c.fault? isDirectory g with
  | some stop, _ => throw stop
  | none, some f => throw (.fault f)
  | none, none => pure g

/-- The command below a group that the words call, with its arguments. -/
def subcommand (c : Spec) (isDirectory : String → Bool) (g : Given) :
    Except Stop (String × List String) :=
  match g.words with
  | [] => .error (.fault .missingCommand)
  | name :: rest =>
    if c.commands.any fun e => e.1 == name then .ok (name, rest)
    else do
      if name.startsWith "-" then
        let _ ← c.read isDirectory g.words
      throw (.fault (.unknownCommand name (Text.similar (c.commands.map Prod.fst) name)))

end Spec
end SearchFilters.Cli
