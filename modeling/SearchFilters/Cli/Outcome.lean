import SearchFilters.Config.Document
import SearchFilters.Console.Notice
import SearchFilters.Storage.Files

/-!
# Cli — Outcome

What a run of the program says and does, and where it runs.  A run shows lines, then does one thing to
the files at most, and may show more lines behind that.  The output can break off at any of the lines;
what has been done by then is done.
-/

namespace SearchFilters.Cli

/-- Where a program runs. -/
structure Workspace where
  files : Files
  /-- the directory that written paths start from -/
  directory : Path
  home : Path
  /-- the home directories of others, by their names -/
  homes : String → Option Path := fun _ => none

/-- What a run meets that neither its arguments nor the files show. -/
structure Circumstances where
  /-- how many lines can be shown before the output breaks off, if it does -/
  shown : Option Nat := none
  /-- why the system refuses to write in a place, if it does -/
  hindrance? : Path → Option Hindrance := fun _ => none

/-- What a run breaks off with when nothing is foreseen for it. -/
inductive Breakdown where
  | number (f : NumberFault)
  /-- the distance of a phrase is beyond reading -/
  | distance
  | config (e : ConfigError)
  /-- a file whose bytes are no text -/
  | notText
  | isDirectory (p : Path)
  /-- a home directory that is not known -/
  | unknownHome
  /-- a line that cannot be shown -/
  | output
  deriving Repr, DecidableEq

/-- How a run ends. -/
inductive Ending where
  | exit (code : Nat)
  | breakdown (b : Breakdown)
  deriving Repr, DecidableEq

/-- A line that a run shows. -/
inductive Line where
  | result (text : String)
  | message (text : String)
  deriving Repr, DecidableEq

/-- The text of a line of results. -/
def Line.result? : Line → Option String
  | .result s => some s
  | .message _ => none

/-- The text of a line of messages. -/
def Line.message? : Line → Option String
  | .result _ => none
  | .message s => some s

/-- What a run does to the files. -/
inductive Deed where
  /-- makes directories as far as a place -/
  | make (directory : Path)
  /-- puts a private file in its place -/
  | write (p : Path) (text : String)
  deriving Repr, DecidableEq

/-- The files after a deed. -/
def Deed.result (fs : Files) : Deed → Files
  | .make directory => fs.make directory
  | .write p text => fs.put p text

/-- What a run says and does. -/
structure Outcome where
  /-- the lines that are shown first -/
  lines : List Line := []
  /-- what is done to the files then -/
  deed : Option Deed := none
  /-- the lines that are shown at last -/
  more : List Line := []
  ending : Ending := .exit 0

namespace Outcome

/-- The lines of results. -/
def out (o : Outcome) : List String := (o.lines ++ o.more).filterMap Line.result?

/-- The lines of messages. -/
def err (o : Outcome) : List String := (o.lines ++ o.more).filterMap Line.message?

/-- An outcome that shows results. -/
def showing (results : List String) : Outcome := { lines := results.map .result }

/-- An outcome after messages. -/
def after (messages : List String) (o : Outcome) : Outcome :=
  { o with lines := messages.map .message ++ o.lines }

/-- An outcome behind a deed. -/
def behind (d : Deed) (o : Outcome) : Outcome :=
  { deed := some d, more := o.lines ++ o.more, ending := o.ending }

def broken (b : Breakdown) : Outcome := { ending := .breakdown b }

/-- An outcome that reports an error, with a hint below it. -/
def failed (code : Nat) (message : String) (hint : Option String) : Outcome where
  lines := .message (Console.notice "Error" message) ::
    (hint.map fun h => .message (Console.line ("  " ++ h))).toList
  ending := .exit code

/-- The outcome of what may break down over a number. -/
def ofNumber : Except NumberFault Outcome → Outcome
  | .ok o => o
  | .error f => broken (.number f)

/-- What is left of an outcome when the output breaks off after a number of lines. -/
def cutOff (o : Outcome) : Option Nat → Outcome
  | none => o
  | some n =>
    if n < o.lines.length then { lines := o.lines.take n, ending := .breakdown .output }
    else if n < o.lines.length + o.more.length then
      { o with more := o.more.take (n - o.lines.length), ending := .breakdown .output }
    else o

/-- The files that an outcome leaves. -/
def leaves (o : Outcome) (fs : Files) : Files := (o.deed.map (Deed.result fs)).getD fs

end Outcome

/-- The workspace after a run. -/
def Workspace.after (w : Workspace) (o : Outcome) : Workspace :=
  { w with files := o.leaves w.files }

end SearchFilters.Cli
