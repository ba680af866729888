import SearchFilters.Cli.Fields
import SearchFilters.Cli.Queries

/-!
# Cli — Run

Runs of the program, as a function of its arguments, of the files it sees and of the circumstances.

* `intent`: the outcome of a run that can show all its lines.
* `run`: the outcome of a run.
* `mentionedPaths`: the paths that a run may look at.
-/

namespace SearchFilters.Cli

/-! ### Help -/

def runHelp (words : List String) : Outcome :=
  match specOf? words with
  | some c => .showing c.helpLines
  | none => .failed 1 ("Unknown command: " ++ " ".intercalate words) none

/-- The outcome of a command that stops before its work. -/
def haltOutcome (h : Halt) : Outcome :=
  match h.stop with
  | .help => .showing h.spec.helpLines
  | .version => .showing [s!"{programName}, version {versionText}"]
  | .noArguments => { lines := h.spec.helpLines.map .message, ending := .exit 2 }
  | .fault f => { lines := (h.spec.faultLines f).map .message, ending := .exit 2 }

/-! ### Runs -/

def runCommand (c : Circumstances) (w : Workspace) (m : Manner) (l : Loaded) : Command → Outcome
  | .help words => runHelp words
  | .parse words joiner layout => runParse m l.config words joiner layout
  | .build assignments exclusions joiner => runBuild m l.config assignments exclusions joiner
  | .listFields layout => runListFields l.config layout
  | .addField draft => runAddField c w m l draft
  | .initConfig force output => runInitConfig c w force output

/-- The outcome of a run with the given arguments that can show all its lines.  The configuration is
loaded before the arguments of the command are read. -/
def intent (c : Circumstances) (w : Workspace) (arguments : List String) : Outcome :=
  let isDirectory := w.files.namesDirectory w.directory
  match readRoot isDirectory arguments with
  | .error h => haltOutcome h
  | .ok (m, name, rest) =>
    match load w m with
    | .error o => o
    | .ok l =>
      -- the messages of loading come first, whatever becomes of the command
      let o := match readCommand isDirectory name rest with
        | .error h => haltOutcome h
        | .ok command => runCommand c w m l command
      o.after l.messages

/-- The outcome of a run with the given arguments. -/
def run (c : Circumstances) (w : Workspace) (arguments : List String) : Outcome :=
  (intent c w arguments).cutOff c.shown

/-- The written paths that a run with the given arguments may look at. -/
def mentionedPaths (arguments : List String) : List String :=
  match rootSpec.readArguments none arguments with
  | .error _ => []
  | .ok g =>
    let outputs := match g.words with
      | "init-config" :: rest =>
        match initConfigSpec.readArguments none rest with
        | .ok i => i.all "output"
        | .error _ => []
      | _ => []
    g.all "config" ++ outputs

end SearchFilters.Cli
