import SearchFilters.Cli.Command
import SearchFilters.Cli.Outcome

/-!
# Cli — Loading

The configuration that a run works with.  There may be no file; a file that cannot be used ends the
run.
-/

namespace SearchFilters.Cli

/-- The place of the configuration unless another is named. -/
def defaultConfigPath (w : Workspace) : Path :=
  w.home ++ [".config", "lucene-filters", "config.toml"]

/-- The place of a file that is named or not. -/
def placeOf? (w : Workspace) : Option String → Option Path
  | none => some (defaultConfigPath w)
  | some written => Path.resolve? w.directory w.home w.homes written

/-- A configuration with the messages of its loading. -/
structure Loaded where
  config : Config
  path : Path
  messages : List String

/-- The lines of warnings. -/
def warningLines (warnings : List ConfigWarning) : Except NumberFault (List String) := do
  pure ((← warnings.mapM ConfigWarning.message).map (Console.notice "Warning"))

/-- The outcome of a configuration that cannot be used. -/
def loadFailure (path : Path) : LoadError → Outcome
  | .notText => .broken .notText
  | .unreadable (.number f) => .broken (.number f)
  | .unreadable .malformed => refused ("Cannot parse " ++ path.text)
  | .config (.value key fault) => refused (ConfigError.value key fault).message
  | .config e => .broken (.config e)
where
  refused (message : String) : Outcome :=
    .failed 1 message (some "Fix the file or pass another one with --config")

/-- The configuration in a place. -/
def loadAt (w : Workspace) (m : Manner) (path : Path) : Except Outcome Loaded := do
  if w.files.isDirectory path then throw (.broken (.isDirectory path))
  let ((config, warnings), records) ← match w.files.get? path with
    | none => pure (Config.ofMissing path.text, [])
    | some ⟨none, _⟩ => throw (loadFailure path .notText)
    | some ⟨some text, _⟩ => do
      let (c, warnings) ← (Config.ofText text).mapError (loadFailure path)
      let message := s!"Loaded config from {path.text} ({c.fields.size} fields)"
      pure ((c, warnings), if m.debug then [Console.record message] else [])
  let lines ← (warningLines warnings).mapError fun f => .broken (.number f)
  pure { config, path, messages := records ++ if m.quiet then [] else lines }

/-- The configuration that is asked for. -/
def load (w : Workspace) (m : Manner) : Except Outcome Loaded :=
  match placeOf? w m.config with
  | none => .error (.broken .unknownHome)
  | some path => loadAt w m path

end SearchFilters.Cli
