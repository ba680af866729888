import SearchFilters.Config.Table
import SearchFilters.Toml.Reader
import SearchFilters.Toml.Writer

/-!
# Config — Document

Configurations as the text of a file.
-/

namespace SearchFilters

/-- Why a file gives no configuration. -/
inductive LoadError where
  /-- the bytes of the file are no text -/
  | notText
  | unreadable (f : Toml.ReadFault)
  | config (e : ConfigError)
  deriving Repr, DecidableEq

namespace Config

/-- The configuration in a text, with the warnings about it. -/
def ofText (text : String) : Except LoadError (Config × List ConfigWarning) := do
  let es ← (Toml.read text).mapError LoadError.unreadable
  let c ← (ofTable es).mapError LoadError.config
  let warnings ← c.validate.mapError LoadError.config
  pure (c, warnings)

/-- The configuration in the bytes of a file, with the warnings about it. -/
def ofBytes (bytes : ByteArray) : Except LoadError (Config × List ConfigWarning) :=
  match String.fromUTF8? bytes with
  | some text => ofText text
  | none => .error .notText

/-- The configuration used when there is no file. -/
def ofMissing (path : String) : Config × List ConfigWarning := ({}, [.missingFile path])

/-- The text of a configuration. -/
def toText (c : Config) : Except NumberFault String := Toml.write c.toTable

end Config
end SearchFilters
