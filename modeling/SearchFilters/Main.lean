import SearchFilters.Cli.Run

/-!
# Main

The program: looks at the files that its arguments name, runs, and does what the outcome says.
-/

namespace SearchFilters.Cli

/-- What stands in a place: a file, a directory, or nothing. -/
inductive Sight where
  | file (f : File)
  | directory
  | nothing

/-- Looks at a place in a directory. -/
def look (p : Path) : IO Sight := do
  try
    let bytes ← IO.FS.readBinFile p.text
    pure (.file { text := String.fromUTF8? bytes })
  catch
    | .noFileOrDirectory .. => pure .nothing
    | .inappropriateType .. => pure .directory
    | _ => pure (.file { text := none })

/-- The files with what is seen on the way to a place. -/
def lookAlong (fs : Files) (p : Path) : IO Files := do
  let mut fs := fs
  for n in List.range (p.length + 1) do
    let q := p.take n
    match ← look q with
    | .directory => fs := { fs with directories := q :: fs.directories }
    | .file f => return { fs with files := (q, f) :: fs.files }
    | .nothing => return fs
  return fs

/-- Where the program runs, with the files that its arguments name. -/
def survey (arguments : List String) : IO Workspace := do
  let directory := (Path.parts (← IO.currentDir).toString).filter (· != "")
  let home := (Path.parts ((← IO.getEnv "HOME").getD "/")).filter (· != "")
  let empty : Workspace := { files := {}, directory, home }
  let places := (mentionedPaths arguments).flatMap (Path.reached directory home empty.homes)
  let mut files := empty.files
  for p in defaultConfigPath empty :: directory :: places do
    files ← lookAlong files p
  pure { empty with files }

/-- Writes a private file in one step. -/
def writePrivate (p : Path) (text : String) : IO Unit := do
  let directory := Path.text p.dropLast
  IO.FS.createDirAll directory
  let stamp ← IO.monoNanosNow
  let temporary := s!"{directory}/.tmp-{stamp}.toml"
  IO.FS.writeFile temporary ""
  IO.setAccessRights temporary { user := { read := true, write := true } }
  IO.FS.writeFile temporary text
  IO.FS.rename temporary p.text

def Line.show : Line → IO Unit
  | .result s => IO.println s
  | .message s => IO.eprintln s

/-- Does what is done to the files.  Why the system refuses it is returned. -/
def Deed.perform : Deed → IO (Option Hindrance)
  | .make _ => pure none
  | .write p text => do
    try
      writePrivate p text
      pure none
    catch e => pure (some { reach := p.length, message := toString e })

end SearchFilters.Cli

open SearchFilters.Cli in
/-- Runs the program.  What is refused while it runs shows in the outcome from there on. -/
def main (arguments : List String) : IO UInt32 := do
  let workspace ← survey arguments
  let outcome := intent {} workspace arguments
  outcome.lines.forM Line.show
  let hindrance ← match outcome.deed with
    | some d => d.perform
    | none => pure none
  let outcome := intent { hindrance? := fun _ => hindrance } workspace arguments
  outcome.more.forM Line.show
  match outcome.ending with
  | .exit code => pure code.toUInt32
  | .breakdown _ =>
    IO.eprintln "Error: Cannot go on"
    pure 1
