import SearchFilters.Storage.Path
import SearchFilters.Text.Quoted

/-!
# Storage — Files

Files with their texts.  A directory is there if it is known or lies on the way to something that
is.
-/

namespace SearchFilters

/-- What a file holds. -/
structure File where
  /-- none if the bytes of the file are no text -/
  text : Option String
  /-- whether only the owner may read it -/
  isPrivate : Bool := false
  deriving Repr, DecidableEq

/-- Why a file cannot be written, as far as what stands on its way tells. -/
inductive FileFault where
  /-- a file stands in the place of the directory -/
  | exists (directory : Path)
  /-- a file stands on the way to the directory -/
  | notDirectory (directory : Path)
  /-- a directory stands in the place of the file -/
  | isDirectory (path : Path)
  deriving Repr, DecidableEq

/-- The name that a new file has until it takes its place; the star stands for random letters. -/
def temporaryName : String := ".tmp-*.toml"

def FileFault.message : FileFault → String
  | .exists d => "[Errno 17] File exists: " ++ Text.quotedText d.text
  | .notDirectory d => "[Errno 20] Not a directory: " ++ Text.quotedText d.text
  | .isDirectory p =>
    "[Errno 21] Is a directory: " ++ Text.quotedText (Path.text (p.dropLast ++ [temporaryName])) ++
      " -> " ++ Text.quotedText p.text

/-- Why the system refuses a write that nothing stands in the way of: there is no room, a name is too
long, or a directory may not be changed.  The directories on the way to a file are made one after
another before it is written, so that some or all of them are there by then. -/
structure Hindrance where
  /-- how far down the way the directories reach that are there -/
  reach : Nat
  /-- the words of the system -/
  message : String
  deriving Repr, DecidableEq

/-- The last directory that is there when a write in a place is refused. -/
def Hindrance.directory (h : Hindrance) (p : Path) : Path := p.dropLast.take h.reach

/-- The files that a program sees. -/
structure Files where
  files : List (Path × File) := []
  /-- directories that are there even if they are empty -/
  directories : List Path := []

namespace Files

def get? (fs : Files) (p : Path) : Option File := (fs.files.find? fun e => e.1 == p).map Prod.snd

def isFile (fs : Files) (p : Path) : Bool := (fs.get? p).isSome

/-- Whether a place is a directory; the root is one, whatever else is known. -/
def isDirectory (fs : Files) (p : Path) : Bool :=
  !fs.isFile p &&
    (([] :: fs.directories).any (p.isPrefixOf ·) || fs.files.any fun e => p.isPrefixOf e.1)

/-- Whether something is there. -/
def has (fs : Files) (p : Path) : Bool := fs.isFile p || fs.isDirectory p

/-- What stands in the way of writing a file in a place, if something does.  Nothing is made then, as
everything in front of it is there already. -/
def writeFault? (fs : Files) (p : Path) : Option FileFault :=
  let directory := p.dropLast
  if fs.isFile directory then some (.exists directory)
  else if (List.range directory.length).any fun n => fs.isFile (directory.take n) then
    some (.notDirectory directory)
  else if fs.isDirectory p then some (.isDirectory p)
  else none

/-- The files after directories are made as far as a place. -/
def make (fs : Files) (directory : Path) : Files :=
  { fs with directories := directory :: fs.directories }

/-- The files after a private file is written; its directories are made if need be. -/
def put (fs : Files) (p : Path) (text : String) : Files :=
  { fs with
    files := (p, { text := some text, isPrivate := true }) :: fs.files.filter fun e => e.1 != p }

/-- Follows the parts of a written path, each of which but the last has to be a directory. -/
def follow? (fs : Files) : Path → List String → Option Path
  | base, [] => some base
  | base, part :: rest =>
    if fs.isDirectory base then
      if part == "" || part == "." then fs.follow? base rest
      else if part == ".." then fs.follow? base.dropLast rest
      else if fs.has (base ++ [part]) then fs.follow? (base ++ [part]) rest
      else none
    else none

/-- Whether a written path, seen from a directory, is a directory. -/
def namesDirectory (fs : Files) (directory : Path) (written : String) : Bool :=
  let start := if Path.isAbsolute written then [] else directory
  match fs.follow? start (Path.parts written) with
  | some p => written != "" && fs.isDirectory p
  | none => false

/-- **What is written in a place stands there, and every other file is as it was.** -/
theorem get?_put (fs : Files) (p q : Path) (text : String) :
    (fs.put p text).get? q =
      if q = p then some { text := some text, isPrivate := true } else fs.get? q := by
  by_cases h : q = p
  · simp [get?, put, h]
  · have hp : (p == q) = false := by simpa using fun e => h e.symm
    simp only [get?, put, List.find?_cons, hp, if_neg h, List.find?_filter]
    congr 2
    funext e
    by_cases he : e.1 = q
    · simp [he, h]
    · simp [he]

end Files
end SearchFilters
