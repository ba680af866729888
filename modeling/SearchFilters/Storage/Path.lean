import SearchFilters.Text.Split

/-!
# Storage — Path

Places of files: the names of the directories on the way from the root, and the name of the file.
-/

namespace SearchFilters

/-- An absolute path. -/
abbrev Path := List String

namespace Path

def text (p : Path) : String := "/" ++ "/".intercalate p

/-- The parts of a written path between its slashes. -/
def parts (written : String) : List String := (Text.splitAll '/' written.toList).map String.ofList

def isAbsolute (written : String) : Bool := written.startsWith "/"

/-- A path with its upward steps taken. -/
def climb : Path → List String → Path
  | base, [] => base
  | base, part :: rest =>
    if part == ".." then climb base.dropLast rest else climb (base ++ [part]) rest

/-- The path that a written one means, seen from a directory.  A tilde in front stands for the home
directory, or for that of another whose name follows it. -/
def resolve? (directory home : Path) (homes : String → Option Path) (written : String) :
    Option Path :=
  let parts := (parts written).filter fun p => p != "" && p != "."
  if isAbsolute written then some (climb [] parts)
  else
    match parts with
    | first :: rest =>
      if first == "~" then some (climb home rest)
      else if first.startsWith "~" then (homes (first.drop 1).toString).map fun h => climb h rest
      else some (climb directory parts)
    | [] => some directory

/-- The places on the way from a path along written parts. -/
def stations : Path → List String → List Path
  | base, [] => [base]
  | base, part :: rest =>
    base :: stations (if part == "" || part == "." then base else climb base [part]) rest

/-- The places that a written path, seen from a directory, leads through. -/
def reached (directory home : Path) (homes : String → Option Path) (written : String) :
    List Path :=
  let start := if isAbsolute written then [] else directory
  stations start (parts written) ++ (resolve? directory home homes written).toList

end Path
end SearchFilters
