import SearchFilters.Console.PictureNames
import SearchFilters.Text.Blank

/-!
# Console — Picture

A name between colons stands for a picture.  An ending of the name chooses how the picture is drawn.
A name that has no picture stays as it is, with both its colons.
-/

namespace SearchFilters.Console

/-- The picture that follows a name in a row. -/
def pictureIn? (name : String) : List String → Option String
  | n :: picture :: row => if n == name then some picture else pictureIn? name row
  | _ => none

/-- The picture of a name. -/
def pictureOf? (name : String) : Option String :=
  pictureRows.findSome? fun row => pictureIn? name (row.splitOn " ")

/-- A name without its ending, and the mark that the ending stands for. -/
def cutEnding (name : List Char) : List Char × List Char :=
  if "-emoji".toList.isSuffixOf name then (name.take (name.length - 6), ['\uFE0F'])
  else if "-text".toList.isSuffixOf name then (name.take (name.length - 5), ['\uFE0E'])
  else (name, [])

/-- The capital letters beyond ASCII whose small letters occur in names, each with its small letter:
the last two are the signs of the units kelvin and ångström. -/
def capitals : List (Char × Char) :=
  [('Ã', 'ã'), ('Å', 'å'), ('Ç', 'ç'), ('É', 'é'), ('Í', 'í'), ('Ô', 'ô'), ('\u212A', 'k'),
   ('\u212B', 'å')]

/-- A letter of a name as a small letter. -/
def smallLetter (c : Char) : Char := (capitals.lookup c).getD c.toLower

/-- What a name between colons is shown as. -/
def drawn (name : List Char) : List Char :=
  let (stem, mark) := cutEnding name
  match pictureOf? (String.ofList (stem.map smallLetter)) with
  | some picture => picture.toList ++ mark
  | none => ':' :: name ++ [':']

/-- A text with pictures in place of their names, up to a number of steps. -/
def drawNames : Nat → List Char → List Char
  | 0, s => s
  | _, [] => []
  | fuel + 1, c :: s =>
    if c == ':' then
      let name := s.takeWhile fun d => d != ':' && !Text.isBlank d
      match s.drop name.length with
      | ':' :: rest => drawn name ++ drawNames fuel rest
      | _ => c :: drawNames fuel s
    else c :: drawNames fuel s

/-- A text with pictures in place of their names. -/
def withPictures (s : List Char) : List Char := drawNames s.length s

end SearchFilters.Console
