import SearchFilters.Console.Picture
import SearchFilters.Console.Rows

/-!
# Console — Notice

Texts as a console shows them, with pictures, without controls, and in rows.  In texts where words
in brackets could be styles, brackets stand for themselves.
-/

namespace SearchFilters.Console

/-- The controls that a console leaves out. -/
def isSilent (c : Char) : Bool := ['\x07', '\x08', '\x0b', '\x0c', '\r'].contains c

def dropSilent (s : List Char) : List Char := s.filter fun c => !isSilent c

/-! ### Brackets -/

/-- Whether a text begins, after an opening bracket, like the name of a style. -/
def isStyle : List Char → Bool
  | c :: s =>
    (('a' ≤ c && c ≤ 'z') || c == '#' || c == '/' || c == '@') &&
      (s.dropWhile fun d => d != '[' && d != ']').head? == some ']'
  | [] => false

/-- The parts of a text that look like styles, brackets included, and what stands between them. -/
def styleParts (inStyle : Bool) : List Char → List (List Char)
  | [] => [[]]
  | c :: s =>
    if inStyle && c == ']' then [c] :: styleParts false s
    else if !inStyle && c == '[' && isStyle s then [] :: Text.prepend [c] (styleParts true s)
    else Text.prepend [c] (styleParts inStyle s)

/-- A text without the backslashes right before brackets. -/
def dropGuards : List Char → List Char
  | '\\' :: '[' :: s => '[' :: dropGuards s
  | c :: s => c :: dropGuards s
  | [] => []

/-- A text that ends in a single backslash ends in two when it is guarded. -/
def guardEnd (s : List Char) : List Char :=
  match s.reverse with
  | '\\' :: '\\' :: _ => s
  | '\\' :: _ => s ++ ['\\']
  | _ => s

/-- A text among styled texts.  What looks like a style stays as it is, with the backslashes before
it, and no picture reaches over its brackets. -/
def guarded (s : List Char) : List Char :=
  (styleParts false (guardEnd s)).flatMap fun part => withPictures (dropGuards part)

/-! ### Messages -/

/-- The columns of a console. -/
def consoleWidth : Nat := 2000

/-- The rows of a message in so many columns. -/
def messageRows (n : Nat) (s : List Char) : List (List Char) :=
  (textRows n .folded (dropSilent s)).map (shorten n .folded)

/-- A text over the whole width of a console. -/
def block (s : List Char) : String :=
  String.ofList (['\n'].intercalate (messageRows consoleWidth s))

/-- A labelled message. -/
def notice (label message : String) : String :=
  block (withPictures label.toList ++ ": ".toList ++ guarded message.toList)

/-- A message. -/
def line (message : String) : String := block (withPictures message.toList)

/-- The label of a record of what happens. -/
def recordLabel : List Char := "DEBUG    ".toList

/-- A record of what happens, in which names stay names; further rows of the message stand below the
first. -/
def record (message : String) : String :=
  let rows := messageRows (consoleWidth - recordLabel.length) message.toList
  String.ofList (['\n'].intercalate (rows.zipIdx.map fun (row, i) =>
    (if i = 0 then recordLabel else List.replicate recordLabel.length ' ') ++ row))

/-- A cell of a table. -/
def cell (s : List Char) : List Char := dropSilent (guarded s)

end SearchFilters.Console
