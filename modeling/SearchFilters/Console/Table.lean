import SearchFilters.Console.Notice
import SearchFilters.Console.Widths

/-!
# Console — Table

Tables in columns as wide as their widest cell, with a rule below the titles and a row of blanks
above and below.
-/

namespace SearchFilters.Console

inductive Align where
  | left
  | right
  deriving Repr, DecidableEq

/-- A column of a table. -/
structure Column where
  title : String
  align : Align := .left
  /-- whether lines may go on in further rows -/
  wraps : Bool := true

/-- The cells of a row, in the order of the columns. -/
abbrev Row := List (List Char)

def Column.flow (c : Column) : Flow := if c.wraps then .wrapped else .unbroken

/-- The blanks on either side of a cell take two columns. -/
def padding : Nat := 2

/-! ### Columns -/

/-- The characters that end lines when a cell is measured. -/
def isLineEnd (c : Char) : Bool :=
  ['\n', '\x0b', '\x0c', '\r', '\x1c', '\x1d', '\x1e', '\u0085', '\u2028', '\u2029'].contains c

/-- The width of the widest line of a cell.  Tabs take no column here. -/
def cellWidth (s : List Char) : Nat :=
  let lines := Text.splitAll '\n' (s.map fun c => if isLineEnd c then '\n' else c)
  (lines.map Text.width).foldl max 0

/-- The width of a column from its title and its cells, up to a limit. -/
def columnWidth (limit : Nat) (title : List Char) (cells : List (List Char)) : Nat :=
  min limit ((cells.map cellWidth).foldl max (cellWidth title) + padding)

/-- The widths of the columns of a table, which has an edge on either side and gaps between. -/
def columnWidths (columns : List Column) (rows : List Row) : List Nat :=
  let limit := consoleWidth - (columns.length + 1)
  let widths := columns.zipIdx.map fun (c, i) =>
    columnWidth limit c.title.toList (rows.map fun row => row.getD i [])
  fitWidths limit (widths.zip (columns.map Column.wraps))

/-! ### Lines -/

/-- A row with blanks behind it up to a width. -/
def fill (n : Nat) (row : List Char) : List Char :=
  row ++ List.replicate (n - Text.width row) ' '

/-- A row in so many columns.  What is filled up is measured again, since a joiner at its end makes
the first blank part of it. -/
def Column.place (c : Column) (n : Nat) (row : List Char) : List Char :=
  match c.align with
  | .left => fill n (fill n (shorten n c.flow row))
  | .right =>
    let row := shorten n c.flow (Text.dropBlanksRight row)
    fill n (List.replicate (n - Text.width row) ' ' ++ row)

/-- The rows of a cell between blanks.  Between them there has to be room. -/
def Column.cellRows (c : Column) (width : Nat) (s : List Char) : List (List Char) :=
  if width ≤ padding then []
  else
    let n := width - padding
    (textRows n c.flow s).map fun row => ' ' :: c.place n row ++ [' ']

/-- A line of a table from its cells. -/
def tableLine (gap : Char) (cells : List (List Char)) : List Char :=
  ' ' :: [gap].intercalate cells ++ [' ']

/-- The lines of a row, as many as its highest cell has rows. -/
def rowLines (columns : List (Column × Nat)) (row : Row) : List (List Char) :=
  let cells := columns.zipIdx.map fun ((c, width), i) => (width, c.cellRows width (row.getD i []))
  let height := (cells.map fun c => c.2.length).foldl max 1
  (List.range height).map fun k =>
    tableLine ' ' (cells.map fun (width, rows) => rows.getD k (List.replicate width ' '))

/-- The lines of a table.  Where its columns could not give way enough, they are cropped. -/
def tableLines (columns : List Column) (rows : List Row) : List String :=
  let widths := columnWidths columns rows
  let sized := columns.zip widths
  let blank := tableLine ' ' (widths.map fun width => List.replicate width ' ')
  let rule := tableLine '─' (widths.map fun width => List.replicate width '─')
  let titles := rowLines sized (columns.map fun c => c.title.toList)
  let body := rows.flatMap (rowLines sized)
  ((blank :: titles) ++ (rule :: body) ++ [blank]).map fun s =>
    String.ofList (shorten consoleWidth .folded s)

end SearchFilters.Console
