/-
# Tables for a terminal

Rows are shown in a frame: a header with the column names of the first row, and the rows below
it with rules between them.  A cell is the display text of its value, one line of the table for
each of its lines.  A column is as wide as its widest line and at least one cell, with a blank
on either side; a row that is shorter than the longest is filled with empty cells.
-/
import BulkValues.Row
import BulkValues.Text.Width
import BulkValues.Value.Display

namespace BulkValues

open BulkValues.Text

/-- A horizontal line of the frame. -/
structure Rule where
  /-- The left end. -/
  left : Char
  /-- What the line is made of. -/
  fill : Char
  /-- Where a column ends and the next begins. -/
  cross : Char
  /-- The right end. -/
  right : Char

namespace Rule

/-- Above everything. -/
def top : Rule := ⟨'┌', '─', '┬', '┐'⟩

/-- Below the header. -/
def belowHeader : Rule := ⟨'╞', '═', '╪', '╡'⟩

/-- Between two rows. -/
def between : Rule := ⟨'├', '╌', '┼', '┤'⟩

/-- Below everything. -/
def bottom : Rule := ⟨'└', '─', '┴', '┘'⟩

/-- The line over columns of these widths. -/
def draw (r : Rule) (widths : List Nat) : List Char :=
  r.left :: [r.cross].intercalate (widths.map fun w => List.replicate (w + 2) r.fill) ++ [r.right]

end Rule

namespace Table

/-- A cell as its lines. -/
abbrev Cell := List (List Char)

/-- The lines of a text. -/
def cellOf (text : String) : Cell := text.toList.splitOn '\n'

/-- The width of a cell. -/
def cellWidth (c : Cell) : Nat := (c.map displayWidth).foldl max 0

/-- The widths of the columns of some rows: as many as the longest row has, each at least one. -/
def widths (rows : List (List Cell)) : List Nat :=
  (List.range ((rows.map List.length).foldl max 0)).map fun i =>
    (rows.map fun row => (row[i]?.map cellWidth).getD 0).foldl max 1

/-- A line of a cell in a column of some width. -/
def pad (width : Nat) (line : List Char) : List Char :=
  ' ' :: line ++ List.replicate (width - displayWidth line) ' ' ++ [' ']

/-- The lines of a row. -/
def drawRow (widths : List Nat) (row : List Cell) : List (List Char) :=
  let cells := widths.zipIdx.map fun (w, i) => (w, row.getD i [[]])
  let height := (cells.map fun c => c.2.length).foldl max 0
  (List.range height).map fun i =>
    '│' :: ['┆'].intercalate (cells.map fun (w, c) => pad w (c.getD i [])) ++ ['│']

/-- The lines of rows with rules between them. -/
def drawRows (widths : List Nat) (rows : List (List Cell)) : List (List Char) :=
  [Rule.between.draw widths].intercalate (rows.map (drawRow widths))

/-- The lines of a table with these rows below a header. -/
def drawBelow (header : List Cell) (rows : List (List Cell)) : List (List Char) :=
  let ws := widths (header :: rows)
  Rule.top.draw ws :: drawRow ws header ++ Rule.belowHeader.draw ws :: drawRows ws rows ++
    [Rule.bottom.draw ws]

/-- The cells of the values of a row. -/
def valueCells (row : Row) : List Cell := row.values.map fun (v : Value) => cellOf v.display

/-- The lines of the table of some rows; without rows only the frame. -/
def lines (rows : List Row) : List String :=
  let drawn := match rows with
    | [] => [Rule.top.draw [], Rule.bottom.draw []]
    | first :: _ =>
      drawBelow (first.columns.map cellOf) (rows.map valueCells)
  drawn.map String.ofList

end Table

end BulkValues
