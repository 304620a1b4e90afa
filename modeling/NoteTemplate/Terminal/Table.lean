import NoteTemplate.Terminal.Cell

/-!
# Tables

A table has a header and rows of cells.  Every column is as wide as its widest cell,
and a cell has a space on both sides.  A row is as high as its highest cell.  The
frame is heavy around the header and light around the rows.
-/

namespace NoteTemplate

/-- A table; every row has one cell per column. -/
structure Table where
  columns : List TableColumn
  rows : List (List Text)
deriving DecidableEq, Repr

namespace Table

/-- The widths of the columns of a table. -/
def widths (table : Table) : List Nat :=
  table.rows.foldl (fun widths row => List.zipWith (fun width cell => max width (Cell.width cell))
    widths row) (table.columns.map fun column => Cell.width column.header)

/-- A horizontal line of the frame. -/
def rule (left middle right line : Char) (widths : List Nat) : Text :=
  left :: Text.join [middle] (widths.map fun width => List.replicate (width + 2) line)
    ++ [right, '\n']

/-- A row of a table.  A cell with fewer lines than the row is filled up with blank
lines. -/
def rowText (bar : Char) (format : List (Nat × Alignment)) (row : List Text) : Text :=
  let cells := List.zipWith (fun (shape : Nat × Alignment) cell =>
    Cell.lines shape.2 shape.1 cell) format row
  let height := (cells.map List.length).foldl max 1
  (List.range height).flatMap fun number =>
    let parts := List.zipWith (fun (shape : Nat × Alignment) lines =>
      ' ' :: lines.getD number (List.replicate shape.1 ' ') ++ [' ']) format cells
    bar :: Text.join [bar] parts ++ [bar, '\n']

/-- The table as it is drawn. -/
def render (table : Table) : Text :=
  let widths := table.widths
  let format := widths.zip (table.columns.map TableColumn.alignment)
  rule '┏' '┳' '┓' '━' widths
    ++ rowText '┃' format (table.columns.map TableColumn.header)
    ++ rule '┡' '╇' '┩' '━' widths
    ++ table.rows.flatMap (rowText '│' format)
    ++ rule '└' '┴' '┘' '─' widths

end Table

end NoteTemplate
