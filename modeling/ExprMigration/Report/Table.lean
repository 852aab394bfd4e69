import ExprMigration.Text.Width

/-!
# Boxed tables

A table with a title over all columns, a row of headers and rows of cells, drawn with light box
lines.  A column is as wide as its widest cell; a title that is wider than all columns together
widens the last column.  How wide a text is, is up to the `measure` of the drawing.
-/

namespace ExprMigration

/-- The content of a table. -/
structure Table where
  title : Text
  headers : List Text
  /-- The cells of each row.  A missing cell is empty; a cell without a header is not drawn. -/
  rows : List (List Text)
deriving Repr, DecidableEq

namespace Table

/-! ## Widths -/

/-- The widths of columns, widened to the cells of a row. -/
def widen (measure : Text → Nat) : List Nat → List Text → List Nat
  | width :: widths, cell :: cells => max width (measure cell) :: widen measure widths cells
  | widths, _ => widths

/-- The widths that the columns need for their cells. -/
def cellWidths (measure : Text → Nat) (table : Table) : List Nat :=
  table.rows.foldl (widen measure) (table.headers.map measure)

/-- The width of some columns with the lines between them. -/
def innerWidth (widths : List Nat) : Nat := widths.foldl (· + ·) 0 + 3 * (widths.length - 1)

/-- The widths of columns with the last one widened. -/
def widenLast (extra : Nat) : List Nat → List Nat
  | [] => []
  | [width] => [width + extra]
  | width :: widths => width :: widenLast extra widths

/-- The widths of the columns of a table. -/
def widths (measure : Text → Nat) (table : Table) : List Nat :=
  let needed := table.cellWidths measure
  widenLast (measure table.title - innerWidth needed) needed

/-! ## Lines -/

/-- A text filled up with spaces. -/
def pad (measure : Text → Nat) (width : Nat) (t : Text) : Text :=
  t ++ List.replicate (width - measure t) ' '

/-- A horizontal line below or above cells of a width. -/
def rule (width : Nat) : Text := List.replicate (width + 2) '─'

/-- A horizontal line through the whole table. -/
def border (left middle right : Char) (widths : List Nat) : Text :=
  left :: Text.join [middle] (widths.map rule) ++ [right]

/-- The padded cells of a row, one for each column. -/
def paddedCells (measure : Text → Nat) : List Nat → List Text → List Text
  | [], _ => []
  | width :: widths, [] => (' ' :: pad measure width [] ++ [' ']) :: paddedCells measure widths []
  | width :: widths, cell :: cells =>
    (' ' :: pad measure width cell ++ [' ']) :: paddedCells measure widths cells

/-- A row of cells. -/
def rowLine (measure : Text → Nat) (widths : List Nat) (cells : List Text) : Text :=
  '│' :: Text.join ['│'] (paddedCells measure widths cells) ++ ['│']

/-- The lines of a table. -/
def lines (measure : Text → Nat) (table : Table) : List Text :=
  let widths := table.widths measure
  let inner := max (innerWidth (table.cellWidths measure)) (measure table.title)
  [ '┌' :: rule inner ++ ['┐'],
    '│' :: ' ' :: pad measure inner table.title ++ [' ', '│'],
    border '├' '┬' '┤' widths,
    rowLine measure widths table.headers,
    border '├' '┼' '┤' widths ] ++
  table.rows.map (rowLine measure widths) ++
  [border '└' '┴' '┘' widths]

/-- The lines of a table, each with its end. -/
def drawWith (measure : Text → Nat) (table : Table) : Text :=
  (table.lines measure).flatMap (· ++ ['\n'])

/-- A table as it is shown on a terminal. -/
def draw (table : Table) : Text := table.drawWith Text.width

end Table
end ExprMigration
