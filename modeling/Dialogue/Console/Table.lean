import Dialogue.Text.Separator
import Dialogue.Text.Width

/-!
# Tables

A table of texts drawn with plain characters.  Every column is as wide as its
widest line, with a space at both sides; a row is as high as its highest cell,
and cells are cut into lines where their texts are.
-/

namespace Dialogue.Console

/-- A header and rows, each with one text per column. -/
structure Table where
  header : List String
  rows : List (List String)

namespace Table

/-- The lines of a cell. -/
def cellLines (cell : String) : List String :=
  Text.piecesAt '\n' cell

/-- The columns that a cell takes. -/
def cellWidth (cell : String) : Nat :=
  ((cellLines cell).map Text.width).foldl max 0

/-- The widths of columns, given those of the rows above. -/
def widen : List Nat → List String → List Nat
  | [], cells => cells.map cellWidth
  | widths, [] => widths
  | width :: widths, cell :: cells => max width (cellWidth cell) :: widen widths cells

/-- The widths of the columns of a table. -/
def widths (table : Table) : List Nat :=
  table.rows.foldl widen (table.header.map cellWidth)

/-- A character, several times. -/
def times (count : Nat) (c : Char) : String :=
  String.ofList (List.replicate count c)

/-- A line across the table: a character per column, and others at the ends and
between columns. -/
def ruler (widths : List Nat) (left fill between right : Char) : String :=
  String.singleton left ++
    String.intercalate (String.singleton between)
      (widths.map fun width => times (width + 2) fill) ++
    String.singleton right

/-- A line of a cell, filled up to the width of its column. -/
def fillUp (width : Nat) (line : String) : String :=
  " " ++ line ++ times (width - Text.width line) ' ' ++ " "

/-- The lines of a row. -/
def rowLines (widths : List Nat) (cells : List String) : List String :=
  let columns := cells.map cellLines
  let height := (columns.map List.length).foldl max 0
  (List.range height).map fun index =>
    "|" ++ String.intercalate "|"
      ((widths.zip columns).map fun (width, lines) =>
        fillUp width (lines.getD index "")) ++ "|"

/-- The lines of a table. -/
def lines (table : Table) : List String :=
  let widths := table.widths
  let edge := ruler widths '+' '-' '+' '+'
  let between := ruler widths '|' '-' '+' '|'
  let body := List.intercalate [between] (table.rows.map (rowLines widths))
  [edge] ++ rowLines widths table.header ++ [ruler widths '+' '=' '=' '+'] ++
    body ++ [edge]

/-- The text of a table, without a line break at its end. -/
def text (table : Table) : String :=
  String.intercalate "\n" table.lines

end Table

end Dialogue.Console
