/-
# Answers

A statement is answered by rows or by a message.  For the terminal, rows are drawn as a table
whose columns are those of all rows, in the order in which they first appear; a cell that a row
does not have stays empty.  Widths are counted in characters.
-/
import Tabular.Json

namespace Tabular

/-- The answer to a statement. -/
inductive Answer where
  | rows (list : List Row)
  | message (text : String)

/-! ## 1. Tables for the terminal -/

namespace Drawing

/-- The columns of all rows, in the order in which they first appear. -/
def columnsOf (rows : List Row) : List String := (rows.flatMap Row.columns).eraseDups

/-- The text of a cell. -/
def cell (row : Row) (column : String) : String := (row.get? column).elim "" Value.display

/-- The width of a column: the longest among its name and its cells. -/
def width (rows : List Row) (column : String) : Nat :=
  (rows.map fun row => (cell row column).length).foldl max column.length

/-- A text filled up with spaces. -/
def pad (width : Nat) (s : String) : String :=
  s ++ String.ofList (List.replicate (width - s.length) ' ')

/-- A line of cells, each with the width of its column. -/
def line (cells : List (String × Nat)) : String :=
  "│" ++ String.join (cells.map fun cell => " " ++ pad cell.2 cell.1 ++ " │") ++ "\n"

/-- A horizontal line with its left end, its crossings and its right end. -/
def border (left middle right : String) (widths : List Nat) : String :=
  left ++ middle.intercalate (widths.map fun w => String.ofList (List.replicate (w + 2) '─')) ++
    right ++ "\n"

/-- Rows as a box, and their number. -/
def box (rows : List Row) : String :=
  let columns := columnsOf rows
  let widths := columns.map (width rows)
  border "┌" "┬" "┐" widths ++ line (columns.zip widths) ++ border "├" "┼" "┤" widths ++
    String.join (rows.map fun row => line ((columns.map (cell row)).zip widths)) ++
    border "└" "┴" "┘" widths ++ "\n" ++ rows.length.repr ++ " row(s) returned"

end Drawing

/-! ## 2. Both forms of an answer -/

namespace Answer

/-- An answer for the terminal. -/
def draw : Answer → String
  | message text => text
  | rows [] => "No rows found"
  | rows (row :: rest) => Drawing.box (row :: rest)

/-- An answer as JSON. -/
def toJson : Answer → String
  | message text => Json.quote text
  | rows list => Json.pretty list

end Answer
end Tabular
