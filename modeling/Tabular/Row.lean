/-
# Rows

A row maps column names to values and keeps the order in which the columns came.  Setting a
column that is there replaces its value in place; any other column goes to the end.  That the
names are pairwise distinct is part of the type.

* `columns_insert`: the columns after an insertion;
* `get?_insert`: what every column holds after it.
-/
import Tabular.Entries
import Tabular.Value

namespace Tabular

/-- The cells of a row: columns with their values, in order. -/
abbrev Cells := Entries Value

/-- A row: cells with pairwise distinct columns. -/
structure Row where
  cells : Cells
  nodup : cells.names.Nodup
  deriving DecidableEq

namespace Row

/-- The row without columns. -/
def empty : Row := ⟨[], List.nodup_nil⟩

instance : Inhabited Row := ⟨empty⟩

/-- The columns, in order. -/
def columns (row : Row) : List String := row.cells.names

/-- The value of a column. -/
def get? (row : Row) (column : String) : Option Value := row.cells.get? column

/-- Is the column there? -/
def contains (row : Row) (column : String) : Bool := (row.get? column).isSome

/-- The number of columns. -/
def size (row : Row) : Nat := row.cells.length

/-- Is there no column? -/
def isEmpty (row : Row) : Bool := row.cells.isEmpty

/-- Sets a column: in place if it is there, else at the end. -/
def insert (row : Row) (column : String) (value : Value) : Row :=
  ⟨row.cells.set column value, Entries.nodup_names_set row.nodup⟩

/-- Sets a list of columns, one after the other. -/
def insertAll (row : Row) (cells : Cells) : Row :=
  cells.foldl (fun r cell => r.insert cell.1 cell.2) row

/-- The row made by setting a list of columns, one after the other. -/
def ofList (cells : Cells) : Row := empty.insertAll cells

theorem columns_insert (row : Row) (column : String) (value : Value) :
    (row.insert column value).columns =
      if column ∈ row.columns then row.columns else row.columns ++ [column] :=
  Entries.names_set column value row.cells

theorem get?_insert (row : Row) (column : String) (value : Value) (c : String) :
    (row.insert column value).get? c = if c = column then some value else row.get? c :=
  Entries.get?_set column value row.cells c

/-! ## References

A reference is a column name or `table.column`.  On rows that were never joined the columns
carry no table, so a reference to the primary table also finds its bare column. -/

/-- The halves of `table.column`, parted at the first point. -/
def splitReference (reference : String) : Option (String × String) :=
  let cs := reference.toList
  match cs.dropWhile (· ≠ '.') with
  | [] => none
  | _ :: column => some (String.ofList (cs.takeWhile (· ≠ '.')), String.ofList column)

/-- The value that a reference stands for on a row of a query on the table `primary`. -/
def resolve? (row : Row) (reference primary : String) : Option Value :=
  match row.get? reference with
  | some value => some value
  | none =>
    match splitReference reference with
    | some (table, column) => if table = primary then row.get? column else none
    | none => none

end Row

end Tabular
