/-
# Joins

A join pairs the rows of the primary table with those of a second table where a column of the
one loosely equals a column of the other.  An inner join gives a row for every such pair; a left
(right) join adds one for every primary (joined) row without partner, at its place.

The rows of an inner join hold the fields that the query asks for and nothing else.  Those of the
other joins first hold every primary column under the name `table.column`, null where there is
no primary row, and then the fields asked for, null where their side has none.
-/
import Tabular.Query
import Tabular.Row

namespace Tabular

/-- The column that a field reads, if it reads a single one. -/
def Field.column? (field : Field) : Option String :=
  (match field.aggregate with
    | some call => call.column?
    | none => some field.name).filter (· ≠ "*")

namespace Join

/-! ## 1. Partners -/

/-- Is a reference qualified with a table? -/
def belongsTo (table reference : String) : Bool :=
  (Row.splitReference reference).any fun parts => parts.1 = table

/-- The column that a reference names, without its table. -/
def columnOf (reference : String) : String :=
  (Row.splitReference reference).elim reference Prod.snd

/-- Is the equality written with the joined table first?  Its sides may stand either way round;
the left one is the joined table's if it alone names that table. -/
def isReversed (join : Join) : Bool :=
  belongsTo join.table join.left && !belongsTo join.table join.right

/-- The column compared on primary rows. -/
def primaryKey (join : Join) : String :=
  columnOf (if join.isReversed then join.right else join.left)

/-- The column compared on joined rows. -/
def joinedKey (join : Join) : String :=
  columnOf (if join.isReversed then join.left else join.right)

/-- Are a primary and a joined row partners?  A null has no partner. -/
def pairs (join : Join) (primaryRow joinedRow : Row) : Bool :=
  match primaryRow.get? join.primaryKey, joinedRow.get? join.joinedKey with
  | some x, some y => !x.isNull && x.looselyEquals y
  | _, _ => false

/-! ## 2. Joined rows -/

/-- The table that a field is read from. -/
inductive Side where
  | primary | joined
  deriving DecidableEq

/-- Where a field is read from, and its bare column.  Bare fields belong to the primary table;
qualified ones belong to the joined table unless they name the primary one. -/
def source (primary field : String) : Side × String :=
  match Row.splitReference field with
  | some (table, column) => (if table = primary then .primary else .joined, column)
  | none => (.primary, field)

/-- The value of a field in a pair of rows, either of which may be missing. -/
def fieldValue? (primary : String) (primaryRow joinedRow : Option Row) (field : String) :
    Option Value :=
  match source primary field with
  | (.primary, column) => primaryRow.bind (·.get? column)
  | (.joined, column) => joinedRow.bind (·.get? column)

/-- A row of an inner join: the fields that the pair has. -/
def innerRow (primary : String) (fields : List String) (primaryRow joinedRow : Row) : Row :=
  Row.ofList (fields.filterMap fun field =>
    (fieldValue? primary (some primaryRow) (some joinedRow) field).map fun value => (field, value))

/-- A row of an outer join: primary cells under qualified names, then all fields. -/
def outerRow (primary : String) (fields : List String) (cells : Cells)
    (primaryRow joinedRow : Option Row) : Row :=
  Row.ofList
    (cells.map (fun cell => (primary ++ "." ++ cell.1, cell.2)) ++
      fields.map fun field => (field, (fieldValue? primary primaryRow joinedRow field).getD .null))

/-- The columns of the first row, all null. -/
def nullCells (rows : List Row) : Cells :=
  (rows.head?.elim [] Row.columns).map fun column => (column, .null)

/-! ## 3. The three joins -/

/-- The rows of an inner join, by primary row and then by joined row. -/
def innerRows (join : Join) (primary : String) (fields : List String)
    (primaryRows joinedRows : List Row) : List Row :=
  primaryRows.flatMap fun p =>
    (joinedRows.filter (join.pairs p)).map (innerRow primary fields p)

/-- The rows of a left join, by primary row and then by joined row. -/
def leftRows (join : Join) (primary : String) (fields : List String)
    (primaryRows joinedRows : List Row) : List Row :=
  primaryRows.flatMap fun p =>
    match joinedRows.filter (join.pairs p) with
    | [] => [outerRow primary fields p.cells (some p) none]
    | partners => partners.map fun j => outerRow primary fields p.cells (some p) (some j)

/-- The rows of a right join, by joined row and then by primary row. -/
def rightRows (join : Join) (primary : String) (fields : List String)
    (primaryRows joinedRows : List Row) : List Row :=
  joinedRows.flatMap fun j =>
    match primaryRows.filter (join.pairs · j) with
    | [] => [outerRow primary fields (nullCells primaryRows) none (some j)]
    | partners => partners.map fun p => outerRow primary fields p.cells (some p) (some j)

/-- The rows of a join. -/
def rows (join : Join) (primary : String) (fields : List String)
    (primaryRows joinedRows : List Row) : List Row :=
  match join.kind with
  | .inner => join.innerRows primary fields primaryRows joinedRows
  | .left => join.leftRows primary fields primaryRows joinedRows
  | .right => join.rightRows primary fields primaryRows joinedRows

end Join
end Tabular
