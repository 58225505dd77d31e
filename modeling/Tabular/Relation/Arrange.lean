/-
# Sorting, projection and repeated rows

Sorting is stable and goes by several keys in turn; a field that a row does not have counts as
null.  A projection keeps the fields asked for, in their order, and drops the rows that have none
of them.  Of rows with the same cells in the same order only the first is kept, where cells are
told apart by their text `column=key`.
-/
import Tabular.Query
import Tabular.Relation.Distinct
import Tabular.Row

namespace Tabular

/-! ## 1. Sorting -/

namespace SortKey

/-- The value that a row is sorted by. -/
def value (key : SortKey) (primary : String) (row : Row) : Value :=
  (row.resolve? key.field primary).getD .null

/-- The order of two rows by one key. -/
def order (key : SortKey) (primary : String) (a b : Row) : Ordering :=
  match key.direction with
  | .ascending => (key.value primary a).sortOrder (key.value primary b)
  | .descending => (key.value primary b).sortOrder (key.value primary a)

/-- The order of two rows by several keys, of which the first that tells them apart decides. -/
def orderAll (keys : List SortKey) (primary : String) (a b : Row) : Ordering :=
  match keys with
  | [] => .eq
  | key :: rest => (key.order primary a b).then (orderAll rest primary a b)

end SortKey

namespace Relation

/-- The rows by the keys; rows that no key tells apart keep their order. -/
def sorted (keys : List SortKey) (primary : String) (rows : List Row) : List Row :=
  rows.mergeSort fun a b => (SortKey.orderAll keys primary a b).isLE

/-! ## 2. Projection -/

/-- The cells that a field stands for on a row: all of them for `*`, else one or none. -/
def fieldCells (primary : String) (row : Row) (field : Field) : Cells :=
  if field.name = "*" then row.cells
  else ((row.resolve? field.name primary).map (field.name, ·)).toList

/-- The row cut to the fields. -/
def projectRow (fields : List Field) (primary : String) (row : Row) : Row :=
  Row.ofList (fields.flatMap (fieldCells primary row))

/-- The rows cut to the fields, without those that nothing is left of. -/
def project (fields : List Field) (primary : String) (rows : List Row) : List Row :=
  (rows.map (projectRow fields primary)).filter fun row => !row.isEmpty

/-! ## 3. Repeated rows -/

/-- What a row is told apart by: a text for every cell. -/
def rowKey (row : Row) : List String := row.cells.map fun cell => cell.1 ++ "=" ++ cell.2.key

/-- The rows without repetitions. -/
def distinct (rows : List Row) : List Row := firsts rowKey rows

end Relation
end Tabular
