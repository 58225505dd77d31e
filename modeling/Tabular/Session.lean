/-
# Running statements

A query for rows reads its tables, joins them, and restricts the result to the rows that its
conditions hold on.  What is left is reduced to one row, or grouped, or else sorted, projected
and freed from repetitions; groups are sorted too.  The limit comes last.

The other statements change one table of the store.  Where a statement fails there is no new
store, so the old one stays.
-/
import Tabular.Answer
import Tabular.Relation.Arrange
import Tabular.Relation.Join
import Tabular.Relation.Reduce
import Tabular.Sql.Statement
import Tabular.Store.Basic

namespace Tabular

variable {σ : Type} [Store σ]

/-! ## 1. Queries for rows -/

namespace Select

/-- The rows by the sort keys, if there are any. -/
def arrange (query : Select) (rows : List Row) : List Row :=
  query.orderBy.elim rows fun keys => Relation.sorted keys query.table rows

/-- The first rows, as many as the limit says. -/
def cut (query : Select) (rows : List Row) : List Row :=
  query.limit.elim rows fun n => rows.take n

/-- The result that the restricted rows are made into, before the limit. -/
def shape (query : Select) (rows : List Row) : Except QueryError (List Row) :=
  if query.aggregated then (Relation.aggregated query.fields query.table rows).map fun row => [row]
  else
    match query.groupBy with
    | some references =>
      (Relation.grouped references query.fields query.table rows).map query.arrange
    | none =>
      let projected := Relation.project query.fields query.table (query.arrange rows)
      .ok (if query.distinct then Relation.distinct projected else projected)

/-- The result on the rows of the table or join that the query is on. -/
def evaluate (query : Select) (rows : List Row) : Except QueryError (List Row) := do
  let restricted ← Relation.restrict query.table query.conditions rows
  let shaped ← query.shape restricted
  return query.cut shaped

/-- The rows of the table or join that the query is on. -/
def source (query : Select) (store : σ) : Except QueryError (List Row) := do
  let rows ← Store.fetch store query.table
  match query.join with
  | none => return rows
  | some join =>
    let joined ← Store.fetch store join.table
    return join.rows query.table (query.fields.filterMap Field.column?) rows joined

/-- The result of the query. -/
def run (query : Select) (store : σ) : Except QueryError (List Row) :=
  query.source store >>= query.evaluate

end Select

/-! ## 2. Changes -/

/-- The row that a statement adds: its values without blanks around them and without quotes. -/
def Insert.row (query : Insert) : Row :=
  Row.ofList (query.columns.zip (query.values.map fun value =>
    .text (String.ofList (Text.unquote (Text.trim value.toList)))))

/-- Adds a row. -/
def Insert.run (query : Insert) (store : σ) : Except QueryError (String × σ) :=
  (Store.append store query.table query.row).map fun store =>
    ("1 row inserted into '" ++ query.table ++ "'", store)

/-- Removes the rows that all conditions hold on. -/
def Delete.run (query : Delete) (store : σ) : Except QueryError (String × σ) :=
  (Store.remove store query.table fun row => row.satisfiesAll query.table query.conditions).map
    fun (count, store) => (count.repr ++ " row(s) deleted from '" ++ query.table ++ "'", store)

/-! ## 3. Statements -/

/-- The answer to a statement, and the store after it. -/
def Query.run (query : Query) (store : σ) : Except QueryError (Answer × σ) :=
  match query with
  | .select query => (query.run store).map fun rows => (.rows rows, store)
  | .insert query => (query.run store).map fun (text, store) => (.message text, store)
  | .delete query => (query.run store).map fun (text, store) => (.message text, store)

namespace Session

/-- The answer to the text of a statement, and the store after it. -/
def run (store : σ) (sql : String) : Except QueryError (Answer × σ) :=
  Sql.parse sql >>= (·.run store)

/-- The rows that the text of a query asks for. -/
def runSelect (store : σ) (sql : String) : Except QueryError (List Row) :=
  Sql.parseSelect sql >>= (·.run store)

/-- Adds the row that a text describes. -/
def runInsert (store : σ) (sql : String) : Except QueryError (String × σ) :=
  Sql.parseInsert sql >>= (·.run store)

/-- Removes the rows that a text describes. -/
def runDelete (store : σ) (sql : String) : Except QueryError (String × σ) :=
  Sql.parseDelete sql >>= (·.run store)

/-- The store after a statement that may fail. -/
def storeAfter {α : Type} (store : σ) (result : Except QueryError (α × σ)) : σ :=
  match result with
  | .ok (_, changed) => changed
  | .error _ => store

end Session
end Tabular
