/-
# Tables in memory

A store that holds the rows of its tables themselves.  Names are in lower case.
-/
import Tabular.Store.Basic
import Tabular.Text.Casing

namespace Tabular

/-- Tables by name. -/
structure MemoryStore where
  tables : Entries (List Row)

namespace MemoryStore

/-- The store without tables. -/
def empty : MemoryStore := ⟨[]⟩

/-- The store with a table made or replaced; its name becomes lower case. -/
def create (store : MemoryStore) (name : String) (rows : List Row) : MemoryStore :=
  ⟨store.tables.set (Text.lower name) rows⟩

/-- The rows of a table. -/
def fetch (store : MemoryStore) (table : String) : Except QueryError (List Row) :=
  match store.tables.get? table with
  | some rows => .ok rows
  | none => .error (.tableNotFound table)

/-- The store with a row added at the end of a table. -/
def append (store : MemoryStore) (table : String) (row : Row) : Except QueryError MemoryStore :=
  (store.fetch table).map fun rows => ⟨store.tables.set table (rows ++ [row])⟩

/-- The number of rows of a table that a test accepts, and the store without them. -/
def remove (store : MemoryStore) (table : String) (test : Row → Except QueryError Bool) :
    Except QueryError (Nat × MemoryStore) := do
  let rows ← store.fetch table
  let (count, kept) ← Relation.discard test rows
  return (count, ⟨store.tables.set table kept⟩)

instance : Store MemoryStore where
  fetch := fetch
  append := append
  remove := remove
  tables store := .ok (sortNames store.tables.names)

end MemoryStore
end Tabular
