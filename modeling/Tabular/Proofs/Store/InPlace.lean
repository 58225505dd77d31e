/-
# Stores that change in place

`Store.append` and `Store.remove` give a new store, and where they fail there is none, so that
nothing can be said of what a failure leaves behind.  Here the same changes are actions on one
store (`InPlace`): they read, test and write step by step, and a failure undoes nothing.  A table
of a directory is looked up anew when it is written.

* `MemoryStore.exec_append`, `Directory.exec_append` and their like: an action comes to what the
  change gives, and to the old store where the change fails;
* **`Session.exec_perform`**: so does a statement.

That holds because every action writes once, after all that can fail, and because a directory finds
the file that was read again (`Directory.exists_of_load`).
-/
import Tabular.Proofs.Store.Files
import Tabular.Session
import Tabular.Store.Memory

namespace Tabular

/-! ## 1. Actions -/

/-- An action on a store.  Where it fails, what it has written before stays written. -/
abbrev InPlace (σ α : Type) : Type := ExceptT QueryError (StateM σ) α

namespace InPlace

variable {σ α β : Type}

/-- The outcome of an action, and the store after it. -/
def exec (action : InPlace σ α) (store : σ) : Except QueryError α × σ :=
  Id.run (StateT.run (ExceptT.run action) store)

/-- A result as an action that leaves the store alone. -/
def check (result : Except QueryError α) : InPlace σ α := ExceptT.mk (pure result)

/-- What an action comes to that follows another one.  After a failure it is not run. -/
def follow (result : Except QueryError α × σ) (next : α → InPlace σ β) :
    Except QueryError β × σ :=
  match result with
  | (.ok a, after) => exec (next a) after
  | (.error e, after) => (.error e, after)

theorem exec_bind (action : InPlace σ α) (next : α → InPlace σ β) (store : σ) :
    exec (action >>= next) store = follow (exec action store) next := by
  unfold exec ExceptT.run StateT.run Id.run
  simp only [bind, ExceptT.bind, ExceptT.mk, StateT.bind, ExceptT.bindCont]
  cases action store with
  | mk result after => cases result <;> rfl

/-- What a change comes to that gives a new store, or none where it fails. -/
def settle (store : σ) (result : Except QueryError (α × σ)) : Except QueryError α × σ :=
  (result.map Prod.fst, Session.storeAfter store result)

end InPlace

open InPlace

/-! ## 2. Tables in memory -/

namespace MemoryStore

/-- The rows of a table. -/
def readRows (table : String) : InPlace MemoryStore (List Row) := do
  check ((← get).fetch table)

/-- Adds a row at the end of a table. -/
def appendInPlace (table : String) (row : Row) : InPlace MemoryStore Unit := do
  let rows ← readRows table
  modify fun store => ⟨store.tables.set table (rows ++ [row])⟩

/-- Removes the rows of a table that a test accepts. -/
def removeInPlace (table : String) (test : Row → Except QueryError Bool) :
    InPlace MemoryStore Nat := do
  let rows ← readRows table
  let (count, kept) ← check (Relation.discard test rows)
  modify fun store => ⟨store.tables.set table kept⟩
  return count

theorem exec_append (store : MemoryStore) (table : String) (row : Row) :
    exec (appendInPlace table row) store =
      settle store ((store.append table row).map fun after => ((), after)) := by
  rw [appendInPlace, append, exec_bind]
  change follow (store.fetch table, store) _ = _
  cases store.fetch table <;> rfl

theorem exec_remove (store : MemoryStore) (table : String) (test : Row → Except QueryError Bool) :
    exec (removeInPlace table test) store = settle store (store.remove table test) := by
  rw [removeInPlace, remove, exec_bind]
  change follow (store.fetch table, store) _ = _
  cases store.fetch table with
  | error e => rfl
  | ok rows =>
    rw [follow, exec_bind]
    change follow (Relation.discard test rows, store) _ =
      settle store (Relation.discard test rows >>= _)
    cases Relation.discard test rows <;> rfl

end MemoryStore

/-! ## 3. Tables in a directory -/

namespace Directory

/-- The document of a table. -/
def readDocument (table : String) : InPlace Directory Document := do
  let loaded ← check ((← get).load table)
  return loaded.2

/-- Writes the file of a table anew, at the path that is found for it then. -/
def writeDocument (table : String) (document : Document) : InPlace Directory Unit :=
  modify fun directory => directory.write (directory.locate table) document

/-- Adds a row at the end of a table. -/
def appendInPlace (table : String) (row : Row) : InPlace Directory Unit := do
  let document ← readDocument table
  writeDocument table (document.append row)

/-- Removes the rows of a table that a test accepts. -/
def removeInPlace (table : String) (test : Row → Except QueryError Bool) :
    InPlace Directory Nat := do
  let document ← readDocument table
  let (count, kept) ← check (Relation.discard test document.rows)
  writeDocument table { document with rows := kept }
  return count

theorem exec_readDocument (directory : Directory) (table : String) :
    exec (readDocument table) directory = ((directory.load table).map Prod.snd, directory) := by
  rw [readDocument, exec_bind]
  change exec (check (directory.load table) >>= _) directory = _
  rw [exec_bind]
  change follow (directory.load table, directory) _ = _
  cases directory.load table <;> rfl

theorem exec_append (directory : Directory) (table : String) (row : Row) :
    exec (appendInPlace table row) directory =
      settle directory ((directory.append table row).map fun after => ((), after)) := by
  rw [appendInPlace, append, exec_bind, exec_readDocument]
  cases hload : directory.load table with
  | error e => rfl
  | ok loaded =>
    obtain ⟨path, document⟩ := loaded
    obtain ⟨rfl, -⟩ := exists_of_load hload
    rfl

theorem exec_remove (directory : Directory) (table : String)
    (test : Row → Except QueryError Bool) :
    exec (removeInPlace table test) directory = settle directory (directory.remove table test) := by
  rw [removeInPlace, remove, exec_bind, exec_readDocument]
  cases hload : directory.load table with
  | error e => rfl
  | ok loaded =>
    obtain ⟨path, document⟩ := loaded
    obtain ⟨rfl, -⟩ := exists_of_load hload
    change exec (check (Relation.discard test document.rows) >>= _) directory =
      settle directory (Relation.discard test document.rows >>= _)
    rw [exec_bind]
    change follow (Relation.discard test document.rows, directory) _ = _
    cases Relation.discard test document.rows <;> rfl

end Directory

/-! ## 4. Statements -/

/-- A store whose changes can be made in place. -/
class InPlaceStore (σ : Type) extends Store σ where
  appendInPlace : String → Row → InPlace σ Unit
  removeInPlace : String → (Row → Except QueryError Bool) → InPlace σ Nat
  exec_append : ∀ store table row, exec (appendInPlace table row) store =
    settle store ((Store.append store table row).map fun after => ((), after))
  exec_remove : ∀ store table test,
    exec (removeInPlace table test) store = settle store (Store.remove store table test)

instance : InPlaceStore MemoryStore where
  appendInPlace := MemoryStore.appendInPlace
  removeInPlace := MemoryStore.removeInPlace
  exec_append := MemoryStore.exec_append
  exec_remove := MemoryStore.exec_remove

instance : InPlaceStore Directory where
  appendInPlace := Directory.appendInPlace
  removeInPlace := Directory.removeInPlace
  exec_append := Directory.exec_append
  exec_remove := Directory.exec_remove

variable {σ : Type} [InPlaceStore σ]

/-- Runs a statement on a store in place. -/
def Query.perform (query : Query) : InPlace σ Answer :=
  match query with
  | .select query => do
    let rows ← check (query.run (← get))
    return .rows rows
  | .insert query => do
    InPlaceStore.appendInPlace query.table query.row
    return .message ("1 row inserted into '" ++ query.table ++ "'")
  | .delete query => do
    let count ← InPlaceStore.removeInPlace query.table fun row =>
      row.satisfiesAll query.table query.conditions
    return .message (count.repr ++ " row(s) deleted from '" ++ query.table ++ "'")

theorem Query.exec_perform (query : Query) (store : σ) :
    exec query.perform store = settle store (query.run store) := by
  cases query with
  | select query =>
    rw [perform, exec_bind]
    change exec (check (query.run store) >>= _) store = _
    rw [exec_bind]
    change follow (query.run store, store) _ = settle store ((query.run store).map _)
    cases query.run store <;> rfl
  | insert query =>
    rw [perform, exec_bind, InPlaceStore.exec_append]
    change _ = settle store ((query.run store).map _)
    rw [Insert.run]
    cases Store.append store query.table query.row <;> rfl
  | delete query =>
    rw [perform, exec_bind, InPlaceStore.exec_remove]
    change _ = settle store ((query.run store).map _)
    rw [Delete.run]
    cases Store.remove store query.table _ <;> rfl

namespace Session

/-- Runs the text of a statement on a store in place. -/
def perform (sql : String) : InPlace σ Answer := do
  let query ← check (Sql.parse sql)
  query.perform

/-- **In place, a statement comes to the same**: its answer with the store after it, or its error
with the store as it was. -/
theorem exec_perform (sql : String) (store : σ) :
    exec (perform sql) store = settle store (run store sql) := by
  rw [perform, exec_bind]
  change follow (Sql.parse sql, store) _ = settle store (Sql.parse sql >>= _)
  cases Sql.parse sql with
  | error e => rfl
  | ok query => exact query.exec_perform store

end Session
end Tabular
