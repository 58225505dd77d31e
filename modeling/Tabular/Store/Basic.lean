/-
# Stores

A store holds tables by name.  Reading a table gives its rows, always in the same order while the
store does not change.  A change gives a new store, and nothing where it fails.
-/
import Tabular.Error
import Tabular.Relation.Restrict
import Tabular.Row

namespace Tabular

/-- What a store of tables can do. -/
class Store (σ : Type) where
  /-- The rows of a table. -/
  fetch : σ → String → Except QueryError (List Row)
  /-- The store with a row added at the end of a table. -/
  append : σ → String → Row → Except QueryError σ
  /-- The number of rows of a table that a test accepts, and the store without them.  Where the
  test fails on a row, so does the whole. -/
  remove : σ → String → (Row → Except QueryError Bool) → Except QueryError (Nat × σ)
  /-- The names of all tables, sorted. -/
  tables : σ → Except QueryError (List String)

namespace Relation

/-- The rows that a test does not accept, and how many it accepts. -/
def discard {ε : Type} (test : Row → Except ε Bool) (rows : List Row) :
    Except ε (Nat × List Row) :=
  (filterOk (fun row => (test row).map not) rows).map fun kept =>
    (rows.length - kept.length, kept)

end Relation

/-- Names in ascending order. -/
def sortNames (names : List String) : List String := names.mergeSort fun a b => a ≤ b

end Tabular
