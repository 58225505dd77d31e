/-
# Running a statement by its parts

A statement runs as what it is read as, and a query for rows runs in stages: its table is read,
the rows are restricted (`run_of_restrict_ok`, `run_of_restrict_error`) and made into the result.
A query without any clause but `WHERE` has no other stage (`run_plainSelect`).
-/
import Tabular.Proofs.Sql.ClauseOrder
import Tabular.Session
import Tabular.Store.Memory

namespace Tabular

/-! ## 1. From the text to the statement -/

namespace Sql

theorem parse_of_tokenize {sql : String} {ts : List Token} (h : tokenize sql = .ok ts) :
    parse sql = readQuery ts := by
  rw [parse, h]
  rfl

theorem exists_of_parse {sql : String} {q : Query} (h : parse sql = .ok q) :
    ∃ ts, tokenize sql = .ok ts ∧ readQuery ts = .ok q := exists_of_bind_eq_ok h

end Sql

namespace Session

variable {σ : Type} [Store σ] {store : σ}

theorem run_of_parse {sql : String} {q : Query} (h : Sql.parse sql = .ok q) :
    run store sql = q.run store := by
  rw [Session.run, h]
  rfl

theorem exists_of_run {sql : String} {r : Answer × σ} (h : run store sql = .ok r) :
    ∃ q, Sql.parse sql = .ok q ∧ q.run store = .ok r := exists_of_bind_eq_ok h

theorem run_select_of_parse {sql : String} {q : Select} {shown : List Row}
    (hparse : Sql.parse sql = .ok (.select q)) (hrun : q.run store = .ok shown) :
    run store sql = .ok (.rows shown, store) := by
  rw [run_of_parse hparse]
  simp only [Query.run, hrun]
  rfl

theorem run_select_of_parse_error {sql : String} {q : Select} {e : QueryError}
    (hparse : Sql.parse sql = .ok (.select q)) (hrun : q.run store = .error e) :
    run store sql = .error e := by
  rw [run_of_parse hparse]
  simp only [Query.run, hrun]
  rfl

end Session

/-! ## 2. From the statement to its result -/

namespace Select

variable {σ : Type} [Store σ] {store : σ} {query : Select} {rows restricted : List Row}

/-- A query on rows on which its conditions fail. -/
theorem run_of_restrict_error {e : QueryError} (hsource : query.source store = .ok rows)
    (h : Relation.restrict query.table query.conditions rows = .error e) :
    query.run store = .error e := by
  rw [run, hsource]
  change query.evaluate rows = _
  rw [evaluate, h]
  rfl

/-- A query on rows, of which its conditions leave some. -/
theorem run_of_restrict_ok (hsource : query.source store = .ok rows)
    (h : Relation.restrict query.table query.conditions rows = .ok restricted) :
    query.run store = (query.shape restricted).map query.cut := by
  rw [run, hsource]
  change query.evaluate rows = _
  simp only [evaluate, h, bind, Except.bind, pure, Except.pure]
  cases query.shape restricted <;> rfl

end Select

namespace Session

variable {σ : Type} [Store σ] {store : σ}

/-- The query for some fields of the rows that the conditions hold on. -/
def plainSelect (fields : List Field) (table : String) (conditions : List Condition) : Select where
  fields := fields
  table := table
  distinct := false
  distinctFields := []
  conditions := conditions
  join := none
  groupBy := none
  aggregated := false
  orderBy := none
  limit := none

theorem run_plainSelect {fields : List Field} {table : String} {conditions : List Condition}
    {rows kept : List Row} (hfetch : Store.fetch store table = .ok rows)
    (hrestrict : Relation.restrict table conditions rows = .ok kept) :
    (plainSelect fields table conditions).run store =
      .ok (Relation.project fields table kept) := by
  have hsource : (plainSelect fields table conditions).source store = .ok rows := by
    have hfetch' : Store.fetch store (plainSelect fields table conditions).table = .ok rows :=
      hfetch
    rw [Select.source, hfetch']
    rfl
  rw [Select.run_of_restrict_ok hsource hrestrict]
  rfl

theorem fetch_set (store : MemoryStore) (name : String) (rows : List Row) :
    (MemoryStore.fetch ⟨store.tables.set name rows⟩ name) = .ok rows := by
  rw [MemoryStore.fetch, Entries.get?_set, if_pos rfl]

/-! ## 3. Results that are computed -/

theorem eq_ok_of_toOption {ε α : Type} {x : Except ε α} {a : α} (h : x.toOption = some a) :
    x = .ok a := by
  cases x with
  | error e => simp [Except.toOption] at h
  | ok b => exact congrArg Except.ok (Option.some.inj h)

/-- The error of a result, if it is one. -/
def error? {ε α : Type} : Except ε α → Option ε
  | .ok _ => none
  | .error e => some e

theorem eq_error_of_error? {ε α : Type} {x : Except ε α} {e : ε} (h : error? x = some e) :
    x = .error e := by
  cases x with
  | error e' => exact congrArg Except.error (Option.some.inj h)
  | ok b => simp [error?] at h

end Session
end Tabular
