/-
# Stores that can be exchanged

A table with plain columns can be held in memory or as a file, and hardly any statement tells the
two apart.  `Mirrors` relates the stores: both hold one table of the same rows, the directory as the
text that these rows are written as.

* `Mirrors.fetch_same`: related stores give the same rows for every name that a statement can
  hold;
* `Mirrors.run`: a statement gives the same answer on both, or fails on both (`Alike`), and leaves
  them related;
* **`Session.history_agree`**: so it is for every sequence of statements, step by step.

What is asked of a statement is in `Admissible`: its names of tables lead to no other directory,
and a new row of the table lists exactly the columns of the table.  Everything else is left
open: the cells, the conditions, joins of the table with itself, other tables, wrong statements.

The errors differ in one case (`SameError`).  A store in memory can be asked for any name, whereas
the system refuses names that no file can have, and a directory says so
(`Session.answers_differ`).
-/
import Tabular.Proofs.Delimited.Plain
import Tabular.Proofs.Relation.Restrict
import Tabular.Proofs.Session.Run
import Tabular.Proofs.Sql.Names
import Tabular.Proofs.Store.Locating

namespace Tabular

open Document

/-- A directory that holds one table, as the text it is written as. -/
def Directory.holding (around : Surroundings) (table : String) (document : Document) : Directory :=
  ⟨around, some [(pathOf table, .text document.toText)]⟩

/-! ## 1. Related stores -/

/-- A table that can be held in either store. -/
structure Exchangeable (table : String) (columns : List String) (delimiter : Char) : Prop where
  lower : Text.lower table = table
  isLocal : '/' ∉ table.toList
  columns : PlainColumns columns
  delimiter_mem : delimiter ∈ candidates

/-- The store and the directory hold one table, with the same full rows. -/
structure Mirrors (around : Surroundings) (table : String) (columns : List String)
    (delimiter : Char) (rows : List Row) (store : MemoryStore) (directory : Directory) : Prop where
  store_eq : store = ⟨[(table, rows)]⟩
  around_eq : directory.around = around
  files_eq : directory.files =
    some [(Directory.pathOf table, .text (toText ⟨columns, delimiter, rows⟩))]
  full : ∀ row ∈ rows, FullRow columns row

/-- The same error, or else the table is one of some whose file name the system refuses: then it
is not found in memory, and a directory says why. -/
inductive SameError (around : Surroundings) (table : String) (tables : List String) :
    QueryError → QueryError → Prop where
  | same (e : QueryError) : SameError around table tables e e
  | refused {name : String} {fault : AccessFault} (hmem : name ∈ tables)
      (hrefused : around.follow (some [Directory.pathOf table]) (Directory.pathOf name) =
        .error fault) (hne : fault ≠ .missing) :
      SameError around table tables (.tableNotFound name) (.unreadable name fault)

/-- The same value, or an error that is the same. -/
inductive SameAnswer {α : Type} (around : Surroundings) (table : String) (tables : List String) :
    Except QueryError α → Except QueryError α → Prop where
  | ok (a : α) : SameAnswer around table tables (.ok a) (.ok a)
  | error {e e' : QueryError} (h : SameError around table tables e e') :
      SameAnswer around table tables (.error e) (.error e')

/-- Results on both stores that are errors, the same ones, or the same value and related stores. -/
inductive Alike {α : Type} (around : Surroundings) (table : String) (columns : List String)
    (delimiter : Char) (tables : List String) :
    Except QueryError (α × MemoryStore) → Except QueryError (α × Directory) → Prop where
  | error {e e' : QueryError} (h : SameError around table tables e e') :
      Alike around table columns delimiter tables (.error e) (.error e')
  | ok (a : α) {rows : List Row} {store : MemoryStore} {directory : Directory}
      (h : Mirrors around table columns delimiter rows store directory) :
      Alike around table columns delimiter tables (.ok (a, store)) (.ok (a, directory))

variable {around : Surroundings} {table name : String} {columns tables : List String}
  {delimiter : Char} {rows : List Row} {store : MemoryStore} {directory : Directory}

theorem SameAnswer.refl {α : Type} (result : Except QueryError α) :
    SameAnswer around table tables result result := by
  cases result with
  | error e => exact .error (.same e)
  | ok a => exact .ok a

theorem SameAnswer.bind {α β : Type} {a a' : Except QueryError α}
    (h : SameAnswer around table tables a a') {f f' : α → Except QueryError β}
    (hf : ∀ x, SameAnswer around table tables (f x) (f' x)) :
    SameAnswer around table tables (a >>= f) (a' >>= f') := by
  cases h with
  | ok x => exact hf x
  | error h => exact .error h

theorem Alike.map {α β : Type} {a : Except QueryError (α × MemoryStore)}
    {b : Except QueryError (α × Directory)}
    (h : Alike around table columns delimiter tables a b) (f : α → β) :
    Alike around table columns delimiter tables (a.map fun r => (f r.1, r.2))
      (b.map fun r => (f r.1, r.2)) := by
  cases h with
  | error h => exact .error h
  | ok a h => exact .ok (f a) h

/-! ## 2. Reading -/

/-- The errors for a table that is not there. -/
theorem sameError_failure (hmem : name ∈ tables) :
    SameError around table tables (.tableNotFound name) (Directory.failure name
      (around.faultAt [Directory.pathOf table] (Directory.pathOf name))) := by
  rcases Directory.failure_faultAt name with h | ⟨fault, hfollow, hne, h⟩
  · rw [h]
    exact .same _
  · rw [h]
    exact .refused hmem hfollow hne

namespace Mirrors

theorem fetch_memory (h : Mirrors around table columns delimiter rows store directory)
    (name : String) :
    store.fetch name = if name = table then .ok rows else .error (.tableNotFound name) := by
  rw [h.store_eq, MemoryStore.fetch, Entries.get?]
  by_cases hname : name = table
  · simp [hname]
  · have hname' : table ≠ name := fun e => hname e.symm
    simp [hname, hname', Entries.get?]

theorem load (h : Mirrors around table columns delimiter rows store directory)
    (he : Exchangeable table columns delimiter) (ho : around.Ordinary [Directory.pathOf table])
    (hlower : Text.lower name = name) (hlocal : '/' ∉ name.toList) : directory.load name =
      if name = table then .ok (Directory.pathOf table, ⟨columns, delimiter, rows⟩)
      else .error (Directory.failure name
        (around.faultAt [Directory.pathOf table] (Directory.pathOf name))) := by
  have hpath : '/' ∉ (Directory.pathOf name).toList :=
    mt (Directory.slash_mem_pathOf_iff hlower).mp hlocal
  have ho' := h.around_eq.symm ▸ ho
  by_cases hname : name = table
  · have hsame : ∃ file ∈ [Directory.pathOf table],
        Directory.sameName (Directory.pathOf name) file = true :=
      ⟨_, List.mem_cons_self, hname ▸ Directory.sameName_self _⟩
    obtain ⟨file, hfile, -, hload⟩ := Directory.load_of_sameName h.files_eq ho' hpath hsame
    obtain rfl := List.mem_singleton.mp hfile
    rw [if_pos hname, hload _ (by rw [Entries.get?, if_pos rfl]),
      ofText_toText_of_plain he.columns he.delimiter_mem h.full]
  · have hsame : ¬∃ file ∈ [Directory.pathOf table],
        Directory.sameName (Directory.pathOf name) file = true := by
      rintro ⟨file, hfile, hfound⟩
      obtain rfl := List.mem_singleton.mp hfile
      exact hname ((Directory.sameName_pathOf hlower he.lower).mp hfound)
    rw [if_neg hname, Directory.load_of_not_sameName h.files_eq ho' hpath hsame, h.around_eq]
    rfl

/-- **Related stores give the same rows**, or the same error. -/
theorem fetch_same (h : Mirrors around table columns delimiter rows store directory)
    (he : Exchangeable table columns delimiter) (ho : around.Ordinary [Directory.pathOf table])
    (hlower : Text.lower name = name) (hlocal : '/' ∉ name.toList) (hmem : name ∈ tables) :
    SameAnswer around table tables (store.fetch name) (directory.fetch name) := by
  rw [Directory.fetch, h.load he ho hlower hlocal, h.fetch_memory name]
  by_cases hname : name = table
  · simp only [if_pos hname]
    exact .ok rows
  · simp only [if_neg hname]
    exact .error (sameError_failure hmem)

/-! ## 3. Changes -/

/-- Both stores hold new rows after they are written. -/
theorem write (h : Mirrors around table columns delimiter rows store directory)
    (ho : around.Ordinary [Directory.pathOf table]) {new : List Row}
    (hfull : ∀ row ∈ new, FullRow columns row) :
    Mirrors around table columns delimiter new ⟨[(table, new)]⟩
      (directory.write (Directory.pathOf table) ⟨columns, delimiter, new⟩) := by
  have hfollow : directory.around.follow directory.names (Directory.pathOf table) =
      .ok (.inside (Directory.pathOf table)) := by
    rw [Directory.names_of_files h.files_eq, h.around_eq]
    exact ho.follow_of_mem _ List.mem_cons_self
  have hfiles : (directory.write (Directory.pathOf table) ⟨columns, delimiter, new⟩).files =
      some [(Directory.pathOf table, .text (toText ⟨columns, delimiter, new⟩))] := by
    rw [Directory.write, Directory.writeText, hfollow]
    simp [h.files_eq, Entries.set]
  refine ⟨rfl, ?_, hfiles, hfull⟩
  rw [Directory.write, Directory.writeText, hfollow]
  exact h.around_eq

/-- Appending a row to a table, be it the one that is there or another. -/
theorem append (h : Mirrors around table columns delimiter rows store directory)
    (he : Exchangeable table columns delimiter) (ho : around.Ordinary [Directory.pathOf table])
    (hlower : Text.lower name = name) (hlocal : '/' ∉ name.toList) (hmem : name ∈ tables)
    {row : Row} (hrow : name = table → FullRow columns row) :
    Alike around table columns delimiter tables ((store.append name row).map fun s => ((), s))
      ((directory.append name row).map fun d => ((), d)) := by
  have hload := h.load he ho hlower hlocal
  have hfetch := h.fetch_memory name
  by_cases hname : name = table
  · have hfull := hrow hname
    have hdocument : Document.append ⟨columns, delimiter, rows⟩ row =
        ⟨columns, delimiter, rows ++ [row]⟩ := by
      simp only [Document.append, hfull.columns_eq]
      simp
    rw [if_pos hname] at hload hfetch
    have hstore : store.append name row = .ok ⟨[(table, rows ++ [row])]⟩ := by
      rw [MemoryStore.append, hfetch, h.store_eq]
      simp [Except.map, Entries.set, hname]
    have hdirectory : directory.append name row = .ok (directory.write (Directory.pathOf table)
        ⟨columns, delimiter, rows ++ [row]⟩) := by
      rw [Directory.append, hload, ← hdocument]
      rfl
    have hfull' : ∀ r ∈ rows ++ [row], FullRow columns r := by
      intro r hr
      rcases List.mem_append.mp hr with hr | hr
      · exact h.full r hr
      · rw [List.mem_singleton.mp hr]
        exact hfull
    rw [hstore, hdirectory]
    exact .ok () (h.write ho hfull')
  · rw [if_neg hname] at hload hfetch
    rw [MemoryStore.append, hfetch, Directory.append, hload]
    exact .error (sameError_failure hmem)

/-- Removing rows from a table, be it the one that is there or another. -/
theorem remove (h : Mirrors around table columns delimiter rows store directory)
    (he : Exchangeable table columns delimiter) (ho : around.Ordinary [Directory.pathOf table])
    (hlower : Text.lower name = name) (hlocal : '/' ∉ name.toList) (hmem : name ∈ tables)
    (test : Row → Except QueryError Bool) :
    Alike around table columns delimiter tables (store.remove name test)
      (directory.remove name test) := by
  have hload := h.load he ho hlower hlocal
  have hfetch := h.fetch_memory name
  by_cases hname : name = table
  · rw [if_pos hname] at hload hfetch
    cases hdiscard : Relation.discard test rows with
    | error e =>
      have hstore : store.remove name test = .error e := by
        simp [MemoryStore.remove, hfetch, hdiscard, bind, Except.bind]
      have hdirectory : directory.remove name test = .error e := by
        simp [Directory.remove, hload, hdiscard, bind, Except.bind]
      rw [hstore, hdirectory]
      exact .error (.same e)
    | ok result =>
      obtain ⟨count, kept⟩ := result
      have hsub := Relation.sublist_of_discard hdiscard
      have hstore : store.remove name test = .ok (count, ⟨[(table, kept)]⟩) := by
        rw [MemoryStore.remove, hfetch]
        change (Relation.discard test rows >>= _) = _
        rw [hdiscard, h.store_eq]
        simp [bind, Except.bind, pure, Except.pure, Entries.set, hname]
      have hdirectory : directory.remove name test = .ok (count,
          directory.write (Directory.pathOf table) ⟨columns, delimiter, kept⟩) := by
        simp [Directory.remove, hload, hdiscard, bind, Except.bind, pure, Except.pure]
      rw [hstore, hdirectory]
      exact .ok count (h.write ho fun row hrow => h.full row (hsub.subset hrow))
  · rw [if_neg hname] at hload hfetch
    have hstore : store.remove name test = .error (.tableNotFound name) := by
      simp [MemoryStore.remove, hfetch, bind, Except.bind]
    have hdirectory : directory.remove name test = .error (Directory.failure name
        (around.faultAt [Directory.pathOf table] (Directory.pathOf name))) := by
      simp [Directory.remove, hload, bind, Except.bind]
    rw [hstore, hdirectory]
    exact .error (sameError_failure hmem)

end Mirrors

/-! ## 4. Statements -/

/-- What is asked of a statement: its tables are files of the directory, and a new row of the
table has the columns of the table. -/
structure Admissible (table : String) (columns : List String) (q : Query) : Prop where
  isLocal : ∀ name ∈ q.tables, '/' ∉ name.toList
  columns_eq : ∀ i, q = .insert i → i.table = table → i.columns = columns

namespace Mirrors

/-- A query for rows has the same result on related stores. -/
theorem select_run (h : Mirrors around table columns delimiter rows store directory)
    (he : Exchangeable table columns delimiter) (ho : around.Ordinary [Directory.pathOf table])
    {query : Select} (hlower : ∀ name ∈ (Query.select query).tables, Text.lower name = name)
    (hlocal : ∀ name ∈ (Query.select query).tables, '/' ∉ name.toList) :
    SameAnswer around table (Query.select query).tables (query.run store)
      (query.run directory) := by
  have hfetch : ∀ name ∈ (Query.select query).tables,
      SameAnswer around table (Query.select query).tables (Store.fetch store name)
        (Store.fetch directory name) := fun name hname =>
    h.fetch_same he ho (hlower name hname) (hlocal name hname) hname
  have hsource : SameAnswer around table (Query.select query).tables (query.source store)
      (query.source directory) := by
    refine (hfetch query.table List.mem_cons_self).bind fun primary => ?_
    cases hjoin : query.join with
    | none => exact .refl _
    | some join =>
      have hmem : join.table ∈ (Query.select query).tables := by simp [Query.tables, hjoin]
      exact (hfetch join.table hmem).bind fun joined => .refl _
  exact hsource.bind fun _ => .refl _

/-- **A statement is answered alike** by related stores, and leaves them related. -/
theorem run (h : Mirrors around table columns delimiter rows store directory)
    (he : Exchangeable table columns delimiter) (ho : around.Ordinary [Directory.pathOf table])
    {sql : String} {q : Query} (hparse : Sql.parse sql = .ok q)
    (hq : Admissible table columns q) :
    Alike around table columns delimiter q.tables (q.run store) (q.run directory) := by
  have hlower := Sql.lower_of_mem_tables hparse
  have hlocal := hq.isLocal
  cases q with
  | select query =>
    have hrun := h.select_run he ho hlower hlocal
    rw [Query.run, Query.run]
    generalize query.run store = a at hrun
    generalize query.run directory = b at hrun
    cases hrun with
    | ok shown => exact .ok (Answer.rows shown) h
    | error herror => exact .error herror
  | insert i =>
    have hmem : i.table ∈ (Query.insert i).tables := List.mem_singleton_self _
    have hrow : i.table = table → FullRow columns i.row := by
      intro htable
      have hcolumns := hq.columns_eq i rfl htable
      obtain ⟨hrow, htext⟩ := i.cells_row (hcolumns ▸ he.columns.nodup)
        (Sql.length_columns_of_parse hparse)
      exact ⟨hrow.trans hcolumns, htext⟩
    have hinsert : ∀ {σ : Type} [Store σ] (s : σ), (Query.insert i).run s =
        ((Store.append s i.table i.row).map fun s => ((), s)).map fun r =>
          (.message ("1 row inserted into '" ++ i.table ++ "'"), r.2) := by
      intro σ _ s
      simp only [Query.run, Insert.run]
      cases Store.append s i.table i.row <;> rfl
    rw [hinsert, hinsert]
    exact (h.append he ho (hlower _ hmem) (hlocal _ hmem) hmem hrow).map fun _ => _
  | delete query =>
    have hmem : query.table ∈ (Query.delete query).tables := List.mem_singleton_self _
    have hdelete : ∀ {σ : Type} [Store σ] (s : σ), (Query.delete query).run s =
        (Store.remove s query.table fun row => row.satisfiesAll query.table query.conditions).map
          fun r =>
            (.message (r.1.repr ++ " row(s) deleted from '" ++ query.table ++ "'"), r.2) := by
      intro σ _ s
      simp only [Query.run, Delete.run]
      cases Store.remove s query.table _ <;> rfl
    rw [hdelete, hdelete]
    exact (h.remove he ho (hlower _ hmem) (hlocal _ hmem) hmem fun row =>
      row.satisfiesAll query.table query.conditions).map fun count =>
        Answer.message (count.repr ++ " row(s) deleted from '" ++ query.table ++ "'")

end Mirrors

/-! ## 5. Sequences of statements -/

namespace Session

/-- A sequence of statements, each with its answer and the store after it. -/
def history {σ : Type} [Store σ] (store : σ) :
    List String → List (String × Except QueryError Answer × σ)
  | [] => []
  | sql :: rest =>
    let result := run store sql
    let after := storeAfter store result
    (sql, result.map Prod.fst, after) :: history after rest

/-- The same statement with the same answer, and the same rows of the table after it. -/
structure Agree (around : Surroundings) (table : String)
    (a : String × Except QueryError Answer × MemoryStore)
    (b : String × Except QueryError Answer × Directory) : Prop where
  statement_eq : a.1 = b.1
  answer : SameAnswer around table (Sql.tablesOf a.1) a.2.1 b.2.1
  exists_rows : ∃ rows, a.2.2.fetch table = .ok rows ∧ b.2.2.fetch table = .ok rows

theorem run_alike (h : Mirrors around table columns delimiter rows store directory)
    (he : Exchangeable table columns delimiter) (ho : around.Ordinary [Directory.pathOf table])
    {sql : String} (hsql : ∀ q, Sql.parse sql = .ok q → Admissible table columns q) :
    Alike around table columns delimiter (Sql.tablesOf sql) (run store sql)
      (run directory sql) := by
  rw [run, run, Sql.tablesOf]
  cases hparse : Sql.parse sql with
  | error e => exact .error (.same e)
  | ok q => exact h.run he ho hparse (hsql q hparse)

/-- **Step by step** the answers agree, and the stores stay related. -/
theorem history_agree_of_mirrors
    (h : Mirrors around table columns delimiter rows store directory)
    (he : Exchangeable table columns delimiter) (ho : around.Ordinary [Directory.pathOf table])
    {sqls : List String}
    (hsqls : ∀ sql ∈ sqls, ∀ q, Sql.parse sql = .ok q → Admissible table columns q) :
    List.Forall₂ (Agree around table) (history store sqls) (history directory sqls) := by
  induction sqls generalizing rows store directory with
  | nil => exact .nil
  | cons sql sqls ih =>
    have halike := run_alike h he ho (hsqls sql List.mem_cons_self)
    have hrest := fun s hs => hsqls s (List.mem_cons_of_mem _ hs)
    have hrows : ∀ {rows' : List Row} {store' : MemoryStore} {directory' : Directory},
        Mirrors around table columns delimiter rows' store' directory' →
        ∃ rows, store'.fetch table = .ok rows ∧ directory'.fetch table = .ok rows := by
      intro rows' store' directory' h'
      refine ⟨rows', by rw [h'.fetch_memory, if_pos rfl], ?_⟩
      rw [Directory.fetch, h'.load he ho he.lower he.isLocal, if_pos rfl]
      rfl
    rw [history, history]
    generalize run store sql = a at halike
    generalize run directory sql = b at halike
    cases halike with
    | error herror => exact .cons ⟨rfl, .error herror, hrows h⟩ (ih h hrest)
    | ok answer h' => exact .cons ⟨rfl, .ok answer, hrows h'⟩ (ih h' hrest)

/-- **The stores can be exchanged.**  A table with plain columns, held in memory or as the file it
is written as, gives the same answers to every sequence of admissible statements, and the same
rows after each of them.  Only where the system refuses the file name of a table, a directory says
so, and that table is not found in memory. -/
theorem history_agree {sqls : List String} (he : Exchangeable table columns delimiter)
    (ho : around.Ordinary [Directory.pathOf table]) (hrows : ∀ row ∈ rows, FullRow columns row)
    (hsqls : ∀ sql ∈ sqls, ∀ q, Sql.parse sql = .ok q → Admissible table columns q) :
    List.Forall₂ (Agree around table) (history (MemoryStore.empty.create table rows) sqls)
      (history (Directory.holding around table ⟨columns, delimiter, rows⟩) sqls) := by
  have hstart : Mirrors around table columns delimiter rows
      (MemoryStore.empty.create table rows)
      (Directory.holding around table ⟨columns, delimiter, rows⟩) := by
    refine ⟨?_, rfl, rfl, hrows⟩
    simp [MemoryStore.create, MemoryStore.empty, he.lower, Entries.set]
  exact history_agree_of_mirrors hstart he ho hsqls

theorem eq_of_parse {sql : String} {q q' : Query}
    (h : (match Sql.parse sql with
      | .ok q => decide (q = q')
      | .error _ => false) = true) (hq : Sql.parse sql = .ok q) : q = q' := by
  rw [hq] at h
  simpa using h

theorem exchangeable_two_columns : Exchangeable "t" ["a", "b"] '|' where
  lower := by decide
  isLocal := by decide
  columns := by
    refine ⟨by decide, by decide, ?_, ?_, by decide⟩
    · intro c hc
      simp only [List.mem_cons, List.not_mem_nil, or_false] at hc
      rcases hc with rfl | rfl <;> exact ⟨by decide, by decide⟩
    · intro c hc x hx
      simp only [List.mem_cons, List.not_mem_nil, or_false] at hc hx
      rcases hc with rfl | rfl <;> rcases hx with rfl | rfl | rfl | rfl | rfl | rfl <;> decide
  delimiter_mem := by decide

theorem ordinary_two_columns : (Surroundings.alone "d").Ordinary [Directory.pathOf "t"] := by
  refine Surroundings.ordinary_alone fun name hname => ?_
  obtain rfl : name = "t.csv" := List.mem_singleton.mp hname
  exact ⟨by decide, by decide, by decide, by decide, by decide⟩

/-- A blank cell and a bar are added, and the row is removed again. -/
theorem history_agree_two_columns : List.Forall₂ (Agree (.alone "d") "t")
    (history (MemoryStore.empty.create "t" [])
      ["INSERT INTO t (a, b) VALUES ('', '|')", "DELETE FROM t WHERE a = ''"])
    (history (Directory.holding (.alone "d") "t" ⟨["a", "b"], '|', []⟩)
      ["INSERT INTO t (a, b) VALUES ('', '|')", "DELETE FROM t WHERE a = ''"]) := by
  refine history_agree exchangeable_two_columns ordinary_two_columns (by simp) ?_
  intro sql hsql q hq
  simp only [List.mem_cons, List.not_mem_nil, or_false] at hsql
  rcases hsql with rfl | rfl
  · obtain rfl : q = .insert ⟨"t", ["a", "b"], ["''", "'|'"]⟩ :=
      eq_of_parse (by decide +kernel) hq
    refine ⟨by decide, ?_⟩
    rintro i hi -
    rw [← Query.insert.inj hi]
  · obtain rfl : q = .delete ⟨"t", [⟨"a", .equal, "''"⟩]⟩ := eq_of_parse (by decide +kernel) hq
    exact ⟨by decide, fun i hi => by simp at hi⟩

/-- `SELECT a FROM "x\x00y"`, which names a table that no file can hold. -/
def refusedSelect : Select where
  fields := [⟨"a", none⟩]
  table := "x\x00y"
  distinct := false
  distinctFields := []
  conditions := []
  join := none
  groupBy := none
  aggregated := false
  orderBy := none
  limit := none

/-- **A name that the system refuses** is not found in memory, and a directory says why it cannot be
read. -/
theorem answers_differ :
    Sql.parse "SELECT a FROM \x22x\x00y\x22" = .ok (.select refusedSelect) ∧
    Admissible "t" ["a", "b"] (.select refusedSelect) ∧
    (run (MemoryStore.empty.create "t" []) "SELECT a FROM \x22x\x00y\x22").map Prod.fst =
      .error (.tableNotFound "x\x00y") ∧
    (run (Directory.holding (.alone "d") "t" ⟨["a", "b"], '|', []⟩)
      "SELECT a FROM \x22x\x00y\x22").map Prod.fst =
        .error (.unreadable "x\x00y" .zeroInPath) := by
  have hparse : Sql.parse "SELECT a FROM \x22x\x00y\x22" = .ok (.select refusedSelect) :=
    eq_ok_of_toOption (by decide +kernel)
  refine ⟨hparse, ⟨by decide, by simp⟩, ?_, ?_⟩
  · rw [run_of_parse hparse]
    rfl
  · rw [run_of_parse hparse]
    rfl

end Session
end Tabular
