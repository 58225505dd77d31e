/-
# What a statement leaves alone

A statement that fails changes nothing, and neither does a query for rows.  A statement that adds or
removes rows changes the one table, or file, that its table name stands for; no other is changed,
made or deleted.

* `Frame`: this, for one statement on a store that changes in place;
* `frame`, `keepsBut_leave`: a step, and by induction a run of statements, for every kind of store
  whose changes obey the `Discipline`;
* **`statements_keep_other_tables`**: stores in memory and directories do, so it holds at each step
  of every run, and for the run as a whole.

Whether a store obeys it is a matter of its two changes alone.  For a directory it comes down to the
file that is looked up, wherever the path of a table leads: since no step makes or deletes a file, a
table name stands for the same file all along.
-/
import Tabular.Proofs.Session.Run
import Tabular.Proofs.Store.InPlace

namespace Tabular

/-! ## 1. Entries that are kept -/

namespace Entries

variable {α : Type} {p q : String → Prop} {before between after : Entries α}

/-- The same names at the same places, with the same contents where `p` asks for it. -/
def Keeps (p : String → Prop) (before after : Entries α) : Prop :=
  List.Forall₂ (fun a b => a.1 = b.1 ∧ (p a.1 → a.2 = b.2)) before after

theorem Keeps.refl (p : String → Prop) (entries : Entries α) : Keeps p entries entries :=
  List.forall₂_same.mpr fun _ _ => ⟨rfl, fun _ => rfl⟩

theorem Keeps.mono (h : Keeps p before after) (hpq : ∀ name, q name → p name) :
    Keeps q before after :=
  h.imp fun _ _ hab => ⟨hab.1, fun hq => hab.2 (hpq _ hq)⟩

theorem Keeps.trans (h : Keeps p before between) (h' : Keeps p between after) :
    Keeps p before after := by
  induction h generalizing after with
  | nil => exact h'
  | cons hab _ ih =>
    cases h' with
    | cons hbc hrest =>
      refine .cons ⟨hab.1.trans hbc.1, fun hp => ?_⟩ (ih hrest)
      exact (hab.2 hp).trans (hbc.2 (hab.1 ▸ hp))

/-- To set a name that is there keeps all others. -/
theorem keeps_set {name : String} {entries : Entries α} (h : name ∈ names entries) (a : α) :
    Keeps (· ≠ name) entries (set name a entries) := by
  induction entries with
  | nil => exact absurd h List.not_mem_nil
  | cons entry rest ih =>
    obtain ⟨n, b⟩ := entry
    by_cases hn : n = name
    · rw [set, if_pos hn]
      exact .cons ⟨rfl, fun hne => absurd hn hne⟩ (Keeps.refl (· ≠ name) rest)
    · rw [set, if_neg hn]
      have hrest : name ∈ names rest := (List.mem_cons.mp h).resolve_left fun e => hn e.symm
      exact .cons ⟨rfl, fun _ => rfl⟩ (ih hrest)

end Entries

/-! ## 2. Stores -/

/-- All tables but some are kept, and no table is made or deleted. -/
def MemoryStore.KeepsBut (changed : List String) (before after : MemoryStore) : Prop :=
  before.tables.Keeps (· ∉ changed) after.tables

/-- There are the same files, and each of them holds the same but those that some tables stand for,
in the directory or elsewhere. -/
structure Directory.KeepsBut (changed : List String) (before after : Directory) : Prop where
  layout : SameLayout before after
  content?_eq : ∀ target, (∀ table ∈ changed, before.target? table ≠ some target) →
    after.content? target = before.content? target

/-- A notion of what is kept besides some tables that fits the two changes of a store. -/
structure Discipline {σ : Type} [Store σ] (KeepsBut : List String → σ → σ → Prop) : Prop where
  refl : ∀ store, KeepsBut [] store store
  trans : ∀ {changed more : List String} {before between after : σ},
    KeepsBut changed before between → KeepsBut more between after →
      KeepsBut (changed ++ more) before after
  append : ∀ {store after : σ} {table : String} {row : Row},
    Store.append store table row = .ok after → KeepsBut [table] store after
  remove : ∀ {store after : σ} {table : String} {test : Row → Except QueryError Bool} {count : Nat},
    Store.remove store table test = .ok (count, after) → KeepsBut [table] store after

namespace MemoryStore

theorem keepsBut_set {store : MemoryStore} {table : String} {rows : List Row}
    (h : store.fetch table = .ok rows) (new : List Row) :
    KeepsBut [table] store ⟨store.tables.set table new⟩ := by
  have hmem : table ∈ store.tables.names := by
    rw [fetch] at h
    split at h
    · exact Entries.mem_names_of_get?_eq_some ‹_›
    · simp at h
  exact (Entries.keeps_set hmem new).mono fun name hname => by simpa using hname

theorem discipline : Discipline KeepsBut where
  refl store := Entries.Keeps.refl _ store.tables
  trans h h' :=
    (h.mono fun name hname => by simp_all).trans (h'.mono fun name hname => by simp_all)
  append {store after table row} h := by
    change MemoryStore.append store table row = .ok after at h
    rw [MemoryStore.append] at h
    obtain ⟨rows, hfetch, rfl⟩ := exists_of_map_eq_ok h
    exact keepsBut_set hfetch _
  remove {store after table test count} h := by
    change MemoryStore.remove store table test = .ok (count, after) at h
    rw [MemoryStore.remove] at h
    obtain ⟨rows, hfetch, h⟩ := exists_of_bind_eq_ok h
    obtain ⟨parts, -, h⟩ := exists_of_bind_eq_ok h
    obtain ⟨-, rfl⟩ := Prod.mk.inj (Except.ok.inj h)
    exact keepsBut_set hfetch _

end MemoryStore

namespace Directory

theorem keepsBut_write {directory : Directory} {table path : String} {document : Document}
    (h : directory.load table = .ok (path, document)) (new : Document) :
    KeepsBut [table] directory (directory.write path new) := by
  obtain ⟨target, s, htarget, hfollow, hcontent⟩ := target?_of_load h
  refine ⟨sameLayout_writeText hfollow hcontent _, fun other hother => ?_⟩
  have hne : other ≠ target := by
    rintro rfl
    exact hother table List.mem_cons_self htarget
  rw [write, content?_writeText hfollow hcontent, if_neg hne]

theorem discipline : Discipline KeepsBut where
  refl directory := ⟨.refl directory, fun _ _ => rfl⟩
  trans {changed more before between after} h h' := by
    refine ⟨h.layout.trans h'.layout, fun target htarget => ?_⟩
    have hbefore : ∀ table ∈ changed, before.target? table ≠ some target := fun table hmem =>
      htarget table (List.mem_append_left _ hmem)
    -- The layout is the same, so a table stands for the file that it stood for before.
    have hbetween : ∀ table ∈ more, between.target? table ≠ some target := fun table hmem => by
      rw [h.layout.target?_eq]
      exact htarget table (List.mem_append_right _ hmem)
    exact (h'.content?_eq target hbetween).trans (h.content?_eq target hbefore)
  append {directory after table row} h := by
    change Directory.append directory table row = .ok after at h
    rw [Directory.append] at h
    obtain ⟨loaded, hload, rfl⟩ := exists_of_map_eq_ok h
    exact keepsBut_write hload _
  remove {directory after table test count} h := by
    change Directory.remove directory table test = .ok (count, after) at h
    rw [Directory.remove] at h
    obtain ⟨loaded, hload, h⟩ := exists_of_bind_eq_ok h
    obtain ⟨parts, -, h⟩ := exists_of_bind_eq_ok h
    obtain ⟨-, rfl⟩ := Prod.mk.inj (Except.ok.inj h)
    exact keepsBut_write hload _

end Directory

/-! ## 3. Statements -/

/-- The table that a statement changes, if it changes one. -/
def Query.target? : Query → Option String
  | .select _ => none
  | .insert query => some query.table
  | .delete query => some query.table

namespace Session

open InPlace

/-- **What a statement leaves alone**, of a store that it is run on in place. -/
structure Frame {σ : Type} [Store σ] (KeepsBut : List String → σ → σ → Prop) (store : σ)
    (sql : String) (outcome : Except QueryError Answer) (after : σ) : Prop where
  /-- The statement comes to what it comes to on stores that are given anew. -/
  eq_settle : (outcome, after) = settle store (run store sql)
  of_error : ∀ e, outcome = .error e → after = store
  of_select : ∀ query, Sql.parse sql = .ok (.select query) → after = store
  of_change : ∀ query table answer, Sql.parse sql = .ok query → query.target? = some table →
    outcome = .ok answer → KeepsBut [table] store after

variable {σ : Type} [InPlaceStore σ] {KeepsBut : List String → σ → σ → Prop}

/-- A query for rows leaves the store as it is. -/
theorem after_eq_of_run_select {query : Select} {store after : σ} {answer : Answer}
    (h : (Query.select query).run store = .ok (answer, after)) : after = store := by
  obtain ⟨rows, -, hrows⟩ := exists_of_map_eq_ok h
  exact (Prod.mk.inj hrows).2.symm

/-- A successful statement changes its table through the store. -/
theorem keepsBut_of_run (h : Discipline KeepsBut) {query : Query} {store after : σ}
    {answer : Answer} (hrun : query.run store = .ok (answer, after)) :
    KeepsBut query.target?.toList store after := by
  cases query with
  | select query => exact after_eq_of_run_select hrun ▸ h.refl store
  | insert query =>
    obtain ⟨inserted, hinsert, hanswer⟩ := exists_of_map_eq_ok hrun
    obtain ⟨changed, happend, rfl⟩ := exists_of_map_eq_ok hinsert
    obtain ⟨-, rfl⟩ := Prod.mk.inj hanswer
    exact h.append happend
  | delete query =>
    obtain ⟨deleted, hdelete, hanswer⟩ := exists_of_map_eq_ok hrun
    obtain ⟨⟨count, changed⟩, hremove, rfl⟩ := exists_of_map_eq_ok hdelete
    obtain ⟨-, rfl⟩ := Prod.mk.inj hanswer
    exact h.remove hremove

/-- **One statement.** -/
theorem frame (h : Discipline KeepsBut) (store : σ) (sql : String) :
    Frame KeepsBut store sql (exec (perform sql) store).1 (exec (perform sql) store).2 := by
  rw [exec_perform]
  cases hrun : run store sql with
  | error e =>
    exact {
      eq_settle := congrArg (settle store) hrun.symm
      of_error := fun _ _ => rfl
      of_select := fun _ _ => rfl
      of_change := fun _ _ _ _ _ hanswer => by simp [settle, Except.map] at hanswer }
  | ok result =>
    obtain ⟨answer, after⟩ := result
    obtain ⟨query, hparse, hquery⟩ := exists_of_run hrun
    exact {
      eq_settle := congrArg (settle store) hrun.symm
      of_error := fun e he => by simp [settle, Except.map] at he
      of_select := by
        intro select hselect
        obtain rfl := Except.ok.inj (hparse.symm.trans hselect)
        exact after_eq_of_run_select hquery
      of_change := by
        intro query' table _ hparse' htarget _
        obtain rfl := Except.ok.inj (hparse.symm.trans hparse')
        have hkeeps := keepsBut_of_run h hquery
        rw [htarget] at hkeeps
        exact hkeeps }

/-! ## 4. Runs of statements -/

/-- The store that statements leave, one after the other.  Where one fails, the next one is run. -/
def leave (store : σ) (sqls : List String) : σ :=
  sqls.foldl (fun store sql => (exec (perform sql) store).2) store

/-- The table that a statement has changed, if it has changed one. -/
def changedBy? (sql : String) (outcome : Except QueryError Answer) : Option String :=
  outcome.toOption.bind fun _ => (Sql.parse sql).toOption.bind Query.target?

/-- The tables that statements have changed. -/
def changedTables (store : σ) : List String → List String
  | [] => []
  | sql :: rest =>
    (changedBy? sql (exec (perform sql) store).1).toList ++
      changedTables (exec (perform sql) store).2 rest

theorem keepsBut_step (h : Discipline KeepsBut) (store : σ) (sql : String) :
    KeepsBut (changedBy? sql (exec (perform sql) store).1).toList store
      (exec (perform sql) store).2 := by
  rw [exec_perform]
  cases hrun : run store sql with
  | error e => exact h.refl store
  | ok result =>
    obtain ⟨query, hparse, hquery⟩ := exists_of_run hrun
    have hchanged : changedBy? sql (settle store (.ok result)).1 = query.target? := by
      rw [changedBy?, hparse]
      rfl
    rw [hchanged]
    exact keepsBut_of_run h hquery

/-- **A run of statements** keeps all but the tables that its statements have changed. -/
theorem keepsBut_leave (h : Discipline KeepsBut) (store : σ) (sqls : List String) :
    KeepsBut (changedTables store sqls) store (leave store sqls) := by
  induction sqls generalizing store with
  | nil => exact h.refl store
  | cons sql sqls ih => exact h.trans (keepsBut_step h store sql) (ih _)

/-- **Stores in memory and directories**: at each step of a run a failure and a query change
nothing, and a change keeps all tables, or files, but the one behind its table name.  The run as a
whole keeps all but those that it has changed. -/
theorem statements_keep_other_tables (sqls : List String) (sql : String) :
    (∀ store : MemoryStore,
      Frame MemoryStore.KeepsBut (leave store sqls) sql (exec (perform sql) (leave store sqls)).1
        (leave store (sqls ++ [sql])) ∧
      MemoryStore.KeepsBut (changedTables store sqls) store (leave store sqls)) ∧
    (∀ directory : Directory,
      Frame Directory.KeepsBut (leave directory sqls) sql
        (exec (perform sql) (leave directory sqls)).1 (leave directory (sqls ++ [sql])) ∧
      Directory.KeepsBut (changedTables directory sqls) directory (leave directory sqls)) := by
  have hlast : ∀ {σ : Type} [InPlaceStore σ] (store : σ),
      leave store (sqls ++ [sql]) = (exec (perform sql) (leave store sqls)).2 := by
    intro σ _ store
    rw [leave, List.foldl_append]
    rfl
  refine ⟨fun store => ⟨?_, keepsBut_leave MemoryStore.discipline store sqls⟩,
    fun directory => ⟨?_, keepsBut_leave Directory.discipline directory sqls⟩⟩
  · rw [hlast]
    exact frame MemoryStore.discipline _ sql
  · rw [hlast]
    exact frame Directory.discipline _ sql

/-- A table name can stand for a file elsewhere, and then that file is written. -/
example : ((exec (perform "DELETE FROM \x22../u\x22")
    (Directory.mk (.seen "d" [("../u.csv", .text "a\n1\n")] []) (some []))).2.readText
      "../u.csv").toOption = some "a\n" := by
  decide +kernel

/-- A removal that fails on the second row has not removed the first one. -/
example : (exec (perform "DELETE FROM t WHERE a = 1")
    (MemoryStore.mk
      [("t", [Row.ofList [("a", .text "1")], Row.ofList [("b", .text "1")]])])).2.tables =
        [("t", [Row.ofList [("a", .text "1")], Row.ofList [("b", .text "1")]])] := by
  decide +kernel

end Session
end Tabular
