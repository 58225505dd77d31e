/-
# The kinds of statements

A statement can be read in two ways: by a reader that goes by its first keyword (`Sql.parse`), or
by the reader of one kind (`Sql.parseSelect`, `Sql.parseInsert`, `Sql.parseDelete`).  The latter
do not look at the first keyword first.  The readers of queries and of removals split off clauses
before they come to it, wherever the keywords of these clauses stand.

What is left then still starts the statement (`Sql.leadingKeyword?_of_isPrefix`), so that a reader
that finds its keyword there has found the first one of the statement.  Hence the readers of single
kinds accept what the general reader accepts as their kind (`Sql.parse_eq_select_iff` and its like),
and a statement runs in the same way through both (`Session.kinds_agree`), whether on a store that
is given back or on one that changes in place.
-/
import Tabular.Proofs.Session.Run
import Tabular.Proofs.Sql.Names
import Tabular.Proofs.Store.InPlace

namespace Tabular

/-! ## 1. The first keyword -/

namespace Sql

variable {ts us : List Token} {k : Keyword} {sql : String}

/-- What a list of tokens starts with, a longer one starts with. -/
theorem leadingKeyword?_of_isPrefix (h : us <+: ts) (hk : leadingKeyword? us = some k) :
    leadingKeyword? ts = some k := by
  obtain ⟨more, rfl⟩ := h
  rw [leadingKeyword?, skipBlanks] at hk ⊢
  rw [List.dropWhile_append]
  cases hus : us.dropWhile Token.isBlank with
  | nil => simp [hus] at hk
  | cons u us' => simpa [hus] using hk

/-- A keyword that must be in front is the first one. -/
theorem leadingKeyword?_of_expectKeyword {clause : Clause} {rest : List Token}
    (h : expectKeyword clause k ts = .ok rest) : leadingKeyword? ts = some k := by
  unfold expectKeyword eatKeyword matchKeywords at h
  rw [leadingKeyword?]
  cases hskip : skipBlanks ts with
  | nil => simp [hskip] at h
  | cons t ts' =>
    simp only [hskip] at h
    split_ifs at h with hkey
    simpa [Token.isKeyword] using hkey

theorem leadingKeyword?_of_readSelect {q : Select} (h : readSelect ts = .ok q) :
    leadingKeyword? ts = some .SELECT := by
  obtain ⟨_, _, _, _, _, _, _, _, _, hselect, _⟩ := exists_of_readSelect h
  exact leadingKeyword?_of_isPrefix (head_isPrefix ts) (leadingKeyword?_of_expectKeyword hselect)

theorem leadingKeyword?_of_readInsert {q : Insert} (h : readInsert ts = .ok q) :
    leadingKeyword? ts = some .INSERT := by
  obtain ⟨_, hinsert, _⟩ := exists_of_bind_eq_ok h
  exact leadingKeyword?_of_expectKeyword hinsert

theorem leadingKeyword?_of_readDelete {q : Delete} (h : readDelete ts = .ok q) :
    leadingKeyword? ts = some .DELETE := by
  obtain ⟨_, hdelete, _⟩ := exists_of_bind_eq_ok h
  exact leadingKeyword?_of_isPrefix (splitClause_isPrefix .WHERE [] (by decide) ts)
    (leadingKeyword?_of_expectKeyword hdelete)

/-! ## 2. Two ways to read a statement -/

theorem readQuery_eq_select_iff {q : Select} :
    readQuery ts = .ok (.select q) ↔ readSelect ts = .ok q := by
  refine ⟨fun h => ?_, fun h => by rw [readQuery, leadingKeyword?_of_readSelect h, h]; rfl⟩
  rcases readQuery_cases h with ⟨s, hs, hread⟩ | ⟨i, hi, -⟩ | ⟨d, hd, -⟩
  · rw [Query.select.inj hs, hread]
  · simp at hi
  · simp at hd

theorem readQuery_eq_insert_iff {q : Insert} :
    readQuery ts = .ok (.insert q) ↔ readInsert ts = .ok q := by
  refine ⟨fun h => ?_, fun h => by rw [readQuery, leadingKeyword?_of_readInsert h, h]; rfl⟩
  rcases readQuery_cases h with ⟨s, hs, -⟩ | ⟨i, hi, hread⟩ | ⟨d, hd, -⟩
  · simp at hs
  · rw [Query.insert.inj hi, hread]
  · simp at hd

theorem readQuery_eq_delete_iff {q : Delete} :
    readQuery ts = .ok (.delete q) ↔ readDelete ts = .ok q := by
  refine ⟨fun h => ?_, fun h => by rw [readQuery, leadingKeyword?_of_readDelete h, h]; rfl⟩
  rcases readQuery_cases h with ⟨s, hs, -⟩ | ⟨i, hi, -⟩ | ⟨d, hd, hread⟩
  · simp at hs
  · simp at hi
  · rw [Query.delete.inj hd, hread]

/-- Two readers of one list of tokens accept the same texts if they accept the same lists. -/
theorem tokenize_bind_eq_ok_iff {α β : Type} {read : List Token → Except QueryError α}
    {read' : List Token → Except QueryError β} {a : α} {b : β}
    (h : ∀ ts, read ts = .ok a ↔ read' ts = .ok b) :
    (tokenize sql >>= read) = .ok a ↔ (tokenize sql >>= read') = .ok b := by
  cases tokenize sql with
  | error e => simp [bind, Except.bind]
  | ok ts => exact h ts

theorem asSelectError_eq_ok_iff {α : Type} {x : Except QueryError α} {a : α} :
    asSelectError x = .ok a ↔ x = .ok a := by
  cases x <;> simp [asSelectError]

theorem parse_eq_select_iff {q : Select} :
    parse sql = .ok (.select q) ↔ parseSelect sql = .ok q := by
  rw [parseSelect, asSelectError_eq_ok_iff]
  exact tokenize_bind_eq_ok_iff fun _ => readQuery_eq_select_iff

theorem parse_eq_insert_iff {q : Insert} :
    parse sql = .ok (.insert q) ↔ parseInsert sql = .ok q :=
  tokenize_bind_eq_ok_iff fun _ => readQuery_eq_insert_iff

theorem parse_eq_delete_iff {q : Delete} :
    parse sql = .ok (.delete q) ↔ parseDelete sql = .ok q :=
  tokenize_bind_eq_ok_iff fun _ => readQuery_eq_delete_iff

/-- Which readers of single kinds accept a text. -/
def acceptances (sql : String) : List Bool :=
  [(parseSelect sql).isOk, (parseInsert sql).isOk, (parseDelete sql).isOk]

theorem exists_of_isOk {ε α : Type} {x : Except ε α} (h : x.isOk = true) : ∃ a, x = .ok a := by
  cases x with
  | error e => simp [Except.isOk, Except.toBool] at h
  | ok a => exact ⟨a, rfl⟩

/-- **No two of them accept the same text**, since the general reader reads it as one kind. -/
theorem pairwise_acceptances (sql : String) :
    (acceptances sql).Pairwise fun x y => ¬(x = true ∧ y = true) := by
  have hone : ∀ {q q' : Query}, parse sql = .ok q → parse sql = .ok q' → q = q' :=
    fun h h' => Except.ok.inj (h.symm.trans h')
  simp only [acceptances, List.pairwise_cons, List.forall_mem_cons, List.not_mem_nil,
    IsEmpty.forall_iff, implies_true, List.Pairwise.nil, and_true]
  refine ⟨⟨?_, ?_⟩, ?_⟩
  · rintro ⟨hselect, hinsert⟩
    obtain ⟨s, hs⟩ := exists_of_isOk hselect
    obtain ⟨i, hi⟩ := exists_of_isOk hinsert
    cases hone (parse_eq_select_iff.mpr hs) (parse_eq_insert_iff.mpr hi)
  · rintro ⟨hselect, hdelete⟩
    obtain ⟨s, hs⟩ := exists_of_isOk hselect
    obtain ⟨d, hd⟩ := exists_of_isOk hdelete
    cases hone (parse_eq_select_iff.mpr hs) (parse_eq_delete_iff.mpr hd)
  · rintro ⟨hinsert, hdelete⟩
    obtain ⟨i, hi⟩ := exists_of_isOk hinsert
    obtain ⟨d, hd⟩ := exists_of_isOk hdelete
    cases hone (parse_eq_insert_iff.mpr hi) (parse_eq_delete_iff.mpr hd)

end Sql

/-! ## 3. Two ways to run a statement -/

namespace Session

open InPlace

variable {σ : Type} [InPlaceStore σ]

/-- Runs the text of a query for rows on a store in place. -/
def performSelect (sql : String) : InPlace σ (List Row) := do
  let query ← check (Sql.parseSelect sql)
  check (query.run (← get))

/-- Adds the row that a text describes, in place. -/
def performInsert (sql : String) : InPlace σ String := do
  let query ← check (Sql.parseInsert sql)
  InPlaceStore.appendInPlace query.table query.row
  return "1 row inserted into '" ++ query.table ++ "'"

/-- Removes the rows that a text describes, in place. -/
def performDelete (sql : String) : InPlace σ String := do
  let query ← check (Sql.parseDelete sql)
  let count ← InPlaceStore.removeInPlace query.table fun row =>
    row.satisfiesAll query.table query.conditions
  return count.repr ++ " row(s) deleted from '" ++ query.table ++ "'"

variable {sql : String} {store : σ}

theorem exec_performSelect :
    exec (performSelect sql) store = (runSelect store sql, store) := by
  rw [performSelect, exec_bind]
  change follow (Sql.parseSelect sql, store) _ = (Sql.parseSelect sql >>= _, store)
  cases Sql.parseSelect sql with
  | error e => rfl
  | ok query =>
    rw [follow, exec_bind]
    rfl

theorem exec_performInsert :
    exec (performInsert sql) store = settle store (runInsert store sql) := by
  rw [performInsert, exec_bind]
  change follow (Sql.parseInsert sql, store) _ = settle store (Sql.parseInsert sql >>= _)
  cases Sql.parseInsert sql with
  | error e => rfl
  | ok query =>
    rw [follow, exec_bind, InPlaceStore.exec_append]
    change _ = settle store ((Store.append store query.table query.row).map _)
    cases Store.append store query.table query.row <;> rfl

theorem exec_performDelete :
    exec (performDelete sql) store = settle store (runDelete store sql) := by
  rw [performDelete, exec_bind]
  change follow (Sql.parseDelete sql, store) _ = settle store (Sql.parseDelete sql >>= _)
  cases Sql.parseDelete sql with
  | error e => rfl
  | ok query =>
    rw [follow, exec_bind, InPlaceStore.exec_remove]
    change _ = settle store ((Store.remove store query.table _).map _)
    cases Store.remove store query.table _ <;> rfl

/-- The outcome of an action as an answer. -/
def shownAs {α : Type} (answer : α → Answer) (outcome : Except QueryError α × σ) :
    Except QueryError Answer × σ := (outcome.1.map answer, outcome.2)

theorem run_of_parseSelect (store : σ) {q : Select} (h : Sql.parseSelect sql = .ok q) :
    run store sql = (runSelect store sql).map fun rows => (.rows rows, store) := by
  rw [run_of_parse (Sql.parse_eq_select_iff.mpr h), runSelect, h]
  rfl

theorem run_of_parseInsert (store : σ) {q : Insert} (h : Sql.parseInsert sql = .ok q) :
    run store sql = (runInsert store sql).map fun (text, after) => (.message text, after) := by
  rw [run_of_parse (Sql.parse_eq_insert_iff.mpr h), runInsert, h]
  rfl

theorem run_of_parseDelete (store : σ) {q : Delete} (h : Sql.parseDelete sql = .ok q) :
    run store sql = (runDelete store sql).map fun (text, after) => (.message text, after) := by
  rw [run_of_parse (Sql.parse_eq_delete_iff.mpr h), runDelete, h]
  rfl

/-- **Both ways are one.**  The general reader reads a statement of a kind exactly where the reader
of this kind does, and as the same; no two kinds accept one text; and on every store an accepted
text has the same answer through both, with the same store after it, and in place the same outcome
and the same effect. -/
theorem kinds_agree (sql : String) :
    (∀ q, Sql.parse sql = .ok (.select q) ↔ Sql.parseSelect sql = .ok q) ∧
    (∀ q, Sql.parse sql = .ok (.insert q) ↔ Sql.parseInsert sql = .ok q) ∧
    (∀ q, Sql.parse sql = .ok (.delete q) ↔ Sql.parseDelete sql = .ok q) ∧
    (Sql.acceptances sql).Pairwise (fun x y => ¬(x = true ∧ y = true)) ∧
    ∀ store : σ,
      ((Sql.parseSelect sql).isOk = true →
        run store sql = (runSelect store sql).map (fun rows => (.rows rows, store)) ∧
        exec (perform sql) store = shownAs .rows (exec (performSelect sql) store)) ∧
      ((Sql.parseInsert sql).isOk = true →
        run store sql = (runInsert store sql).map (fun (text, after) => (.message text, after)) ∧
        exec (perform sql) store = shownAs .message (exec (performInsert sql) store)) ∧
      ((Sql.parseDelete sql).isOk = true →
        run store sql = (runDelete store sql).map (fun (text, after) => (.message text, after)) ∧
        exec (perform sql) store = shownAs .message (exec (performDelete sql) store)) := by
  refine ⟨fun _ => Sql.parse_eq_select_iff, fun _ => Sql.parse_eq_insert_iff,
    fun _ => Sql.parse_eq_delete_iff, Sql.pairwise_acceptances sql, fun store => ⟨?_, ?_, ?_⟩⟩
  · intro h
    obtain ⟨q, hq⟩ := Sql.exists_of_isOk h
    have hrun := run_of_parseSelect store hq
    refine ⟨hrun, ?_⟩
    rw [exec_perform, hrun, exec_performSelect]
    cases runSelect store sql <;> rfl
  · intro h
    obtain ⟨q, hq⟩ := Sql.exists_of_isOk h
    have hrun := run_of_parseInsert store hq
    refine ⟨hrun, ?_⟩
    rw [exec_perform, hrun, exec_performInsert]
    cases runInsert store sql <;> rfl
  · intro h
    obtain ⟨q, hq⟩ := Sql.exists_of_isOk h
    have hrun := run_of_parseDelete store hq
    refine ⟨hrun, ?_⟩
    rw [exec_perform, hrun, exec_performDelete]
    cases runDelete store sql <;> rfl

/-- A table with two rows. -/
def twoNumbers : MemoryStore :=
  MemoryStore.empty.create "t" [Row.ofList [("n", .text "1")], Row.ofList [("n", .text "2")]]

theorem kinds_agree_removal :
    (Sql.parseDelete "DELETE FROM t WHERE n = 2").isOk = true ∧
    (runDelete twoNumbers "DELETE FROM t WHERE n = 2").toOption.map Prod.fst =
      some "1 row(s) deleted from 't'" ∧
    run twoNumbers "DELETE FROM t WHERE n = 2" =
      (runDelete twoNumbers "DELETE FROM t WHERE n = 2").map
        fun (text, after) => (.message text, after) := by
  have hread : (Sql.parseDelete "DELETE FROM t WHERE n = 2").isOk = true := by decide +kernel
  obtain ⟨-, -, -, -, hstore⟩ := kinds_agree (σ := MemoryStore) "DELETE FROM t WHERE n = 2"
  obtain ⟨-, -, hdelete⟩ := hstore twoNumbers
  exact ⟨hread, by decide +kernel, (hdelete hread).1⟩

end Session
end Tabular
