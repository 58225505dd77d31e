/-
# Two ways to leave out repetitions

A query that groups by its fields, and computes nothing else, gives each list of their values once.
So does a query that cuts the rows to the fields and leaves out the repeated ones.  The first puts
whole rows together by the values of the fields, the second tells the rows that it has cut by
texts of the form `column=value`: **`groupBy_eq_distinct`** says that the results are the same.

* `rowKey_ofList_map_iff`: two rows with the same columns have the same texts only if they have the
  same text forms in every column;
* `grouped_eq_distinct`: so the first rows of their kind are the same rows, and one pass each
  finds them (`slots_grouped_eq_unseen`);
* `AsksFor.query_eq_groupQuery`, `AsksFor.query_eq_distinctQuery`: what the two statements are
  read as.
-/
import Tabular.Proofs.Relation.Grouping
import Tabular.Proofs.Relation.Pairings
import Tabular.Proofs.Relation.Restrict
import Tabular.Proofs.Session.Run
import Tabular.Proofs.Sql.Acceptance

namespace Tabular

open Join (asFields)

/-! ## 1. Rows with the same columns -/

namespace Row

/-- The columns of a row do not depend on the values. -/
theorem columns_insertAll_congr {cells cells' : Cells} (hnames : cells.names = cells'.names)
    {row row' : Row} (h : row.columns = row'.columns) :
    (row.insertAll cells).columns = (row'.insertAll cells').columns := by
  induction cells generalizing cells' row row' with
  | nil =>
    obtain rfl : cells' = [] := List.map_eq_nil_iff.mp hnames.symm
    exact h
  | cons cell cells ih =>
    cases cells' with
    | nil => simp [Entries.names] at hnames
    | cons cell' cells' =>
      obtain ⟨hname, hrest⟩ := List.cons_eq_cons.mp hnames
      refine ih hrest ?_
      rw [columns_insert, columns_insert, hname, h]

theorem columns_ofList_map (columns : List String) (f g : String → Value) :
    (ofList (columns.map fun c => (c, f c))).columns =
      (ofList (columns.map fun c => (c, g c))).columns :=
  columns_insertAll_congr (by simp [Entries.names, Function.comp_def]) rfl

theorem cells_ofList_map (columns : List String) (f : String → Value) :
    (ofList (columns.map fun c => (c, f c))).cells =
      (ofList (columns.map fun c => (c, f c))).columns.map fun c => (c, f c) := by
  refine cells_eq_map fun c v hv => ?_
  rw [get?_ofList_map] at hv
  split at hv
  · exact (Option.some.inj hv).symm
  · simp at hv

end Row

namespace Relation

variable {columns : List String} {table : String} {rows : List Row}

/-- **Rows with the same columns** are told apart by the text forms of their values. -/
theorem rowKey_ofList_map_iff {f g : String → Value} :
    rowKey (Row.ofList (columns.map fun c => (c, f c))) =
        rowKey (Row.ofList (columns.map fun c => (c, g c))) ↔
      ∀ c ∈ columns, (f c).key = (g c).key := by
  have hmem : ∀ c, c ∈ (Row.ofList (columns.map fun c => (c, g c))).columns ↔ c ∈ columns := by
    intro c
    rw [Row.mem_columns_ofList]
    simp [Entries.names]
  rw [rowKey, rowKey, Row.cells_ofList_map, Row.cells_ofList_map, Row.columns_ofList_map columns f g,
    List.map_map, List.map_map, List.map_inj_left]
  simp only [hmem, Function.comp_apply]
  refine forall₂_congr fun c _ => ?_
  simp [← String.toList_inj]

/-! ## 2. Groups without aggregates -/

/-- The row with some values under some columns. -/
def valueRow (columns : List String) (values : List Value) : Row :=
  Row.ofList (columns.zip values)

/-- Groups without aggregates are their values. -/
theorem grouped_asFields (h : ∀ row ∈ rows, row.HasAll columns table) :
    grouped columns (asFields columns) table rows =
      .ok ((distinctValues columns table rows).map (valueRow columns)) := by
  have hcells : ∀ members, aggregateCells (asFields columns) table members = .ok [] := by
    intro members
    simp [aggregateCells, asFields, List.filterMap_map]
    rfl
  have hrow : ∀ values ∈ distinctValues columns table rows,
      groupRow columns (asFields columns) table values (rowsWith columns table rows values) =
        pure (valueRow columns values) := by
    intro values _
    rw [groupRow, hcells, valueRow]
    simp [Except.map, pure, Except.pure]
  rw [grouped_eq h, mapM_congr hrow, List.mapM_pure]
  rfl

theorem projectRow_asFields (hstar : "*" ∉ columns) {row : Row} (h : row.HasAll columns table) :
    projectRow (asFields columns) table row = valueRow columns (row.valuesOf columns table) := by
  rw [projectRow, valueRow, Row.zip_valuesOf, asFields, List.flatMap_map, List.map_eq_flatMap]
  congr 1
  refine List.flatMap_congr fun column hcolumn => ?_
  obtain ⟨v, hv⟩ := Option.isSome_iff_exists.mp (h column hcolumn)
  have hne : column ≠ "*" := fun e => hstar (e ▸ hcolumn)
  simp [fieldCells, hne, hv]

/-- No row is dropped where all columns are there. -/
theorem project_asFields (hne : columns ≠ []) (hstar : "*" ∉ columns)
    (h : ∀ row ∈ rows, row.HasAll columns table) : project (asFields columns) table rows =
      rows.map fun row => valueRow columns (row.valuesOf columns table) := by
  refine project_eq_map (fun row hrow => projectRow_asFields hstar (h row hrow)) fun row _ => ?_
  rw [valueRow, Row.zip_valuesOf, Row.isEmpty_ofList, List.isEmpty_map, List.isEmpty_eq_false_iff]
  exact hne

/-- The values of rows of a table tell apart the rows that are made of them. -/
theorem rowKey_valueRow_iff {row row' : Row} (h : row.IsStored) (h' : row'.IsStored) :
    rowKey (valueRow columns (row.valuesOf columns table)) =
        rowKey (valueRow columns (row'.valuesOf columns table)) ↔
      row.valuesOf columns table = row'.valuesOf columns table := by
  have hstored : ∀ {row : Row}, row.IsStored → ∀ c,
      ((row.resolve? c table).getD .null).IsStored := by
    intro row hrow c
    cases hv : row.resolve? c table with
    | none => exact trivial
    | some v => exact hrow.of_resolve? hv
  rw [valueRow, valueRow, Row.zip_valuesOf, Row.zip_valuesOf, rowKey_ofList_map_iff, Row.valuesOf,
    Row.valuesOf, List.map_inj_left]
  exact forall₂_congr fun c _ => Value.key_inj (hstored h c) (hstored h' c)

/-- **Grouping by all fields leaves out the repeated rows.** -/
theorem grouped_eq_distinct (hne : columns ≠ []) (hstar : "*" ∉ columns)
    (h : ∀ row ∈ rows, row.IsStored ∧ row.HasAll columns table) :
    grouped columns (asFields columns) table rows =
      .ok (distinct (project (asFields columns) table rows)) := by
  have hall : ∀ row ∈ rows, row.HasAll columns table := fun row hrow => (h row hrow).2
  have hkeys : firsts (rowKey ∘ fun row => valueRow columns (row.valuesOf columns table)) rows =
      firsts (fun row => row.valuesOf columns table) rows :=
    firsts_congr fun row hrow row' hrow' => rowKey_valueRow_iff (h row hrow).1 (h row' hrow').1
  rw [grouped_asFields hall, project_asFields hne hstar hall, distinct, firsts_map, hkeys,
    distinctValues, ← map_firsts, List.map_map]
  rfl

/-- The same in one pass each: one through the whole rows with an index, the other through the cut
rows with the texts that were seen. -/
theorem slots_grouped_eq_unseen (hne : columns ≠ []) (hstar : "*" ∉ columns)
    (h : ∀ row ∈ rows, row.IsStored ∧ row.HasAll columns table) :
    Slots.grouped columns (asFields columns) table rows =
      .ok (unseen rowKey [] (project (asFields columns) table rows)) := by
  rw [Slots.grouped_eq_grouped fun row hrow => (h row hrow).1, grouped_eq_distinct hne hstar h,
    unseen_eq, distinct]
  simp

end Relation

/-! ## 3. The two queries -/

namespace Session

/-- `SELECT columns FROM table WHERE conditions GROUP BY columns`. -/
def groupQuery (columns : List String) (table : String) (conditions : List Condition) : Select :=
  { plainSelect (asFields columns) table conditions with groupBy := some columns }

/-- `SELECT DISTINCT columns FROM table WHERE conditions`. -/
def distinctQuery (columns : List String) (table : String) (conditions : List Condition) :
    Select :=
  { plainSelect (asFields columns) table conditions with
    distinct := true
    distinctFields := columns }

end Session

namespace Sql.SelectPhrase

variable {p : SelectPhrase} {columns : List String} {table : String} {conditions : List Condition}

/-- The phrase asks for columns of the rows that the conditions hold on.  It may have `DISTINCT` and
`GROUP BY`, but nothing else. -/
structure AsksFor (p : SelectPhrase) (columns : List String) (table : String)
    (conditions : List Condition) : Prop where
  fields_eq : (p.fields.items.map fun f => f.item.field) = asFields columns
  table_eq : p.table.item.name = table
  conditions_eq : p.query.conditions = conditions
  join_eq : p.join = none
  orderBy_eq : p.orderBy = none
  limit_eq : p.limit = none

theorem AsksFor.query_eq (h : p.AsksFor columns table conditions) : p.query =
    { Session.plainSelect (asFields columns) table conditions with
      distinct := p.distinct.isSome
      distinctFields := if p.distinct.isSome then columns else []
      groupBy := p.query.groupBy } := by
  have hconditions : (p.conditions.map fun c => c.2.items.map ConditionPhrase.condition).getD [] =
      conditions := by rw [← h.conditions_eq, p.query_eq]
  have hdistinct : distinctFields p.distinct.isSome (asFields columns) =
      if p.distinct.isSome then columns else [] := by
    cases p.distinct <;> simp [distinctFields, asFields, Function.comp_def]
  have hplain : (asFields columns).any (·.aggregate.isSome) = false := by simp [asFields]
  rw [p.query_eq]
  simp only [h.fields_eq, h.table_eq, h.join_eq, h.orderBy_eq, h.limit_eq, hconditions, hdistinct,
    hplain, Bool.false_and]
  rfl

theorem AsksFor.query_eq_groupQuery (h : p.AsksFor columns table conditions)
    (hdistinct : p.distinct = none) (hgroup : p.query.groupBy = some columns) :
    p.query = Session.groupQuery columns table conditions := by
  rw [h.query_eq, hgroup, hdistinct]
  rfl

theorem AsksFor.query_eq_distinctQuery (h : p.AsksFor columns table conditions)
    (hdistinct : p.distinct.isSome) (hgroup : p.query.groupBy = none) :
    p.query = Session.distinctQuery columns table conditions := by
  rw [h.query_eq, hgroup, hdistinct]
  rfl

end Sql.SelectPhrase

namespace Session

variable {σ : Type} [Store σ] {store : σ} {columns : List String} {table : String}
  {rows : List Row}

theorem shape_groupQuery (hne : columns ≠ []) (hstar : "*" ∉ columns)
    (hrows : ∀ row ∈ rows, row.IsStored ∧ row.HasAll columns table) (conditions : List Condition) :
    (groupQuery columns table conditions).shape rows =
      .ok (Relation.distinct (Relation.project (asFields columns) table rows)) :=
  congrArg (Except.map id) (Relation.grouped_eq_distinct hne hstar hrows)

theorem shape_distinctQuery (columns : List String) (table : String)
    (conditions : List Condition) (rows : List Row) :
    (distinctQuery columns table conditions).shape rows =
      .ok (Relation.distinct (Relation.project (asFields columns) table rows)) := rfl

theorem evaluate_groupQuery (hne : columns ≠ []) (hstar : "*" ∉ columns)
    (hrows : ∀ row ∈ rows, row.IsStored ∧ row.HasAll columns table) (conditions : List Condition) :
    (groupQuery columns table conditions).evaluate rows =
      (distinctQuery columns table conditions).evaluate rows := by
  -- Both queries are restricted in the same way, and there what is left has all columns.
  change (Relation.restrict table conditions rows >>= fun kept =>
      (groupQuery columns table conditions).shape kept >>= pure) =
    Relation.restrict table conditions rows >>= fun kept =>
      (distinctQuery columns table conditions).shape kept >>= pure
  cases hkept : Relation.restrict table conditions rows with
  | error e => rfl
  | ok kept =>
    have hall : ∀ row ∈ kept, row.IsStored ∧ row.HasAll columns table := fun row hrow =>
      hrows row ((Relation.sublist_of_filterOk hkept).subset hrow)
    simp only [bind, Except.bind, shape_groupQuery hne hstar hall, shape_distinctQuery]

/-- **Grouping by all fields is leaving out repetitions.**  Where the rows of a table have all the
columns, the query that groups by them and the one that keeps distinct rows have one result, be it
rows or an error; the two passes over the rows that the conditions hold on give one list; and these
queries are what the two statements are read as. -/
theorem groupBy_eq_distinct (hne : columns ≠ []) (hstar : "*" ∉ columns)
    (hrows : ∀ rows, Store.fetch store table = .ok rows →
      ∀ row ∈ rows, row.IsStored ∧ row.HasAll columns table) (conditions : List Condition) :
    (groupQuery columns table conditions).run store =
        (distinctQuery columns table conditions).run store ∧
      (∀ rows kept, Store.fetch store table = .ok rows →
        Relation.restrict table conditions rows = .ok kept →
          Relation.Slots.grouped columns (asFields columns) table kept =
            .ok (Relation.unseen Relation.rowKey []
              (Relation.project (asFields columns) table kept))) ∧
      ∀ p : Sql.SelectPhrase, p.AsksFor columns table conditions →
        (p.distinct = none → p.query.groupBy = some columns →
          Sql.readSelect p.tokens = .ok (groupQuery columns table conditions)) ∧
        (p.distinct.isSome → p.query.groupBy = none →
          Sql.readSelect p.tokens = .ok (distinctQuery columns table conditions)) := by
  refine ⟨?_, fun rows kept hfetch hkept => ?_,
    fun p hp => ⟨fun hdistinct hgroup => ?_, fun hdistinct hgroup => ?_⟩⟩
  · change (groupQuery columns table conditions).source store >>= _ =
      (groupQuery columns table conditions).source store >>= _
    have hfetched : (groupQuery columns table conditions).source store =
        Store.fetch store table := by
      change Store.fetch store table >>= pure = _
      cases Store.fetch store table <;> rfl
    rw [hfetched]
    cases hfetch : Store.fetch store table with
    | error e => rfl
    | ok rows => exact evaluate_groupQuery hne hstar (hrows rows hfetch) conditions
  · exact Relation.slots_grouped_eq_unseen hne hstar fun row hrow =>
      hrows rows hfetch row ((Relation.sublist_of_filterOk hkept).subset hrow)
  · rw [Sql.readSelect_phrase, hp.query_eq_groupQuery hdistinct hgroup]
  · rw [Sql.readSelect_phrase, hp.query_eq_distinctQuery hdistinct hgroup]

/-- One number in two spellings, twice in the first of them, and another number. -/
def spelledTwice : MemoryStore :=
  MemoryStore.empty.create "t" [Row.ofList [("n", .text "1")], Row.ofList [("n", .text "1")],
    Row.ofList [("n", .text "2")], Row.ofList [("n", .text "1.0")]]

theorem groupBy_eq_distinct_two_columns : ∃ rows,
    run spelledTwice "SELECT n, t.n FROM t WHERE n != 2 GROUP BY n, t.n" =
      .ok (.rows rows, spelledTwice) ∧
    run spelledTwice "SELECT DISTINCT n, t.n FROM t WHERE n != 2" =
      .ok (.rows rows, spelledTwice) ∧ rows.length = 2 := by
  have hgroup : (Sql.parse "SELECT n, t.n FROM t WHERE n != 2 GROUP BY n, t.n").toOption =
      some (.select (groupQuery ["n", "t.n"] "t" [⟨"n", .notEqual, "2"⟩])) := by decide +kernel
  have hdistinct : (Sql.parse "SELECT DISTINCT n, t.n FROM t WHERE n != 2").toOption =
      some (.select (distinctQuery ["n", "t.n"] "t" [⟨"n", .notEqual, "2"⟩])) := by
    decide +kernel
  have hrows : ∀ rows, Store.fetch spelledTwice "t" = .ok rows →
      ∀ row ∈ rows, row.IsStored ∧ row.HasAll ["n", "t.n"] "t" := by
    intro rows hfetch
    obtain rfl := Except.ok.inj hfetch
    decide
  have hrun : ((groupQuery ["n", "t.n"] "t" [⟨"n", .notEqual, "2"⟩]).run
      spelledTwice).toOption.map List.length = some 2 := by decide +kernel
  obtain ⟨hsame, -⟩ := groupBy_eq_distinct (by decide) (by decide) hrows [⟨"n", .notEqual, "2"⟩]
  obtain ⟨rows, hrows, hlength⟩ := Option.map_eq_some_iff.mp hrun
  have hresult := eq_ok_of_toOption hrows
  exact ⟨rows, run_select_of_parse (eq_ok_of_toOption hgroup) hresult,
    run_select_of_parse (eq_ok_of_toOption hdistinct) (hsame ▸ hresult), hlength⟩

end Session
end Tabular
