/-
# Groups partition the rows

The rows of a query fall into groups by their values of the group fields.  There is one row in the
result for each list of values that some row has, in the order in which they first come up, and it
is made of these values and of the aggregates of exactly the rows that have them.

* `grouped_eq`: the groups, by their values: this is the form in which everything else follows;
* `perm_flatMap_rowsWith`: every row is in exactly one group;
* `cells_ofList_append`: aggregates stand behind the values, where the names allow it;
* **`grouped_partitions`**: all of it, together with the counts of the groups, and that grouping
  in one pass by text forms gives the same.
-/
import Tabular.Proofs.Relation.Slots
import Mathlib.Algebra.Ring.Nat
import Mathlib.Data.List.Induction

namespace Tabular

/-! ## 1. The values that make a group -/

namespace Row

variable {row : Row} {references : List String} {primary : String}

/-- Does the row have a value for each of the references? -/
def HasAll (row : Row) (references : List String) (primary : String) : Prop :=
  ∀ reference ∈ references, (row.resolve? reference primary).isSome

/-- The values of a row for some references; where there is none it is null. -/
def valuesOf (row : Row) (references : List String) (primary : String) : List Value :=
  references.map fun reference => (row.resolve? reference primary).getD .null

instance : Decidable (row.HasAll references primary) :=
  inferInstanceAs (Decidable (∀ reference ∈ references, _))

theorem mapM_resolve (h : row.HasAll references primary) :
    references.mapM (row.resolve · primary) = .ok (row.valuesOf references primary) := by
  refine mapM_eq_ok_map fun reference hreference => ?_
  obtain ⟨v, hv⟩ := Option.isSome_iff_exists.mp (h reference hreference)
  rw [resolve, hv]
  rfl

/-- The references with the values of a row. -/
theorem zip_valuesOf (row : Row) (references : List String) (primary : String) :
    references.zip (row.valuesOf references primary) =
      references.map fun reference =>
        (reference, (row.resolve? reference primary).getD .null) := by
  induction references with
  | nil => rfl
  | cons reference references ih => exact congrArg (List.cons _) ih

end Row

namespace Relation

/-! ## 2. Groups by their values -/

section Firsts

variable {α κ : Type} [DecidableEq κ] [BEq κ] [LawfulBEq κ]

/-- The keys of the first elements are the keys without repetitions. -/
theorem map_firsts (key : α → κ) (l : List α) :
    (firsts key l).map key = (l.map key).eraseDups := by
  induction l using List.reverseRecOn with
  | nil => rfl
  | append_singleton l a ih =>
    rw [firsts_append, List.map_append, ih, List.map_append, List.eraseDups_append]
    congr 1
    generalize l.map key = ks
    by_cases h : key a ∈ ks <;> simp [firsts, List.removeAll, List.eraseDups_cons, h]

theorem nodup_eraseDups_map (key : α → κ) (l : List α) : (l.map key).eraseDups.Nodup :=
  map_firsts key l ▸ nodup_keys_firsts key l

/-- **Classes partition a list**, up to the order. -/
theorem perm_flatMap_filter (key : α → κ) (l : List α) :
    ((l.map key).eraseDups.flatMap fun k => l.filter fun a => key a = k).Perm l := by
  have hsome : ∀ ks : List κ, ks.Nodup →
      (ks.flatMap fun k => l.filter fun a => key a = k).Perm (l.filter fun a => key a ∈ ks) := by
    intro ks hks
    induction ks with
    | nil => simp
    | cons k ks ih =>
      obtain ⟨hk, hks⟩ := List.nodup_cons.mp hks
      -- The elements with one of the keys are those with the first one and all others.
      have hsplit := List.filter_append_perm (fun a => decide (key a = k))
        (l.filter fun a => key a ∈ k :: ks)
      have hfirst : (l.filter fun a => key a ∈ k :: ks).filter (fun a => decide (key a = k)) =
          l.filter fun a => key a = k := by
        rw [List.filter_filter]
        exact List.filter_congr fun a _ => by by_cases ha : key a = k <;> simp [ha]
      have hothers : (l.filter fun a => key a ∈ k :: ks).filter (fun a => !decide (key a = k)) =
          l.filter fun a => key a ∈ ks := by
        rw [List.filter_filter]
        exact List.filter_congr fun a _ => by by_cases ha : key a = k <;> simp [ha, hk]
      rw [hfirst, hothers] at hsplit
      exact ((ih hks).append_left _).trans hsplit
  have hall := hsome _ (nodup_eraseDups_map key l)
  rwa [List.filter_eq_self.mpr fun a ha => by
    rw [decide_eq_true_iff, List.mem_eraseDups]
    exact List.mem_map_of_mem ha] at hall

end Firsts

variable {groupBy : List String} {primary : String} {fields : List Field} {rows : List Row}

/-- The values of the group fields on some rows, each list of values once, in the order in which
they come up. -/
def distinctValues (groupBy : List String) (primary : String) (rows : List Row) :
    List (List Value) :=
  (rows.map fun row => row.valuesOf groupBy primary).eraseDups

/-- The rows with some values of the group fields, in order. -/
def rowsWith (groupBy : List String) (primary : String) (rows : List Row) (values : List Value) :
    List Row :=
  rows.filter fun row => row.valuesOf groupBy primary = values

/-- **The groups by their values.** -/
theorem grouped_eq (h : ∀ row ∈ rows, row.HasAll groupBy primary) :
    grouped groupBy fields primary rows = (distinctValues groupBy primary rows).mapM fun values =>
      groupRow groupBy fields primary values (rowsWith groupBy primary rows values) := by
  have htags : rows.mapM (withGroupValues groupBy primary) =
      .ok (rows.map fun row => (row.valuesOf groupBy primary, row)) := by
    refine mapM_eq_ok_map fun row hrow => ?_
    rw [withGroupValues, Row.mapM_resolve (h row hrow)]
    rfl
  rw [grouped, htags, distinctValues, ← map_firsts, List.mapM_map]
  simp only [bind, Except.bind]
  rw [groups_map, groups, List.map_map, List.mapM_map]
  refine mapM_congr fun row _ => ?_
  simp only [Function.comp_def, List.map_map, List.map_id']
  rfl

theorem perm_flatMap_rowsWith (groupBy : List String) (primary : String) (rows : List Row) :
    ((distinctValues groupBy primary rows).flatMap (rowsWith groupBy primary rows)).Perm rows :=
  perm_flatMap_filter (fun row => Row.valuesOf row groupBy primary) rows

/-- The rows of a group have its values, and there is one. -/
theorem exists_of_mem_distinctValues {values : List Value}
    (h : values ∈ distinctValues groupBy primary rows) :
    ∃ row ∈ rowsWith groupBy primary rows values, row.valuesOf groupBy primary = values := by
  obtain ⟨row, hrow, hvalues⟩ := List.mem_map.mp (List.mem_eraseDups.mp h)
  exact ⟨row, List.mem_filter.mpr ⟨hrow, by simpa using hvalues⟩, hvalues⟩

end Relation

/-! ## 3. Aggregates of a group -/

/-- Can the call be computed where this row is among others?  Only counting does without a
column, and a column must be there. -/
def AggregateCall.CanRead (call : AggregateCall) (primary : String) (row : Row) : Prop :=
  match call.argument with
  | .star => call.function = .count
  | .column reference => (row.resolve? reference primary).isSome

instance (call : AggregateCall) (primary : String) (row : Row) :
    Decidable (call.CanRead primary row) :=
  match h : call.argument with
  | .star => decidable_of_iff (call.function = .count) (by simp [AggregateCall.CanRead, h])
  | .column reference => decidable_of_iff ((row.resolve? reference primary).isSome = true)
      (by simp [AggregateCall.CanRead, h])

/-- The number of rows, as a call. -/
def AggregateCall.IsRowCount (call : AggregateCall) : Prop :=
  call.function = .count ∧ call.argument = .star

namespace Relation

variable {groupBy : List String} {primary : String} {fields : List Field} {rows : List Row}

theorem exists_value {call : AggregateCall} (h : ∀ row ∈ rows, call.CanRead primary row)
    (hne : rows ≠ []) : ∃ v, call.value primary rows = .ok v := by
  obtain ⟨row, hrow⟩ := List.exists_mem_of_ne_nil rows hne
  rw [AggregateCall.value]
  cases hargument : call.argument with
  | star =>
    have hcount : call.function = .count := by
      simpa [AggregateCall.CanRead, hargument] using h row hrow
    exact ⟨_, if_pos hcount⟩
  | column reference =>
    have hread : ∀ row ∈ rows, ∃ v, row.resolve reference primary = .ok v := by
      intro row hrow
      have hsome : (row.resolve? reference primary).isSome := by
        simpa [AggregateCall.CanRead, hargument] using h row hrow
      obtain ⟨v, hv⟩ := Option.isSome_iff_exists.mp hsome
      exact ⟨v, by rw [Row.resolve, hv]⟩
    obtain ⟨values, hvalues⟩ := exists_mapM_eq_ok hread
    exact ⟨call.function.reduce call.distinct values, by simp only [hvalues, Except.map]⟩

/-- The calls among some fields, with their names. -/
def namedCalls (fields : List Field) : List (String × AggregateCall) :=
  fields.filterMap fun field => field.aggregate.map (field.name, ·)

/-- The aggregates of rows that all calls can read. -/
theorem exists_aggregateCells (h : ∀ named ∈ namedCalls fields, ∀ row ∈ rows,
      named.2.CanRead primary row) (hne : rows ≠ []) :
    ∃ cells, aggregateCells fields primary rows = .ok cells :=
  exists_mapM_eq_ok fun named hnamed => by
    obtain ⟨v, hv⟩ := exists_value (h named hnamed) hne
    exact ⟨(named.1, v), by rw [hv]; rfl⟩

/-- A call gives a cell of its name, with its value. -/
theorem eq_of_map_value {named : String × AggregateCall} {cell : String × Value}
    (h : (named.2.value primary rows).map (named.1, ·) = .ok cell) :
    cell.1 = named.1 ∧ named.2.value primary rows = .ok cell.2 := by
  cases hv : named.2.value primary rows with
  | error e => simp [hv, Except.map] at h
  | ok v =>
    rw [hv] at h
    obtain rfl := Except.ok.inj h
    exact ⟨rfl, rfl⟩

theorem names_aggregateCells {cells : Cells} (h : aggregateCells fields primary rows = .ok cells) :
    cells.names = (namedCalls fields).map Prod.fst :=
  map_of_mapM_eq_ok h fun _ _ hcell => (eq_of_map_value hcell).1

theorem exists_call_of_mem {cells : Cells} (h : aggregateCells fields primary rows = .ok cells)
    {name : String} {v : Value} (hmem : (name, v) ∈ cells) :
    ∃ call, (name, call) ∈ namedCalls fields ∧ call.value primary rows = .ok v := by
  obtain ⟨⟨name', call⟩, hnamed, hcell⟩ := exists_of_mem_mapM h hmem
  obtain ⟨rfl, hvalue⟩ := eq_of_map_value hcell
  exact ⟨call, hnamed, hvalue⟩

/-- **Under a name that only row counts have** stands the number of rows. -/
theorem get?_of_rowCounts {cells : Cells} (h : aggregateCells fields primary rows = .ok cells)
    {name : String} (hname : name ∈ (namedCalls fields).map Prod.fst)
    (hcounts : ∀ call, (name, call) ∈ namedCalls fields → call.IsRowCount) :
    (Row.ofList cells).get? name = some (AggregateFunction.countValue rows.length) := by
  rw [Row.get?_ofList]
  cases hget : Entries.get? name cells.reverse with
  | none =>
    rw [← names_aggregateCells h] at hname
    exact absurd hname (by simpa [Entries.names] using Entries.get?_eq_none_iff.mp hget)
  | some v =>
    have hmem := List.mem_reverse.mp (Entries.mem_of_get?_eq_some hget)
    obtain ⟨call, hcall, hvalue⟩ := exists_call_of_mem h hmem
    obtain ⟨hcount, hstar⟩ := hcounts call hcall
    rw [AggregateCall.value, hstar] at hvalue
    exact congrArg some (Except.ok.inj ((if_pos hcount).symm.trans hvalue)).symm

end Relation

/-! ## 4. The row of a group -/

namespace Entries

variable {α : Type}

theorem set_append_of_notMem {name : String} {entries : Entries α} (h : name ∉ entries.names)
    (a : α) (more : Entries α) : set name a (entries ++ more) = entries ++ set name a more := by
  induction entries with
  | nil => rfl
  | cons entry rest ih =>
    obtain ⟨n, b⟩ := entry
    simp only [names, List.map_cons, List.mem_cons, not_or] at h
    have hne : n ≠ name := fun e => h.1 e.symm
    simp [set, hne, ih h.2]

end Entries

namespace Row

theorem cells_insertAll_append {base : Cells} {more : Cells}
    (h : ∀ c ∈ more.names, c ∉ base.names) {row rest : Row}
    (hrow : row.cells = base ++ rest.cells) :
    (row.insertAll more).cells = base ++ (rest.insertAll more).cells := by
  induction more generalizing row rest with
  | nil => exact hrow
  | cons cell more ih =>
    have hinsert : (row.insert cell.1 cell.2).cells = base ++ (rest.insert cell.1 cell.2).cells := by
      change Entries.set cell.1 cell.2 row.cells = base ++ Entries.set cell.1 cell.2 rest.cells
      rw [hrow, Entries.set_append_of_notMem (h cell.1 List.mem_cons_self)]
    exact ih (fun c hc => h c (List.mem_cons_of_mem _ hc)) hinsert

theorem mem_columns_ofList {cells : Cells} {c : String} :
    c ∈ (ofList cells).columns ↔ c ∈ cells.names := by
  rw [← not_iff_not, columns, ← Entries.get?_eq_none_iff]
  change (ofList cells).get? c = none ↔ _
  rw [get?_ofList, Entries.get?_eq_none_iff]
  simp [Entries.names]

/-- Cells with names of their own stand behind the others. -/
theorem cells_ofList_append {cells more : Cells} (h : ∀ c ∈ more.names, c ∉ cells.names) :
    (ofList (cells ++ more)).cells = (ofList cells).cells ++ (ofList more).cells := by
  have happend : ofList (cells ++ more) = (ofList cells).insertAll more := by
    simp [ofList, insertAll]
  have hnames : ∀ c ∈ more.names, c ∉ (ofList cells).cells.names := by
    intro c hc hmem
    exact h c hc (mem_columns_ofList.mp hmem)
  have hempty : (ofList cells).cells = (ofList cells).cells ++ empty.cells := by simp [empty]
  rw [happend]
  exact cells_insertAll_append hnames hempty

end Row

namespace Relation

variable {groupBy : List String} {primary : String} {fields : List Field} {rows : List Row}

/-- A row that stands for the rows with some values: it carries the values, and behind them the
aggregates of these rows and of no others. -/
structure IsGroupRow (groupBy : List String) (fields : List Field) (primary : String)
    (rows : List Row) (values : List Value) (out : Row) : Prop where
  carries : ∀ cell ∈ groupBy.zip values, out.get? cell.1 = some cell.2
  aggregates : ∃ reduced,
    aggregated fields primary (rowsWith groupBy primary rows values) = .ok reduced ∧
      out.cells = (Row.ofList (groupBy.zip values)).cells ++ reduced.cells

/-- The calls among the fields can read each of the rows, and have other names than the group
fields. -/
structure CanReduce (groupBy : List String) (fields : List Field) (primary : String)
    (rows : List Row) : Prop where
  canRead : ∀ named ∈ namedCalls fields, ∀ row ∈ rows, named.2.CanRead primary row
  apart : ∀ named ∈ namedCalls fields, named.1 ∉ groupBy

theorem mem_of_mem_names_zip {values : List Value} {c : String}
    (h : c ∈ Entries.names (groupBy.zip values)) : c ∈ groupBy := by
  obtain ⟨cell, hcell, rfl⟩ := List.mem_map.mp h
  exact (List.of_mem_zip hcell).1

/-- A group reads as a row of it does. -/
theorem CanReduce.rowsWith (h : CanReduce groupBy fields primary rows) (values : List Value) :
    ∀ named ∈ namedCalls fields, ∀ row ∈ rowsWith groupBy primary rows values,
      named.2.CanRead primary row :=
  fun named hnamed row hrow => h.canRead named hnamed row (List.mem_filter.mp hrow).1

/-- **The row of a group**, and what a row count among its aggregates is. -/
theorem exists_groupRow (h : CanReduce groupBy fields primary rows) {values : List Value}
    (hvalues : values ∈ distinctValues groupBy primary rows) :
    ∃ out, groupRow groupBy fields primary values (rowsWith groupBy primary rows values) = .ok out ∧
      IsGroupRow groupBy fields primary rows values out ∧
      ∀ name ∈ (namedCalls fields).map Prod.fst,
        (∀ call, (name, call) ∈ namedCalls fields → call.IsRowCount) →
        out.get? name = some (AggregateFunction.countValue
          (rowsWith groupBy primary rows values).length) := by
  obtain ⟨row, hrow, hrowValues⟩ := exists_of_mem_distinctValues hvalues
  obtain ⟨cells, hcells⟩ := exists_aggregateCells (h.rowsWith values) (List.ne_nil_of_mem hrow)
  have hnames := names_aggregateCells hcells
  -- No aggregate has the name of a group field, so none of them overwrites a value.
  have happart : ∀ c ∈ cells.names, c ∉ groupBy := by
    intro c hc
    rw [hnames] at hc
    obtain ⟨named, hnamed, rfl⟩ := List.mem_map.mp hc
    exact h.apart named hnamed
  refine ⟨Row.ofList (groupBy.zip values ++ cells), by rw [groupRow, hcells]; rfl, ⟨?_, ?_⟩, ?_⟩
  · intro cell hcell
    have hgroup : cell.1 ∈ groupBy := (List.of_mem_zip hcell).1
    have hnone : (Row.ofList cells).get? cell.1 = none := by
      rw [Row.get?_ofList, Entries.get?_eq_none_iff]
      exact fun hmem => happart cell.1 (by simpa [Entries.names] using hmem) hgroup
    rw [← hrowValues, Row.zip_valuesOf] at hcell ⊢
    obtain ⟨reference, hreference, rfl⟩ := List.mem_map.mp hcell
    rw [Row.get?_ofList_append, hnone, Option.none_or, Row.get?_ofList_map, if_pos hreference]
  · exact ⟨Row.ofList cells, by rw [aggregated, hcells]; rfl,
      Row.cells_ofList_append fun c hc hmem => happart c hc (mem_of_mem_names_zip hmem)⟩
  · intro name hname hcounts
    rw [Row.get?_ofList_append, get?_of_rowCounts hcells hname hcounts, Option.some_or]

/-! ## 5. All groups -/

/-- The sizes of the groups add up to the number of rows. -/
theorem sum_length_rowsWith (groupBy : List String) (primary : String) (rows : List Row) :
    ((distinctValues groupBy primary rows).map fun values =>
      (rowsWith groupBy primary rows values).length).sum = rows.length := by
  rw [← List.length_flatMap]
  exact (perm_flatMap_rowsWith groupBy primary rows).length_eq

/-- **The groups partition the rows.**  There is one row for each list of values that some row
has, in the order in which they first come up, with these values and the aggregates of exactly
the rows that have them; so row counts add up to the number of rows.  Going through the rows once,
by the text forms of the values, gives the same. -/
theorem grouped_partitions (hstored : ∀ row ∈ rows, row.IsStored)
    (hgroup : ∀ row ∈ rows, row.HasAll groupBy primary)
    (h : CanReduce groupBy fields primary rows) :
    ∃ result, Slots.grouped groupBy fields primary rows = .ok result ∧
      grouped groupBy fields primary rows = .ok result ∧
      (distinctValues groupBy primary rows).Nodup ∧
      List.Forall₂ (IsGroupRow groupBy fields primary rows)
        (distinctValues groupBy primary rows) result ∧
      ((distinctValues groupBy primary rows).flatMap (rowsWith groupBy primary rows)).Perm rows ∧
      ∀ name ∈ (namedCalls fields).map Prod.fst,
        (∀ call, (name, call) ∈ namedCalls fields → call.IsRowCount) →
        ∃ counts : List Nat, counts.sum = rows.length ∧ result.map (·.get? name) =
          counts.map fun n => some (AggregateFunction.countValue n) := by
  obtain ⟨result, hresult, hrows⟩ := exists_mapM_eq_ok_forall₂
    fun values (hvalues : values ∈ distinctValues groupBy primary rows) => exists_groupRow h hvalues
  have hgrouped : grouped groupBy fields primary rows = .ok result := by
    rw [grouped_eq hgroup, hresult]
  refine ⟨result, by rw [Slots.grouped_eq_grouped hstored, hgrouped], hgrouped,
    nodup_eraseDups_map _ rows, hrows.imp fun _ _ hrow => hrow.1,
    perm_flatMap_rowsWith groupBy primary rows, fun name hname hcounts => ?_⟩
  refine ⟨_, sum_length_rowsWith groupBy primary rows, ?_⟩
  rw [List.map_map, ← List.forall₂_eq_eq_eq, List.forall₂_map_left_iff, List.forall₂_map_right_iff]
  exact (hrows.imp fun _ _ hrow => hrow.2 name hname hcounts).flip

/-- Two rows with one text, one with another text of the same number, and one with a null. -/
def mixedRows : List Row :=
  [Row.ofList [("n", .text "1")], Row.ofList [("n", .text "1.0")], Row.ofList [("n", .text "1")],
    Row.ofList [("n", .null)]]

/-- The field `count(*)`. -/
def rowCount : Field := ⟨"count(*)", some ⟨.count, .star, false⟩⟩

theorem grouped_partitions_mixed :
    ∃ result, grouped ["n"] [rowCount] "t" mixedRows = .ok result ∧ result.length = 3 ∧
      ∃ counts : List Nat, counts.sum = 4 ∧ result.map (·.get? "count(*)") =
        counts.map fun n => some (AggregateFunction.countValue n) := by
  have hstored : ∀ row ∈ mixedRows, row.IsStored := by decide
  have hgroup : ∀ row ∈ mixedRows, row.HasAll ["n"] "t" := by decide
  have hcalls : namedCalls [rowCount] = [("count(*)", ⟨.count, .star, false⟩)] := rfl
  have hreduce : CanReduce ["n"] [rowCount] "t" mixedRows :=
    ⟨by rw [hcalls]; decide, by rw [hcalls]; decide⟩
  obtain ⟨result, -, hresult, -, hrows, -, hcounts⟩ := grouped_partitions hstored hgroup hreduce
  have hvalues : distinctValues ["n"] "t" mixedRows =
      [[.text "1"], [.text "1.0"], [.null]] := by decide
  refine ⟨result, hresult, ?_, hcounts "count(*)" (by rw [hcalls]; decide) ?_⟩
  · rw [← hrows.length_eq, hvalues]
    rfl
  · rw [hcalls]
    simp [AggregateCall.IsRowCount]

end Relation
end Tabular
