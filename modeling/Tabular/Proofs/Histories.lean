/-
# Histories of rows

Rows come from many places: pairs that are collected, joins, groups and files.  All of them set one
cell after the other, and the same column may be set twice: a header can repeat a name, a query can
ask for a field twice, and a joined field can have the qualified name of a primary column.

Each kind of row is described by its history here, which may well repeat columns, and
`Entries.Leaves` says what the row makes of it.

* `Row.leaves_ofList`: rows of collected cells;
* `Join.leaves_rows`: rows of joins, for each pairing that a join has a row for;
* `Relation.leaves_grouped`: rows of groups, their values first and then their aggregates;
* `Document.leaves_ofText`: rows of files, record by record;
* **`rows_of_histories`**: all of them, and the keys of their JSON.
-/
import Tabular.Proofs.Delimited.Document
import Tabular.Proofs.Entries
import Tabular.Proofs.Json
import Tabular.Proofs.Relation.Grouping
import Tabular.Proofs.Relation.Pairings

namespace Tabular

open Entries

/-! ## 1. Collected cells -/

namespace Row

theorem cells_insertAll_eq (row : Row) (cells : Cells) : (row.insertAll cells).cells =
    cells.foldl (fun entries entry => entries.set entry.1 entry.2) row.cells := by
  induction cells generalizing row with
  | nil => rfl
  | cons cell cells ih => exact ih (row.insert cell.1 cell.2)

/-- **Cells that are set one after the other**, from the row without columns on. -/
theorem leaves_ofList (history : Cells) : history.Leaves (ofList history).cells := by
  have hcells : (ofList history).cells = setAll history := cells_insertAll_eq empty history
  rw [hcells]
  exact leaves_setAll history

end Row

/-! ## 2. Joins -/

namespace Join

/-- What the row of a pairing is made from.  An inner join has only the fields with a value; an
outer one has all of them, behind the primary columns. -/
def history (join : Join) (primary : String) (fields : List String) (primaryRows : List Row)
    (x : Pairing) : Cells :=
  match join.kind with
  | .inner => fields.filterMap fun field =>
      (valueOf? primary x field).map fun value => (field, value)
  | _ => qualified primary (shape primaryRows x) ++
      fields.map fun field => (field, (valueOf? primary x field).getD .null)

variable (join : Join) (primary : String) (fields : List String) (primaryRows joinedRows : List Row)

theorem rowOf_eq_ofList (x : Pairing) : join.rowOf primary fields primaryRows x =
    Row.ofList (join.history primary fields primaryRows x) := by
  cases hkind : join.kind <;> simp only [rowOf, history, hkind] <;> rfl

/-- **Rows of joins.** -/
theorem leaves_rows :
    List.Forall₂ (fun x row => (join.history primary fields primaryRows x).Leaves row.cells)
      (join.pairings primaryRows joinedRows)
      (join.rows primary fields primaryRows joinedRows) := by
  rw [rows_eq, List.forall₂_map_right_iff, List.forall₂_same]
  intro x _
  rw [rowOf_eq_ofList]
  exact Row.leaves_ofList _

end Join

/-! ## 3. Groups -/

namespace Relation

variable {groupBy : List String} {fields : List Field} {primary : String} {rows results : List Row}

/-- Rows that can be grouped have all the group fields. -/
theorem hasAll_of_grouped (h : grouped groupBy fields primary rows = .ok results) :
    ∀ row ∈ rows, row.HasAll groupBy primary := by
  obtain ⟨tagged, htags, -⟩ := exists_of_bind_eq_ok h
  intro row hrow reference hreference
  obtain ⟨tag, htag⟩ := exists_ok_of_mem htags hrow
  obtain ⟨values, hvalues, -⟩ := exists_of_map_eq_ok htag
  obtain ⟨value, hvalue⟩ := exists_ok_of_mem hvalues hreference
  rw [Row.resolve] at hvalue
  split at hvalue
  · simp [*]
  · simp at hvalue

/-- **Rows of groups.** -/
theorem leaves_grouped (h : grouped groupBy fields primary rows = .ok results) :
    List.Forall₂ (fun values row => ∃ cells,
        aggregateCells fields primary (rowsWith groupBy primary rows values) = .ok cells ∧
          Leaves (groupBy.zip values ++ cells) row.cells)
      (distinctValues groupBy primary rows) results := by
  rw [grouped_eq (hasAll_of_grouped h)] at h
  refine (mapM_eq_ok_iff.mp h).imp fun values row hrow => ?_
  obtain ⟨cells, hcells, rfl⟩ := exists_of_map_eq_ok hrow
  exact ⟨cells, hcells, Row.leaves_ofList _⟩

end Relation

/-! ## 4. Files -/

namespace Document

/-- The records behind the header; a text with a blank first line has none. -/
def bodyRecords (s : String) : List (List (List Char)) :=
  let text := s.toList.dropWhile (· = '\ufeff')
  if Text.isBlankText (firstLine text) then []
  else (Delimited.records (delimiterOf (firstLine text)) text).tail

/-- What the row of a record is made from: columns and fields, as far as both go. -/
def history (columns : List String) (fields : List (List Char)) : Cells :=
  columns.zip (fields.map fun field => .text (String.ofList field))

theorem rows_ofText (s : String) :
    (ofText s).rows = (bodyRecords s).map (rowOf (ofText s).columns) := by
  unfold ofText bodyRecords
  dsimp only
  split
  · rfl
  · cases Delimited.records (delimiterOf (firstLine (s.toList.dropWhile (· = '\ufeff'))))
      (s.toList.dropWhile (· = '\ufeff')) <;> rfl

/-- **Rows of files.** -/
theorem leaves_ofText (s : String) :
    List.Forall₂ (fun fields row => (history (ofText s).columns fields).Leaves row.cells)
      (bodyRecords s) (ofText s).rows := by
  rw [rows_ofText, List.forall₂_map_right_iff, List.forall₂_same]
  exact fun fields _ => Row.leaves_ofList _

end Document

/-! ## 5. All rows -/

/-- **Rows are maps with an order**, however they are made: the columns are those of the history,
each once and in the order in which they first come, and each holds what it was last set to.  So no
key is repeated in the JSON of a row. -/
theorem rows_of_histories :
    (∀ history : Cells, history.Leaves (Row.ofList history).cells) ∧
    (∀ (join : Join) (primary : String) (fields : List String) (primaryRows joinedRows : List Row),
      List.Forall₂ (fun x row => (join.history primary fields primaryRows x).Leaves row.cells)
        (join.pairings primaryRows joinedRows)
        (join.rows primary fields primaryRows joinedRows)) ∧
    (∀ (groupBy : List String) (fields : List Field) (primary : String) (rows results : List Row),
      Relation.grouped groupBy fields primary rows = .ok results →
        List.Forall₂ (fun values row => ∃ cells, Relation.aggregateCells fields primary
            (Relation.rowsWith groupBy primary rows values) = .ok cells ∧
              Leaves (groupBy.zip values ++ cells) row.cells)
          (Relation.distinctValues groupBy primary rows) results) ∧
    (∀ s, List.Forall₂
      (fun fields row => (Document.history (Document.ofText s).columns fields).Leaves row.cells)
      (Document.bodyRecords s) (Document.ofText s).rows) ∧
    ∀ row : Row, row.columns.Nodup ∧ Json.keys? row.toJson.toList = some row.columns ∧
      Json.keys? (Json.prettyRow row).toList = some row.columns :=
  ⟨Row.leaves_ofList, Join.leaves_rows, fun _ _ _ _ _ => Relation.leaves_grouped,
    Document.leaves_ofText, fun row => ⟨row.nodup, Json.keys?_toJson row, Json.keys?_prettyRow row⟩⟩

/-- A count that is named like the group field takes its place. -/
theorem rows_of_histories_named : ∃ row,
    Relation.grouped ["n"] [⟨"n", some ⟨.count, .star, false⟩⟩] "t"
      [Row.ofList [("n", .text "1")]] = .ok [row] ∧
    Leaves [("n", .text "1"), ("n", AggregateFunction.countValue 1)] row.cells ∧
    row.size = 1 ∧ row.get? "n" = some (AggregateFunction.countValue 1) := by
  have hgrouped : Relation.grouped ["n"] [⟨"n", some ⟨.count, .star, false⟩⟩] "t"
      [Row.ofList [("n", .text "1")]] =
        .ok [Row.ofList [("n", .text "1"), ("n", AggregateFunction.countValue 1)]] := by
    rfl
  obtain ⟨-, -, hgroups, -⟩ := rows_of_histories
  have hleaves := hgroups _ _ _ _ _ hgrouped
  have hvalues : Relation.distinctValues ["n"] "t" [Row.ofList [("n", .text "1")]] =
      [[.text "1"]] := rfl
  rw [hvalues] at hleaves
  obtain ⟨⟨cells, hcells, hrow⟩, -⟩ := List.forall₂_cons.mp hleaves
  obtain rfl : [("n", AggregateFunction.countValue 1)] = cells := Except.ok.inj hcells
  exact ⟨_, hgrouped, hrow, hrow.length_eq, hrow.get?_eq "n"⟩

end Tabular
