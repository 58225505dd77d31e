/-
# A projection shows the fields asked for

A row is cut to the fields of a query by setting cells in a new row, field by field: a name sets
one cell, if it stands for something, and `*` sets all cells of the row.  A column may be set many
times, since fields may be repeated and `*` may stand beside the columns that it covers.

What makes this harmless is that a field never sets a column to anything but what the column
stands for on the row (`resolve?_of_mem_fieldCells`): setting it again changes nothing.

* `IsProjection`: what a row cut to some fields has, in terms of the row and the fields alone;
* `IsProjection.insertAll_fieldCells`: one field more keeps it, and so does any list of fields
  (`isProjection_projectRow`);
* **`project_asked`**: a projection consists of the rows with a field present, in order, each cut
  to the fields.
-/
import Tabular.Proofs.Row
import Tabular.Relation.Arrange
import Mathlib.Data.List.Induction

namespace Tabular

/-! ## 1. What a field asks for -/

namespace Field

/-- The columns that a field asks for: those of the row for `*`, else the one it names. -/
def columnsOn (field : Field) (row : Row) : List String :=
  if field.name = "*" then row.columns else [field.name]

/-- Is there something to show for a field?  For `*` that is any column at all. -/
def isPresent (field : Field) (primary : String) (row : Row) : Bool :=
  if field.name = "*" then !row.isEmpty else (row.resolve? field.name primary).isSome

end Field

theorem Row.resolve?_of_mem_cells {row : Row} {cell : String × Value} (h : cell ∈ row.cells)
    (primary : String) : row.resolve? cell.1 primary = some cell.2 := by
  have hget : row.get? cell.1 = some cell.2 := Entries.get?_of_mem row.nodup h
  rw [resolve?, hget]

namespace Relation

variable {fields : List Field} {primary : String} {row out : Row} {field : Field}

/-- **A field sets a column to what the column stands for**, whichever field it is. -/
theorem resolve?_of_mem_fieldCells {cell : String × Value}
    (h : cell ∈ fieldCells primary row field) : row.resolve? cell.1 primary = some cell.2 := by
  unfold fieldCells at h
  split at h
  · exact Row.resolve?_of_mem_cells h primary
  · rw [Option.mem_toList, Option.map_eq_some_iff] at h
    obtain ⟨v, hv, rfl⟩ := h
    exact hv

/-- A field sets the columns it asks for, as far as they stand for something. -/
theorem names_fieldCells (primary : String) (row : Row) (field : Field) :
    (fieldCells primary row field).names =
      (field.columnsOn row).filter fun c => (row.resolve? c primary).isSome := by
  unfold fieldCells Field.columnsOn
  split
  · symm
    apply List.filter_eq_self.mpr
    intro c hc
    obtain ⟨cell, hcell, rfl⟩ := List.mem_map.mp hc
    rw [Row.resolve?_of_mem_cells hcell, Option.isSome_some]
  · cases hv : row.resolve? field.name primary with
    | none => simp [Entries.names, hv]
    | some v => simp [Entries.names, hv]

theorem isEmpty_fieldCells (primary : String) (row : Row) (field : Field) :
    (fieldCells primary row field).isEmpty = !field.isPresent primary row := by
  unfold fieldCells Field.isPresent
  split
  · rw [Bool.not_not, Row.isEmpty]
  · cases row.resolve? field.name primary <;> rfl

/-! ## 2. One row -/

/-- The columns that stand for something on a row, among those some fields ask for.  Each is
listed where it is first asked for. -/
def shownColumns (fields : List Field) (primary : String) (row : Row) : List String :=
  ((fields.flatMap fun field => field.columnsOn row).filter fun c =>
    (row.resolve? c primary).isSome).eraseDups

/-- `out` is `row` cut to some fields. -/
structure IsProjection (fields : List Field) (primary : String) (row out : Row) : Prop where
  columns_eq : out.columns = shownColumns fields primary row
  get?_eq : ∀ c ∈ out.columns, out.get? c = row.resolve? c primary
  /-- What a field has set is still there when all fields have been gone through. -/
  kept : ∀ field ∈ fields, ∀ cell ∈ fieldCells primary row field,
    out.get? cell.1 = some cell.2

/-- **One field more.** -/
theorem IsProjection.insertAll_fieldCells (h : IsProjection fields primary row out)
    (field : Field) : IsProjection (fields ++ [field]) primary row
      (out.insertAll (fieldCells primary row field)) := by
  have hcolumns : (out.insertAll (fieldCells primary row field)).columns =
      shownColumns (fields ++ [field]) primary row := by
    rw [Row.columns_insertAll, h.columns_eq, names_fieldCells, shownColumns, shownColumns,
      List.flatMap_append, List.filter_append, List.eraseDups_append, List.flatMap_singleton,
      List.removeAll]
    congr 2
    exact List.filter_congr fun c _ => by
      simp only [List.mem_eraseDups, List.elem_eq_mem, decide_not]
  have hget : ∀ c ∈ (out.insertAll (fieldCells primary row field)).columns,
      (out.insertAll (fieldCells primary row field)).get? c = row.resolve? c primary := by
    intro c hc
    rw [Row.mem_columns_iff, Row.get?_insertAll] at hc
    rw [Row.get?_insertAll]
    cases hset : Entries.get? c (fieldCells primary row field).reverse with
    | some v =>
      have hmem := List.mem_reverse.mp (Entries.mem_of_get?_eq_some hset)
      rw [Option.some_or, resolve?_of_mem_fieldCells hmem]
    | none =>
      rw [hset, Option.none_or] at hc
      rw [Option.none_or, h.get?_eq c (Row.mem_columns_iff.mpr hc)]
  refine ⟨hcolumns, hget, ?_⟩
  intro asked hasked cell hcell
  -- A cell that a field sets is among the columns, so it holds what the column stands for.
  have hresolve := resolve?_of_mem_fieldCells hcell
  have hname : cell.1 ∈ asked.columnsOn row := by
    have hmem : cell.1 ∈ (fieldCells primary row asked).names := List.mem_map_of_mem hcell
    rw [names_fieldCells] at hmem
    exact (List.mem_filter.mp hmem).1
  rw [hget cell.1, hresolve]
  rw [hcolumns, shownColumns, List.mem_eraseDups, List.mem_filter, hresolve]
  exact ⟨List.mem_flatMap.mpr ⟨asked, hasked, hname⟩, rfl⟩

/-- **All fields**, one after the other. -/
theorem isProjection_projectRow (fields : List Field) (primary : String) (row : Row) :
    IsProjection fields primary row (projectRow fields primary row) := by
  induction fields using List.reverseRecOn with
  | nil =>
    exact ⟨rfl, fun _ hc => absurd hc List.not_mem_nil, fun _ hf => absurd hf List.not_mem_nil⟩
  | append_singleton fields field ih =>
    have hstep : projectRow (fields ++ [field]) primary row =
        (projectRow fields primary row).insertAll (fieldCells primary row field) := by
      simp [projectRow, Row.ofList, Row.insertAll]
    rw [hstep]
    exact ih.insertAll_fieldCells field

/-- Nothing is left of a row exactly if no field is present on it. -/
theorem isEmpty_projectRow (fields : List Field) (primary : String) (row : Row) :
    (projectRow fields primary row).isEmpty =
      !fields.any fun field => field.isPresent primary row := by
  rw [projectRow, Row.isEmpty_ofList, List.not_any_eq_all_not, Bool.eq_iff_iff,
    List.isEmpty_iff, List.flatMap_eq_nil_iff, List.all_eq_true]
  simp only [← List.isEmpty_iff, isEmpty_fieldCells]

/-! ## 3. All rows -/

/-- **A projection shows the fields asked for.**  It has one row for each row on which a field is
present, in order, and this row has the columns asked for that stand for something, each with what
it stands for. -/
theorem project_asked (query : Select) (rows : List Row) :
    List.Forall₂ (IsProjection query.fields query.table)
      (rows.filter fun row => query.fields.any fun field => field.isPresent query.table row)
      (project query.fields query.table rows) := by
  have hproject : project query.fields query.table rows =
      (rows.filter fun row => query.fields.any fun field => field.isPresent query.table row).map
        (projectRow query.fields query.table) := by
    rw [project, List.filter_map]
    congr 1
    exact List.filter_congr fun row _ => by
      rw [Function.comp_apply, isEmpty_projectRow, Bool.not_not]
  rw [hproject, List.forall₂_map_right_iff, List.forall₂_same]
  intro row _
  exact isProjection_projectRow query.fields query.table row

end Relation
end Tabular
