/-
# Rows made from lists of cells

`Row.ofList` sets one cell after the other, so of several cells with one name the last one wins.
`get?_ofList` says so for any list, by a look-up from the back.  Two kinds of lists matter:

* a list that gives each name a value of its own, whatever the repetitions
  (`get?_ofList_map`, `get?_ofList_filterMap`), as a record under a header does;
* a list without repetitions, which holds the cells of its row as they are (`cells_ofList`).
-/
import Tabular.Row
import Mathlib.Data.List.Nodup
import Mathlib.Data.List.TakeWhile

namespace Tabular

/-! ## 1. Entries -/

namespace Entries

variable {α : Type}

theorem get?_append (name : String) (entries more : Entries α) :
    get? name (entries ++ more) = (get? name entries).or (get? name more) := by
  induction entries with
  | nil => simp [get?]
  | cons entry rest ih =>
    obtain ⟨n, a⟩ := entry
    by_cases h : n = name
    · simp [get?, h]
    · simpa [get?, h] using ih

theorem mem_of_get?_eq_some {name : String} {a : α} {entries : Entries α}
    (h : get? name entries = some a) : (name, a) ∈ entries := by
  induction entries with
  | nil => simp [get?] at h
  | cons entry rest ih =>
    obtain ⟨n, b⟩ := entry
    by_cases hn : n = name
    · simp only [get?, hn, if_true, Option.some.injEq] at h
      simp [hn, h]
    · simp only [get?, hn, if_false] at h
      exact List.mem_cons_of_mem _ (ih h)

theorem mem_names_of_get?_eq_some {name : String} {a : α} {entries : Entries α}
    (h : get? name entries = some a) : name ∈ names entries :=
  List.mem_map_of_mem (f := Prod.fst) (mem_of_get?_eq_some h)

theorem get?_eq_none_iff {name : String} {entries : Entries α} :
    get? name entries = none ↔ name ∉ names entries := by
  induction entries with
  | nil => simp [get?, names]
  | cons entry rest ih =>
    obtain ⟨n, b⟩ := entry
    by_cases hn : n = name
    · simp [get?, names, hn]
    · have hn' : name ≠ n := fun e => hn e.symm
      simp only [get?, hn, if_false, ih]
      simp [names, hn']

theorem get?_of_mem {name : String} {a : α} {entries : Entries α} (hnd : (names entries).Nodup)
    (h : (name, a) ∈ entries) : get? name entries = some a := by
  induction entries with
  | nil => simp at h
  | cons entry rest ih =>
    obtain ⟨n, b⟩ := entry
    have hnd' := List.nodup_cons.mp hnd
    rcases List.mem_cons.mp h with heq | hm
    · obtain ⟨rfl, rfl⟩ := Prod.mk.inj heq
      simp [get?]
    · have hname : name ∈ names rest := List.mem_map_of_mem (f := Prod.fst) hm
      have hne : n ≠ name := fun e => hnd'.1 (e ▸ hname)
      simpa [get?, hne] using ih hnd'.2 hm

/-- Names may be rewritten as long as they stay apart. -/
theorem get?_map {f : String → String} (hf : Function.Injective f) (name : String)
    (entries : Entries α) :
    get? (f name) (entries.map fun entry => (f entry.1, entry.2)) = get? name entries := by
  induction entries with
  | nil => rfl
  | cons entry rest ih =>
    obtain ⟨n, a⟩ := entry
    simp only [List.map_cons, get?, hf.eq_iff, ih]

/-- A name that is not there goes to the end. -/
theorem set_of_notMem {name : String} {entries : Entries α} (h : name ∉ names entries) (a : α) :
    set name a entries = entries ++ [(name, a)] := by
  induction entries with
  | nil => rfl
  | cons entry rest ih =>
    obtain ⟨n, b⟩ := entry
    simp only [names, List.map_cons, List.mem_cons, not_or] at h
    have hne : n ≠ name := fun e => h.1 e.symm
    simp [set, hne, ih h.2]

end Entries

/-! ## 2. Rows -/

namespace Row

theorem mem_columns_iff {row : Row} {c : String} : c ∈ row.columns ↔ (row.get? c).isSome := by
  rw [← not_iff_not, Option.not_isSome_iff_eq_none]
  exact Entries.get?_eq_none_iff.symm

/-- **New columns go to the end**, each once and in the order in which they first come. -/
theorem columns_insertAll (row : Row) (cells : Cells) :
    (row.insertAll cells).columns =
      row.columns ++ (cells.names.filter (· ∉ row.columns)).eraseDups := by
  induction cells generalizing row with
  | nil => simp [insertAll, Entries.names]
  | cons cell cells ih =>
    obtain ⟨n, v⟩ := cell
    have hstep : row.insertAll ((n, v) :: cells) = (row.insert n v).insertAll cells := rfl
    have hnames : Entries.names ((n, v) :: cells) = n :: Entries.names cells := rfl
    rw [hstep, ih, columns_insert, hnames]
    by_cases hn : n ∈ row.columns
    · rw [if_pos hn, List.filter_cons_of_neg (by simpa using hn)]
    · rw [if_neg hn, List.filter_cons_of_pos (by simpa using hn), List.eraseDups_cons,
        List.filter_filter, List.append_assoc, List.singleton_append]
      congr 3
      exact List.filter_congr fun c _ => by by_cases hc : c = n <;> simp [hc]

theorem get?_insertAll (row : Row) (cells : Cells) (c : String) :
    (row.insertAll cells).get? c = (Entries.get? c cells.reverse).or (row.get? c) := by
  induction cells generalizing row with
  | nil => simp [insertAll, Entries.get?]
  | cons cell cells ih =>
    obtain ⟨n, v⟩ := cell
    have hstep : row.insertAll ((n, v) :: cells) = (row.insert n v).insertAll cells := rfl
    rw [hstep, ih, get?_insert, List.reverse_cons, Entries.get?_append]
    by_cases h : c = n
    · simp [Entries.get?, h]
    · have h' : n ≠ c := fun e => h e.symm
      simp [Entries.get?, h, h']

/-- **The last value of a name wins.** -/
theorem get?_ofList (cells : Cells) (c : String) :
    (ofList cells).get? c = Entries.get? c cells.reverse := by
  rw [ofList, get?_insertAll]
  simp [empty, get?, Entries.get?]

/-- Where every name has a value of its own, that is its value in the row. -/
theorem get?_ofList_map (columns : List String) (f : String → Value) (c : String) :
    (ofList (columns.map fun column => (column, f column))).get? c =
      if c ∈ columns then some (f c) else none := by
  rw [get?_ofList]
  split
  · rename_i h
    cases hg : Entries.get? c (columns.map fun column => (column, f column)).reverse with
    | none =>
      rw [Entries.get?_eq_none_iff] at hg
      exact absurd h (by simpa [Entries.names] using hg)
    | some v =>
      have hm := Entries.mem_of_get?_eq_some hg
      simp only [List.mem_reverse, List.mem_map, Prod.mk.injEq] at hm
      obtain ⟨column, -, rfl, rfl⟩ := hm
      rfl
  · rename_i h
    rw [Entries.get?_eq_none_iff]
    simpa [Entries.names] using h

/-- The same where some names have no value: they are left out. -/
theorem get?_ofList_filterMap (columns : List String) (f : String → Option Value) (c : String) :
    (ofList (columns.filterMap fun column => (f column).map fun v => (column, v))).get? c =
      if c ∈ columns then f c else none := by
  rw [get?_ofList]
  cases hg : Entries.get? c
    (columns.filterMap fun column => (f column).map fun v => (column, v)).reverse with
  | none =>
    rw [Entries.get?_eq_none_iff] at hg
    split
    · rename_i h
      cases hv : f c with
      | none => rfl
      | some v =>
        have hmem : (c, v) ∈ columns.filterMap fun column => (f column).map fun v => (column, v) :=
          List.mem_filterMap.mpr ⟨c, h, by simp [hv]⟩
        exact absurd (List.mem_map_of_mem (f := Prod.fst) (List.mem_reverse.mpr hmem)) hg
    · rfl
  | some v =>
    have hm := Entries.mem_of_get?_eq_some hg
    simp only [List.mem_reverse, List.mem_filterMap, Option.map_eq_some_iff,
      Prod.mk.injEq] at hm
    obtain ⟨column, hcolumn, w, hw, rfl, rfl⟩ := hm
    rw [if_pos hcolumn, hw]

/-- Cells that are set later win. -/
theorem get?_ofList_append (cells more : Cells) (c : String) :
    (ofList (cells ++ more)).get? c = ((ofList more).get? c).or ((ofList cells).get? c) := by
  have happend : ofList (cells ++ more) = (ofList cells).insertAll more := by
    simp [ofList, insertAll]
  rw [happend, get?_insertAll, ← get?_ofList]

theorem isEmpty_ofList (cells : Cells) : (ofList cells).isEmpty = cells.isEmpty := by
  cases cells with
  | nil => rfl
  | cons cell cells =>
    rw [List.isEmpty_cons, ← Bool.not_eq_true, isEmpty, List.isEmpty_iff]
    intro hnil
    have hget := get?_ofList (cell :: cells) cell.1
    rw [get?, hnil, Entries.get?, eq_comm, Entries.get?_eq_none_iff] at hget
    exact hget (by simp [Entries.names])

theorem cells_insertAll (row : Row) {cells : Cells}
    (h : (Entries.names (row.cells ++ cells)).Nodup) :
    (row.insertAll cells).cells = row.cells ++ cells := by
  induction cells generalizing row with
  | nil => simp [insertAll]
  | cons cell cells ih =>
    obtain ⟨n, v⟩ := cell
    have hn : n ∉ row.cells.names := by
      intro hm
      simp only [Entries.names, List.map_append, List.map_cons] at h hm
      exact (List.disjoint_of_nodup_append h) hm List.mem_cons_self
    have hcells : (row.insert n v).cells = row.cells ++ [(n, v)] := Entries.set_of_notMem hn v
    have hstep : row.insertAll ((n, v) :: cells) = (row.insert n v).insertAll cells := rfl
    rw [hstep, ih (row.insert n v) (by simpa [hcells] using h), hcells]
    simp

/-- Cells without a repeated name are the cells of their row. -/
theorem cells_ofList {cells : Cells} (h : cells.names.Nodup) : (ofList cells).cells = cells := by
  rw [ofList, cells_insertAll empty (by simpa [empty] using h)]
  simp [empty]

theorem ext_cells {row row' : Row} (h : row.cells = row'.cells) : row = row' := by
  cases row
  cases row'
  cases h
  rfl

/-- A row whose cells all hold what `f` says of their columns is made from its columns. -/
theorem cells_eq_map {row : Row} {f : String → Value}
    (h : ∀ c v, row.get? c = some v → v = f c) :
    row.cells = row.columns.map fun c => (c, f c) := by
  have hpair : ∀ cell ∈ row.cells, cell = (cell.1, f cell.1) := by
    rintro ⟨c, v⟩ hm
    exact congrArg (Prod.mk c) (h c v (Entries.get?_of_mem row.nodup hm))
  calc row.cells = row.cells.map id := (List.map_id _).symm
    _ = row.cells.map fun cell => (cell.1, f cell.1) := List.map_congr_left hpair
    _ = row.columns.map fun c => (c, f c) := by simp [columns, Entries.names]

/-! ## 3. References -/

/-- A reference is parted at its first point. -/
theorem eq_of_splitReference {reference table column : String}
    (h : splitReference reference = some (table, column)) :
    reference = table ++ "." ++ column ∧ '.' ∉ table.toList := by
  unfold splitReference at h
  simp only at h
  split at h
  · simp at h
  · rename_i point rest hrest
    simp only [Option.some.injEq, Prod.mk.injEq] at h
    obtain ⟨rfl, rfl⟩ := h
    have hpoint : point = '.' := by
      have hhead := List.head?_dropWhile_not (· ≠ '.') reference.toList
      rw [hrest] at hhead
      simpa using hhead
    constructor
    · apply String.toList_inj.mp
      have hall := List.takeWhile_append_dropWhile (p := (· ≠ '.')) (l := reference.toList)
      rw [hrest, hpoint] at hall
      simpa using hall.symm
    · intro hmem
      rw [String.toList_ofList] at hmem
      simpa using List.mem_takeWhile_imp hmem

theorem splitReference_append {table : String} (h : '.' ∉ table.toList) (column : String) :
    splitReference (table ++ "." ++ column) = some (table, column) := by
  have hne : ∀ a ∈ table.toList, decide (a ≠ '.') = true := by
    intro a ha
    simpa using fun e : a = '.' => h (e ▸ ha)
  have hlist : (table ++ "." ++ column).toList = table.toList ++ '.' :: column.toList := by simp
  simp only [splitReference, hlist, List.dropWhile_append_of_pos hne,
    List.takeWhile_append_of_pos hne]
  simp

theorem resolve?_congr {row row' : Row} (h : ∀ c, row.get? c = row'.get? c)
    (reference primary : String) :
    row.resolve? reference primary = row'.resolve? reference primary := by
  simp only [resolve?, h]

end Row
end Tabular
