/-
# Joins as one relation

The three joins run over their tables in different ways and build their rows differently.  Here
each of them is a filter: a `Pairing` is a pair of rows or a row that stands alone, each kind of
join goes through its `candidates` in an order of its own, and one test, `admits`, says which of
them stay.

* `rows_eq`: the rows of a join are those of its admitted candidates, in their order;
* `filter_isMatched_left`, `perm_filter_isMatched_right`: the pairs among them are the same for
  all kinds, up to order;
* `get?_rowOf_inner`, `get?_rowOf_outer`: what a column of a joined row holds;
* `projectRow_rowOf`: cut to the requested fields, the rows of all kinds look alike.
-/
import Tabular.Proofs.Row
import Tabular.Relation.Arrange
import Tabular.Relation.Join
import Mathlib.Data.List.ProdSigma
import Mathlib.Data.Multiset.Bind

namespace Tabular

/-! ## 1. Pairings -/

/-- What a joined row is made from: two partners, or a row of one table without partner. -/
inductive Pairing where
  | both (primaryRow joinedRow : Row)
  | primaryOnly (row : Row)
  | joinedOnly (row : Row)

namespace Pairing

/-- The primary row, if there is one. -/
def primary? : Pairing → Option Row
  | both p _ => some p
  | primaryOnly p => some p
  | joinedOnly _ => none

/-- The joined row, if there is one. -/
def joined? : Pairing → Option Row
  | both _ j => some j
  | primaryOnly _ => none
  | joinedOnly j => some j

/-- The row of a side, if there is one. -/
def row? (x : Pairing) : Join.Side → Option Row
  | .primary => x.primary?
  | .joined => x.joined?

/-- Are there both rows? -/
def isMatched : Pairing → Bool
  | both _ _ => true
  | _ => false

end Pairing

namespace Join

variable (join : Join) (primary : String) (fields : List String) (primaryRows joinedRows : List Row)

/-- Two rows are admitted as partners, and one row alone if it has none. -/
def admits : Pairing → Bool
  | .both p j => join.pairs p j
  | .primaryOnly p => joinedRows.all fun j => !join.pairs p j
  | .joinedOnly j => primaryRows.all fun p => !join.pairs p j

/-- What a kind of join goes through: for every row of one table all pairs with it, and then, in
an outer join, the row alone. -/
def candidates (kind : JoinKind) (primaryRows joinedRows : List Row) : List Pairing :=
  match kind with
  | .inner => primaryRows.flatMap fun p => joinedRows.map (.both p)
  | .left => primaryRows.flatMap fun p => joinedRows.map (.both p) ++ [.primaryOnly p]
  | .right => joinedRows.flatMap fun j => primaryRows.map (.both · j) ++ [.joinedOnly j]

/-- The pairings that a join has a row for. -/
def pairings : List Pairing :=
  (candidates join.kind primaryRows joinedRows).filter (join.admits primaryRows joinedRows)

/-- The primary cells that an outer join keeps of a pairing. -/
def shape : Pairing → Cells
  | .both p _ => p.cells
  | .primaryOnly p => p.cells
  | .joinedOnly _ => nullCells primaryRows

/-- The row of a pairing. -/
def rowOf (x : Pairing) : Row :=
  match join.kind with
  | .inner => Row.ofList (fields.filterMap fun field =>
      (fieldValue? primary x.primary? x.joined? field).map fun value => (field, value))
  | _ => outerRow primary fields (shape primaryRows x) x.primary? x.joined?

/-! ## 2. The rows of a join -/

theorem all_not_eq_isEmpty {α : Type} (rel : α → Bool) (l : List α) :
    (l.all fun a => !rel a) = (l.filter rel).isEmpty := by
  rw [Bool.eq_iff_iff, List.isEmpty_iff, List.filter_eq_nil_iff]
  simp

/-- The admitted pairings of one row: its partners, or else the row alone. -/
theorem filter_admits_left (p : Row) :
    (joinedRows.map (Pairing.both p) ++ [Pairing.primaryOnly p]).filter
        (join.admits primaryRows joinedRows) =
      (joinedRows.filter (join.pairs p)).map (.both p) ++
        if (joinedRows.filter (join.pairs p)).isEmpty then [Pairing.primaryOnly p] else [] := by
  have hpairs : join.admits primaryRows joinedRows ∘ Pairing.both p = join.pairs p := rfl
  rw [List.filter_append, List.filter_map, hpairs, List.filter_singleton]
  simp only [admits, all_not_eq_isEmpty, cond_eq_ite]

theorem filter_admits_right (j : Row) :
    (primaryRows.map (Pairing.both · j) ++ [Pairing.joinedOnly j]).filter
        (join.admits primaryRows joinedRows) =
      (primaryRows.filter (join.pairs · j)).map (.both · j) ++
        if (primaryRows.filter (join.pairs · j)).isEmpty then [Pairing.joinedOnly j] else [] := by
  have hpairs : join.admits primaryRows joinedRows ∘ (Pairing.both · j) = (join.pairs · j) := rfl
  rw [List.filter_append, List.filter_map, hpairs, List.filter_singleton]
  simp only [admits, all_not_eq_isEmpty, cond_eq_ite]

theorem rowOf_of_ne_inner (hkind : join.kind ≠ .inner) (x : Pairing) :
    join.rowOf primary fields primaryRows x =
      outerRow primary fields (shape primaryRows x) x.primary? x.joined? := by
  unfold rowOf
  split
  · exact absurd ‹_› hkind
  · rfl

/-- **The rows of a join** are those of the pairings that it admits, in the order in which it goes
through them. -/
theorem rows_eq : join.rows primary fields primaryRows joinedRows =
    (join.pairings primaryRows joinedRows).map (join.rowOf primary fields primaryRows) := by
  have houter := rowOf_of_ne_inner join primary fields primaryRows
  cases hkind : join.kind with
  | inner =>
    simp only [rows, hkind, innerRows, pairings, candidates, List.filter_flatMap, List.map_flatMap]
    refine List.flatMap_congr fun p _ => ?_
    have hpairs : join.admits primaryRows joinedRows ∘ Pairing.both p = join.pairs p := rfl
    rw [List.filter_map, List.map_map, hpairs]
    refine List.map_congr_left fun j _ => ?_
    simp [rowOf, hkind, innerRow, Pairing.primary?, Pairing.joined?]
  | left =>
    simp only [rows, hkind, leftRows, pairings, candidates, List.filter_flatMap, List.map_flatMap,
      filter_admits_left]
    refine List.flatMap_congr fun p _ => ?_
    cases joinedRows.filter (join.pairs p) with
    | nil => simp [houter, hkind, shape, Pairing.primary?, Pairing.joined?]
    | cons j partners => simp [houter, hkind, shape, Pairing.primary?, Pairing.joined?]
  | right =>
    simp only [rows, hkind, rightRows, pairings, candidates, List.filter_flatMap, List.map_flatMap,
      filter_admits_right]
    refine List.flatMap_congr fun j _ => ?_
    cases primaryRows.filter (join.pairs · j) with
    | nil => simp [houter, hkind, shape, Pairing.primary?, Pairing.joined?]
    | cons p partners => simp [houter, hkind, shape, Pairing.primary?, Pairing.joined?]

/-! ## 3. The pairs of all kinds -/

theorem perm_flatMap_map_swap {α β γ : Type} (f : α → β → γ) (as : List α) (bs : List β) :
    (bs.flatMap fun b => as.map (f · b)).Perm (as.flatMap fun a => bs.map (f a)) := by
  induction bs with
  | nil => simp
  | cons b bs ih =>
    rw [List.flatMap_cons]
    exact (ih.append_left _).trans (List.map_append_flatMap_perm as (f · b) fun a => bs.map (f a))

/-- The pairs that a left join goes through are those of an inner join. -/
theorem filter_isMatched_candidates_left :
    (candidates .left primaryRows joinedRows).filter Pairing.isMatched =
      candidates .inner primaryRows joinedRows := by
  simp [candidates, List.filter_flatMap, List.filter_map, Pairing.isMatched, Function.comp_def]

/-- Those of a right join are the same in another order. -/
theorem perm_filter_isMatched_candidates_right :
    ((candidates .right primaryRows joinedRows).filter Pairing.isMatched).Perm
      (candidates .inner primaryRows joinedRows) := by
  have hpairs : (candidates .right primaryRows joinedRows).filter Pairing.isMatched =
      joinedRows.flatMap fun j => primaryRows.map (Pairing.both · j) := by
    simp [candidates, List.filter_flatMap, List.filter_map, Pairing.isMatched, Function.comp_def]
  rw [hpairs]
  exact perm_flatMap_map_swap Pairing.both primaryRows joinedRows

theorem filter_not_isMatched_candidates_left :
    (candidates .left primaryRows joinedRows).filter (!Pairing.isMatched ·) =
      primaryRows.map .primaryOnly := by
  rw [List.map_eq_flatMap]
  simp [candidates, List.filter_flatMap, List.filter_map, Pairing.isMatched, Function.comp_def]

theorem filter_not_isMatched_candidates_right :
    (candidates .right primaryRows joinedRows).filter (!Pairing.isMatched ·) =
      joinedRows.map .joinedOnly := by
  rw [List.map_eq_flatMap]
  simp [candidates, List.filter_flatMap, List.filter_map, Pairing.isMatched, Function.comp_def]

/-- The pairs of partners, by primary row and then by joined row. -/
def partners : List (Row × Row) :=
  (primaryRows ×ˢ joinedRows).filter fun x => join.pairs x.1 x.2

/-- Has a primary row no partner? -/
def isLonelyPrimary (p : Row) : Bool := joinedRows.all fun j => !join.pairs p j

/-- Has a joined row no partner? -/
def isLonelyJoined (j : Row) : Bool := primaryRows.all fun p => !join.pairs p j

/-- An inner join has a row for every pair of partners. -/
theorem pairings_inner (hkind : join.kind = .inner) : join.pairings primaryRows joinedRows =
    (join.partners primaryRows joinedRows).map fun x => .both x.1 x.2 := by
  have hpairs : (join.admits primaryRows joinedRows) ∘ (fun x : Row × Row => .both x.1 x.2) =
      fun x => join.pairs x.1 x.2 := rfl
  have hproduct : candidates .inner primaryRows joinedRows =
      (primaryRows ×ˢ joinedRows).map fun x => .both x.1 x.2 := by
    simp [candidates, SProd.sprod, List.product, List.map_flatMap, Function.comp_def]
  rw [pairings, hkind, hproduct, List.filter_map, hpairs, partners]

/-- The pairs of an outer join: those of a left one are the pairs of partners. -/
theorem filter_isMatched_left (hkind : join.kind = .left) :
    (join.pairings primaryRows joinedRows).filter Pairing.isMatched =
      (join.partners primaryRows joinedRows).map fun x => .both x.1 x.2 := by
  have hinner := pairings_inner { join with kind := .inner } primaryRows joinedRows rfl
  rw [pairings, hkind, List.filter_comm, filter_isMatched_candidates_left]
  exact hinner

theorem perm_filter_isMatched_right (hkind : join.kind = .right) :
    ((join.pairings primaryRows joinedRows).filter Pairing.isMatched).Perm
      ((join.partners primaryRows joinedRows).map fun x => .both x.1 x.2) := by
  have hinner := pairings_inner { join with kind := .inner } primaryRows joinedRows rfl
  rw [pairings, hkind, List.filter_comm]
  refine ((perm_filter_isMatched_candidates_right primaryRows joinedRows).filter _).trans ?_
  exact List.Perm.of_eq hinner

theorem filter_not_isMatched_left (hkind : join.kind = .left) :
    (join.pairings primaryRows joinedRows).filter (!Pairing.isMatched ·) =
      (primaryRows.filter (join.isLonelyPrimary joinedRows)).map .primaryOnly := by
  rw [pairings, hkind, List.filter_comm, filter_not_isMatched_candidates_left, List.filter_map]
  rfl

theorem filter_not_isMatched_right (hkind : join.kind = .right) :
    (join.pairings primaryRows joinedRows).filter (!Pairing.isMatched ·) =
      (joinedRows.filter (join.isLonelyJoined primaryRows)).map .joinedOnly := by
  rw [pairings, hkind, List.filter_comm, filter_not_isMatched_candidates_right, List.filter_map]
  rfl

/-- A left join has a row for every pair of partners and for every primary row without one. -/
theorem length_pairings_left (hkind : join.kind = .left) :
    (join.pairings primaryRows joinedRows).length = (join.partners primaryRows joinedRows).length +
      primaryRows.countP (join.isLonelyPrimary joinedRows) := by
  rw [List.length_eq_length_filter_add Pairing.isMatched, filter_isMatched_left _ _ _ hkind,
    filter_not_isMatched_left _ _ _ hkind, List.length_map, List.length_map,
    List.countP_eq_length_filter]

theorem length_pairings_right (hkind : join.kind = .right) :
    (join.pairings primaryRows joinedRows).length = (join.partners primaryRows joinedRows).length +
      joinedRows.countP (join.isLonelyJoined primaryRows) := by
  rw [List.length_eq_length_filter_add Pairing.isMatched,
    (perm_filter_isMatched_right _ _ _ hkind).length_eq, filter_not_isMatched_right _ _ _ hkind,
    List.length_map, List.length_map, List.countP_eq_length_filter]

/-- The primary row of a pairing is one of the primary table. -/
theorem mem_of_primary?_eq_some {x : Pairing} (hx : x ∈ join.pairings primaryRows joinedRows)
    {p : Row} (hp : x.primary? = some p) : p ∈ primaryRows := by
  have hcandidate := List.mem_of_mem_filter hx
  cases hkind : join.kind
  all_goals
    simp only [candidates, hkind, List.mem_flatMap, List.mem_append, List.mem_map,
      List.mem_singleton] at hcandidate
  · obtain ⟨p', hp', j, -, rfl⟩ := hcandidate
    exact Option.some.inj hp ▸ hp'
  · obtain ⟨p', hp', ⟨j, -, rfl⟩ | rfl⟩ := hcandidate
    · exact Option.some.inj hp ▸ hp'
    · exact Option.some.inj hp ▸ hp'
  · obtain ⟨j, -, ⟨p', hp', rfl⟩ | rfl⟩ := hcandidate
    · exact Option.some.inj hp ▸ hp'
    · simp [Pairing.primary?] at hp

/-- Only a right join has rows without primary row. -/
theorem kind_eq_right {x : Pairing} (hx : x ∈ join.pairings primaryRows joinedRows)
    (hp : x.primary? = none) : join.kind = .right := by
  have hcandidate := List.mem_of_mem_filter hx
  cases hkind : join.kind with
  | inner =>
    simp only [candidates, hkind, List.mem_flatMap, List.mem_map] at hcandidate
    obtain ⟨p', -, j, -, rfl⟩ := hcandidate
    simp [Pairing.primary?] at hp
  | left =>
    simp only [candidates, hkind, List.mem_flatMap, List.mem_append, List.mem_map,
      List.mem_singleton] at hcandidate
    obtain ⟨p', -, ⟨j, -, rfl⟩ | rfl⟩ := hcandidate <;> simp [Pairing.primary?] at hp
  | right => rfl

/-! ## 4. The columns of a joined row -/

/-- Cells under names qualified with a table. -/
def qualified (table : String) (cells : Cells) : Cells :=
  cells.map fun cell => (table ++ "." ++ cell.1, cell.2)

theorem qualify_injective (table : String) : Function.Injective (table ++ "." ++ ·) := by
  intro a b h
  have hlist := congrArg String.toList h
  simpa [String.toList_append, String.toList_inj] using hlist

/-- A qualified name holds what the column has held. -/
theorem get?_qualified (table column : String) {cells : Cells} (hnd : cells.names.Nodup) :
    (Row.ofList (qualified table cells)).get? (table ++ "." ++ column) =
      Entries.get? column cells := by
  have hnames : (qualified table cells).names = cells.names.map (table ++ "." ++ ·) := by
    simp [qualified, Entries.names]
  have hcells := Row.cells_ofList (hnames ▸ hnd.map (qualify_injective table))
  rw [Row.get?, hcells, qualified]
  exact Entries.get?_map (qualify_injective table) column cells

/-- No other names come from them. -/
theorem get?_qualified_eq_none {table c : String} (h : ∀ column, c ≠ table ++ "." ++ column)
    (cells : Cells) : (Row.ofList (qualified table cells)).get? c = none := by
  rw [Row.get?_ofList, Entries.get?_eq_none_iff]
  intro hmem
  obtain ⟨cell, hcell, rfl⟩ := List.mem_map.mp hmem
  obtain ⟨entry, -, rfl⟩ := List.mem_map.mp (List.mem_reverse.mp hcell)
  exact h entry.1 rfl

variable {join primary fields primaryRows joinedRows} {x : Pairing}

theorem nodup_shape (primaryRows : List Row) (x : Pairing) : (shape primaryRows x).names.Nodup := by
  cases x with
  | both p _ => exact p.nodup
  | primaryOnly p => exact p.nodup
  | joinedOnly j =>
    cases primaryRows with
    | nil => exact List.nodup_nil
    | cons p rest =>
      have hnames : (shape (p :: rest) (.joinedOnly j)).names = p.columns := by
        simp [shape, nullCells, Entries.names, Function.comp_def]
      rw [hnames]
      exact p.nodup

/-- The value of a field for a pairing, if its side has one. -/
def valueOf? (primary : String) (x : Pairing) (field : String) : Option Value :=
  fieldValue? primary x.primary? x.joined? field

theorem valueOf?_eq {field column : String} {side : Side}
    (h : source primary field = (side, column)) :
    valueOf? primary x field = (x.row? side).bind (·.get? column) := by
  cases side <;> simp only [valueOf?, fieldValue?, h, Pairing.row?]

/-- **A row of an inner join** holds the requested fields that there are, and no other column. -/
theorem get?_rowOf_inner (hkind : join.kind = .inner) (c : String) :
    (join.rowOf primary fields primaryRows x).get? c =
      if c ∈ fields then valueOf? primary x c else none := by
  simp only [rowOf, hkind]
  exact Row.get?_ofList_filterMap fields (valueOf? primary x) c

/-- **A row of an outer join** holds all requested fields, and the primary columns. -/
theorem get?_rowOf_outer (hkind : join.kind ≠ .inner) (c : String) :
    (join.rowOf primary fields primaryRows x).get? c =
      if c ∈ fields then some ((valueOf? primary x c).getD .null)
      else (Row.ofList (qualified primary (shape primaryRows x))).get? c := by
  have hfields := Row.get?_ofList_map fields (fun field => (valueOf? primary x field).getD .null) c
  rw [rowOf_of_ne_inner _ _ _ _ hkind, outerRow]
  refine (Row.get?_ofList_append _ _ c).trans ?_
  rw [show (fun field => (field, (fieldValue? primary x.primary? x.joined? field).getD .null)) =
    fun field => (field, (valueOf? primary x field).getD .null) from rfl, hfields]
  split <;> simp [qualified]

/-! ## 5. Cut to the requested fields -/

/-- What is shown of a pairing: the requested fields, null where there is no value. -/
def shown (primary : String) (fields : List String) (x : Pairing) : Row :=
  Row.ofList (fields.map fun field => (field, (valueOf? primary x field).getD .null))

theorem get?_shown (c : String) : (shown primary fields x).get? c =
    if c ∈ fields then some ((valueOf? primary x c).getD .null) else none :=
  Row.get?_ofList_map fields (fun field => (valueOf? primary x field).getD .null) c

/-- A field of a side that is there shows the value of its column. -/
theorem get?_shown_own {side : Side} {row : Row} {field column : String} (hfield : field ∈ fields)
    (hsource : source primary field = (side, column)) (hrow : x.row? side = some row)
    (hcontains : row.contains column = true) :
    ∃ v, row.get? column = some v ∧ (shown primary fields x).get? field = some v := by
  obtain ⟨v, hv⟩ := Option.isSome_iff_exists.mp hcontains
  refine ⟨v, hv, ?_⟩
  rw [get?_shown, if_pos hfield, valueOf?_eq hsource, hrow, Option.bind_some, hv]
  rfl

/-- A field of a side that is missing shows null. -/
theorem get?_shown_missing {side : Side} {field column : String} (hfield : field ∈ fields)
    (hsource : source primary field = (side, column)) (hrow : x.row? side = none) :
    (shown primary fields x).get? field = some .null := by
  rw [get?_shown, if_pos hfield, valueOf?_eq hsource, hrow]
  rfl

/-- Columns as fields of a query. -/
def asFields (columns : List String) : List Field := columns.map fun column => ⟨column, none⟩

/-- Has every row of the table that owns a field this column? -/
def Present (primary : String) (fields : List String) (primaryRows joinedRows : List Row) : Prop :=
  ∀ field ∈ fields, match source primary field with
    | (.primary, column) => ∀ p ∈ primaryRows, p.contains column = true
    | (.joined, column) => ∀ j ∈ joinedRows, j.contains column = true

theorem Present.isSome_valueOf? (h : Present primary fields primaryRows joinedRows) {p j : Row}
    (hp : p ∈ primaryRows) (hj : j ∈ joinedRows) {field : String} (hfield : field ∈ fields) :
    (valueOf? primary (.both p j) field).isSome = true := by
  have hpresent := h field hfield
  rcases hsource : source primary field with ⟨_ | _, column⟩ <;> simp only [hsource] at hpresent
  · rw [valueOf?_eq hsource]
    exact hpresent p hp
  · rw [valueOf?_eq hsource]
    exact hpresent j hj

/-- A requested field of a joined row holds what is shown of it. -/
theorem get?_rowOf (h : Present primary fields primaryRows joinedRows)
    (hx : x ∈ join.pairings primaryRows joinedRows) {field : String} (hfield : field ∈ fields) :
    (join.rowOf primary fields primaryRows x).get? field =
      some ((valueOf? primary x field).getD .null) := by
  by_cases hkind : join.kind = .inner
  · rw [get?_rowOf_inner hkind, if_pos hfield]
    rw [pairings_inner _ _ _ hkind] at hx
    obtain ⟨⟨p, j⟩, hpair, rfl⟩ := List.mem_map.mp hx
    obtain ⟨hp, hj⟩ := List.mem_product.mp (List.mem_of_mem_filter hpair)
    obtain ⟨v, hv⟩ := Option.isSome_iff_exists.mp (h.isSome_valueOf? hp hj hfield)
    rw [hv]
    rfl
  · rw [get?_rowOf_outer hkind, if_pos hfield]

/-- **Cut to the requested fields, the rows of all kinds look alike.** -/
theorem projectRow_rowOf (h : Present primary fields primaryRows joinedRows)
    (hstar : "*" ∉ fields) (hx : x ∈ join.pairings primaryRows joinedRows) :
    Relation.projectRow (asFields fields) primary (join.rowOf primary fields primaryRows x) =
      shown primary fields x := by
  rw [Relation.projectRow, shown, asFields, List.flatMap_map, List.map_eq_flatMap]
  congr 1
  refine List.flatMap_congr fun field hfield => ?_
  have hfield' : field ≠ "*" := fun e => hstar (e ▸ hfield)
  simp [Relation.fieldCells, hfield', Row.resolve?, get?_rowOf h hx hfield]

/-- A projection drops none of them, if a field is requested at all. -/
theorem project_map_shown (hne : fields ≠ []) {rows : List Row} {xs : List Pairing}
    (hrows : rows.map (Relation.projectRow (asFields fields) primary) =
      xs.map (shown primary fields)) :
    Relation.project (asFields fields) primary rows = xs.map (shown primary fields) := by
  rw [Relation.project, hrows, List.filter_eq_self]
  intro row hrow
  obtain ⟨x, -, rfl⟩ := List.mem_map.mp hrow
  rw [shown, Row.isEmpty_ofList, List.isEmpty_map, Bool.not_eq_true', List.isEmpty_eq_false_iff]
  exact hne

end Join
end Tabular
