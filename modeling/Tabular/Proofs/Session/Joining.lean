/-
# The three joins of a query

An inner, a left and a right join of the same tables on the same condition give the same pairs of
rows.  An outer join adds the rows of one table that have no partner, with null in the fields of
the other one.

The joins differ in the order in which they go through the pairs and in the cells that they carry
along (`Tabular.Proofs.Relation.Pairings`).  What they carry is gone once their rows are cut to the
requested fields, so there the pairs can be compared: **`joins_are_one_relation`** does it for the
rows that a query is on, and for what a query without clauses returns.
-/
import Tabular.Proofs.Relation.Pairings
import Tabular.Proofs.Relation.Restrict
import Tabular.Proofs.Session.Run

namespace Tabular

/-! ## 1. The join of a query -/

namespace Join

/-- The join of another kind. -/
def ofKind (join : Join) (kind : JoinKind) : Join := { join with kind := kind }

end Join

namespace Select

open Join

variable {σ : Type} [Store σ] {store : σ} {query : Select} {join : Join}
  {primaryRows joinedRows rows : List Row}

/-- The columns that a query requests of its tables, those inside aggregate calls included. -/
def columns (query : Select) : List String := query.fields.filterMap Field.column?

/-- The query with its join of another kind. -/
def joining (query : Select) (kind : JoinKind) : Select :=
  { query with join := query.join.map (·.ofKind kind) }

/-- A query for columns, without any clause but a join. -/
structure IsPlain (query : Select) : Prop where
  fields_eq : query.fields = asFields query.columns
  columns_ne_nil : query.columns ≠ []
  distinct_eq : query.distinct = false
  conditions_eq : query.conditions = []
  groupBy_eq : query.groupBy = none
  aggregated_eq : query.aggregated = false
  orderBy_eq : query.orderBy = none
  limit_eq : query.limit = none

theorem star_notMem_columns (query : Select) : "*" ∉ query.columns := by
  intro hstar
  obtain ⟨field, -, hcolumn⟩ := List.mem_filterMap.mp hstar
  rw [Field.column?, Option.filter_eq_some_iff] at hcolumn
  simp at hcolumn

/-- The rows that a query with a join is on. -/
theorem source_of_join (hjoin : query.join = some join)
    (hprimary : Store.fetch store query.table = .ok primaryRows)
    (hjoined : Store.fetch store join.table = .ok joinedRows) :
    query.source store = .ok ((join.pairings primaryRows joinedRows).map
      (join.rowOf query.table query.columns primaryRows)) := by
  rw [source, hprimary]
  simp only [hjoin, hjoined, bind, Except.bind, pure, Except.pure, rows_eq]
  rfl

/-- A plain query returns the rows that it is on, cut to its columns. -/
theorem IsPlain.run_eq (h : query.IsPlain) (hsource : query.source store = .ok rows) :
    query.run store = .ok (Relation.project (asFields query.columns) query.table rows) := by
  have hrestrict : Relation.restrict query.table query.conditions rows = .ok rows := by
    rw [h.conditions_eq, Relation.restrict_nil]
  rw [run_of_restrict_ok hsource hrestrict, ← h.fields_eq]
  simp [shape, arrange, cut, h.distinct_eq, h.groupBy_eq, h.aggregated_eq, h.orderBy_eq,
    h.limit_eq, Except.map]

end Select

/-! ## 2. The three joins -/

namespace Join

variable {σ : Type} [Store σ] {store : σ} {query : Select} {join : Join}
  {primaryRows joinedRows : List Row}

/-- Rows cut to the requested fields, one by one. -/
def cutTo (primary : String) (fields : List String) (rows : List Row) : List Row :=
  rows.map (Relation.projectRow (asFields fields) primary)

/-- **What ties the three joins together**: the rows of each of them, from the pairs of partners
and the rows that have none.  A pairing is shown as its requested fields. -/
structure OneRelation (join : Join) (primary : String) (fields : List String)
    (primaryRows joinedRows inner left right : List Row) : Prop where
  length_inner : inner.length = (join.partners primaryRows joinedRows).length
  length_left : left.length = (join.partners primaryRows joinedRows).length +
    primaryRows.countP (join.isLonelyPrimary joinedRows)
  length_right : right.length = (join.partners primaryRows joinedRows).length +
    joinedRows.countP (join.isLonelyJoined primaryRows)
  /-- The inner join shows the pairs of partners. -/
  inner_eq : cutTo primary fields inner =
    (join.partners primaryRows joinedRows).map fun x => shown primary fields (.both x.1 x.2)
  /-- The left join goes by primary row, and then by joined row. -/
  left_eq : cutTo primary fields left =
    ((primaryRows.flatMap fun p => joinedRows.map (.both p) ++ [.primaryOnly p]).filter
      (join.admits primaryRows joinedRows)).map (shown primary fields)
  /-- The right join goes by joined row, and then by primary row. -/
  right_eq : cutTo primary fields right =
    ((joinedRows.flatMap fun j => primaryRows.map (.both · j) ++ [.joinedOnly j]).filter
      (join.admits primaryRows joinedRows)).map (shown primary fields)
  /-- Its pairs alone, a left join shows what the inner one does. -/
  matched_left : ((((join.ofKind .left).pairings primaryRows joinedRows).filter
    Pairing.isMatched).map (shown primary fields)) = cutTo primary fields inner
  /-- A right join shows it in another order. -/
  matched_right : ((((join.ofKind .right).pairings primaryRows joinedRows).filter
    Pairing.isMatched).map (shown primary fields)).Perm (cutTo primary fields inner)
  /-- A primary row without partner shows its own values, and null for the joined table. -/
  primaryOnly : ∀ p ∈ primaryRows, ∀ field ∈ fields, ∀ column,
    (source primary field = (.primary, column) → ∃ v, p.get? column = some v ∧
      (shown primary fields (.primaryOnly p)).get? field = some v) ∧
    (source primary field = (.joined, column) →
      (shown primary fields (.primaryOnly p)).get? field = some .null)
  /-- A joined row without partner shows its own values, and null for the primary table. -/
  joinedOnly : ∀ j ∈ joinedRows, ∀ field ∈ fields, ∀ column,
    (source primary field = (.joined, column) → ∃ v, j.get? column = some v ∧
      (shown primary fields (.joinedOnly j)).get? field = some v) ∧
    (source primary field = (.primary, column) →
      (shown primary fields (.joinedOnly j)).get? field = some .null)

/-- Cut to the requested fields, the rows of a join are what is shown of its pairings. -/
theorem cutTo_map_rowOf (join : Join) {primary : String} {fields : List String}
    (h : Present primary fields primaryRows joinedRows) (hstar : "*" ∉ fields) :
    cutTo primary fields ((join.pairings primaryRows joinedRows).map
        (join.rowOf primary fields primaryRows)) =
      (join.pairings primaryRows joinedRows).map (shown primary fields) := by
  rw [cutTo, List.map_map]
  exact List.map_congr_left fun x hx => projectRow_rowOf h hstar hx

/-- The rows of all three joins fit together. -/
theorem oneRelation {primary : String} {fields : List String}
    (h : Present primary fields primaryRows joinedRows) (hstar : "*" ∉ fields) :
    OneRelation join primary fields primaryRows joinedRows
      ((join.ofKind .inner).rows primary fields primaryRows joinedRows)
      ((join.ofKind .left).rows primary fields primaryRows joinedRows)
      ((join.ofKind .right).rows primary fields primaryRows joinedRows) := by
  have hinner : cutTo primary fields ((join.ofKind .inner).rows primary fields primaryRows
      joinedRows) = (join.partners primaryRows joinedRows).map
        fun x => shown primary fields (.both x.1 x.2) := by
    rw [rows_eq, cutTo_map_rowOf _ h hstar, pairings_inner _ _ _ rfl, List.map_map]
    rfl
  exact {
    length_inner := by
      rw [rows_eq, pairings_inner _ _ _ rfl, List.length_map, List.length_map]
      rfl
    length_left := by
      rw [rows_eq, List.length_map]
      exact length_pairings_left (join.ofKind .left) primaryRows joinedRows rfl
    length_right := by
      rw [rows_eq, List.length_map]
      exact length_pairings_right (join.ofKind .right) primaryRows joinedRows rfl
    inner_eq := hinner
    left_eq := by
      rw [rows_eq, cutTo_map_rowOf _ h hstar]
      rfl
    right_eq := by
      rw [rows_eq, cutTo_map_rowOf _ h hstar]
      rfl
    matched_left := by
      rw [hinner, filter_isMatched_left _ _ _ rfl, List.map_map]
      rfl
    matched_right := by
      rw [hinner]
      have hperm := perm_filter_isMatched_right (join.ofKind .right) primaryRows joinedRows rfl
      have hmap := hperm.map (shown primary fields)
      rw [List.map_map] at hmap
      exact hmap
    primaryOnly := by
      intro p hp field hfield column
      have hpresent := h field hfield
      refine ⟨fun hsource => ?_, fun hsource => get?_shown_missing hfield hsource rfl⟩
      simp only [hsource] at hpresent
      exact get?_shown_own hfield hsource rfl (hpresent p hp)
    joinedOnly := by
      intro j hj field hfield column
      have hpresent := h field hfield
      refine ⟨fun hsource => ?_, fun hsource => get?_shown_missing hfield hsource rfl⟩
      simp only [hsource] at hpresent
      exact get?_shown_own hfield hsource rfl (hpresent j hj) }

/-- **The three joins are one relation.**  The conditions on the query are met when every row of a
table has the requested columns of the table.  Rows are those of the joins themselves; a query
without clauses returns them cut to its fields. -/
theorem joins_are_one_relation (hjoin : query.join = some join)
    (hprimary : Store.fetch store query.table = .ok primaryRows)
    (hjoined : Store.fetch store join.table = .ok joinedRows)
    (hpresent : Present query.table query.columns primaryRows joinedRows) :
    ∃ inner left right,
      (query.joining .inner).source store = .ok inner ∧
      (query.joining .left).source store = .ok left ∧
      (query.joining .right).source store = .ok right ∧
      OneRelation join query.table query.columns primaryRows joinedRows inner left right ∧
      (query.IsPlain →
        (query.joining .inner).run store = .ok (cutTo query.table query.columns inner) ∧
        (query.joining .left).run store = .ok (cutTo query.table query.columns left) ∧
        (query.joining .right).run store = .ok (cutTo query.table query.columns right)) := by
  have hkind : ∀ kind, (query.joining kind).source store =
      .ok ((join.ofKind kind).rows query.table query.columns primaryRows joinedRows) := by
    intro kind
    have hjoin' : (query.joining kind).join = some (join.ofKind kind) := by
      rw [Select.joining, hjoin]
      rfl
    rw [rows_eq]
    exact Select.source_of_join hjoin' hprimary hjoined
  have hrun : query.IsPlain → ∀ kind, (query.joining kind).run store =
      .ok (cutTo query.table query.columns
        ((join.ofKind kind).rows query.table query.columns primaryRows joinedRows)) := by
    intro hplain kind
    have hplain' : (query.joining kind).IsPlain := { hplain with }
    have hcut := cutTo_map_rowOf (join.ofKind kind) hpresent query.star_notMem_columns
    rw [hplain'.run_eq (hkind kind), rows_eq, hcut]
    exact congrArg Except.ok (project_map_shown hplain.columns_ne_nil hcut)
  exact ⟨_, _, _, hkind .inner, hkind .left, hkind .right,
    oneRelation hpresent query.star_notMem_columns,
    fun hplain => ⟨hrun hplain .inner, hrun hplain .left, hrun hplain .right⟩⟩

/-- Two owners, of whom the first one has two pets, and a pet of nobody. -/
def owners : List Row :=
  [Row.ofList [("id", .text "1"), ("name", .text "Ada")],
    Row.ofList [("id", .text "2"), ("name", .text "Bob")]]

def pets : List Row :=
  [Row.ofList [("owner", .text "1"), ("pet", .text "cat")],
    Row.ofList [("owner", .text "3"), ("pet", .text "owl")],
    Row.ofList [("owner", .text "1"), ("pet", .text "dog")]]

def ownersAndPets : MemoryStore := ⟨[("a", owners), ("b", pets)]⟩

/-- `SELECT a.name, b.pet FROM a LEFT JOIN b ON a.id = b.owner`. -/
def petsOfOwners : Select :=
  { Session.plainSelect (asFields ["a.name", "b.pet"]) "a" [] with
    join := some ⟨.left, "b", "a.id", "b.owner"⟩ }

/-- Two pairs, and a row of each table alone. -/
theorem joins_are_one_relation_pets : ∃ inner left right,
    OneRelation ⟨.left, "b", "a.id", "b.owner"⟩ "a" ["a.name", "b.pet"] owners pets
        inner left right ∧
      inner.length = 2 ∧ left.length = 3 ∧ right.length = 3 ∧
      (petsOfOwners.joining .left).run ownersAndPets =
        .ok (cutTo "a" ["a.name", "b.pet"] left) := by
  have hpresent : Present "a" ["a.name", "b.pet"] owners pets := by
    intro field hfield
    rcases List.mem_pair.mp hfield with rfl | rfl
    · show ∀ p ∈ owners, p.contains "name" = true
      decide
    · show ∀ j ∈ pets, j.contains "pet" = true
      decide
  have hplain : petsOfOwners.IsPlain := ⟨rfl, by decide, rfl, rfl, rfl, rfl, rfl, rfl⟩
  have howners : Store.fetch ownersAndPets petsOfOwners.table = .ok owners := rfl
  have hpets : Store.fetch ownersAndPets "b" = .ok pets := rfl
  obtain ⟨inner, left, right, -, -, -, hone, hrun⟩ :=
    joins_are_one_relation rfl howners hpets hpresent
  refine ⟨inner, left, right, hone, ?_, ?_, ?_, (hrun hplain).2.1⟩
  · rw [hone.length_inner]
    decide +kernel
  · rw [hone.length_left]
    decide +kernel
  · rw [hone.length_right]
    decide +kernel

end Join
end Tabular
