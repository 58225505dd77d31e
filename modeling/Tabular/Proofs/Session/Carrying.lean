/-
# Columns that a joined row carries

The clauses of a query with a join see the joined rows and not the two tables.  A row of an inner
join carries the columns that the query prints, also inside aggregate calls, and no other; one of an
outer join carries the columns of the primary table besides.  So what such a query may filter, group
and sort by does depend on what it prints:

* a column that is not carried is on no joined row (`resolve?_of_lacks`): a condition on it fails,
  and so does a group field, and sorting takes it for null;
* one that is carried holds the same value whether it is printed or not (`Carries.readAlike`).

Hence **`printing_a_carried_column`**: to print a column that is carried changes neither whether a
query succeeds, nor which pairs pass its conditions, nor their groups, nor their order.
-/
import Tabular.Proofs.Relation.Reading
import Tabular.Proofs.Session.Joining
import Tabular.Proofs.Session.Removal

namespace Tabular

/-! ## 1. A row with one field more -/

namespace Join

variable {join : Join} {primary : String} {fields more : List String}
  {primaryRows joinedRows : List Row} {x : Pairing} {c column : String}

/-- A column that is among both lists of fields, or among none, is the same in both rows. -/
theorem get?_rowOf_congr (h : c ∈ more ↔ c ∈ fields) :
    (join.rowOf primary more primaryRows x).get? c =
      (join.rowOf primary fields primaryRows x).get? c := by
  by_cases hkind : join.kind = .inner
  · rw [get?_rowOf_inner hkind, get?_rowOf_inner hkind]
    simp only [h]
  · rw [get?_rowOf_outer hkind, get?_rowOf_outer hkind]
    simp only [h]

/-- What an outer join carries of a primary column is its value, or null for want of a row. -/
theorem eq_of_get?_shape {value : Value}
    (h : Entries.get? column (shape primaryRows x) = some value) :
    value = (x.primary?.bind (·.get? column)).getD .null := by
  cases x with
  | both p j => exact (congrArg (Option.getD · Value.null) (show p.get? column = _ from h)).symm
  | primaryOnly p =>
    exact (congrArg (Option.getD · Value.null) (show p.get? column = _ from h)).symm
  | joinedOnly j =>
    obtain ⟨name, -, heq⟩ := List.mem_map.mp (Entries.mem_of_get?_eq_some h)
    exact (Prod.mk.inj heq).2.symm

/-- The primary column of a qualified reference, in a row of an outer join. -/
theorem get?_rowOf_of_shape (hkind : join.kind ≠ .inner)
    (hsplit : Row.splitReference c = some (primary, column)) (hc : c ∉ fields) :
    (join.rowOf primary fields primaryRows x).get? c =
      Entries.get? column (shape primaryRows x) := by
  rw [get?_rowOf_outer hkind, if_neg hc, (Row.eq_of_splitReference hsplit).1]
  exact get?_qualified primary column (nodup_shape primaryRows x)

theorem valueOf?_of_splitReference (hsplit : Row.splitReference c = some (primary, column)) :
    valueOf? primary x c = x.primary?.bind (·.get? column) := by
  have hsource : source primary c = (.primary, column) := by simp [source, hsplit]
  exact valueOf?_eq hsource

/-- **An outer join carries the primary columns**, printed or not. -/
theorem get?_rowOf_primary (hkind : join.kind ≠ .inner)
    (hsplit : Row.splitReference c = some (primary, column))
    (hpresent : ∀ p ∈ primaryRows, p.contains column = true)
    (hne : join.kind = .right → primaryRows ≠ [])
    (hx : x ∈ join.pairings primaryRows joinedRows) :
    (join.rowOf primary fields primaryRows x).get? c =
      some ((valueOf? primary x c).getD .null) := by
  by_cases hc : c ∈ fields
  · rw [get?_rowOf_outer hkind, if_pos hc]
  · rw [get?_rowOf_of_shape hkind hsplit hc, valueOf?_of_splitReference hsplit]
    have hsome : (Entries.get? column (shape primaryRows x)).isSome = true := by
      cases x with
      | both p j => exact hpresent p (mem_of_primary?_eq_some _ _ _ hx rfl)
      | primaryOnly p => exact hpresent p (mem_of_primary?_eq_some _ _ _ hx rfl)
      | joinedOnly j =>
        cases primaryRows with
        | nil => exact absurd rfl (hne (kind_eq_right _ _ _ hx rfl))
        | cons p rest =>
          have hcontains := hpresent p List.mem_cons_self
          rw [Option.isSome_iff_ne_none, Ne, Entries.get?_eq_none_iff, not_not]
          rw [Row.contains, Row.get?, Option.isSome_iff_ne_none, Ne, Entries.get?_eq_none_iff,
            not_not] at hcontains
          simpa [shape, nullCells, Row.columns, Entries.names, Function.comp_def] using hcontains
    obtain ⟨value, hvalue⟩ := Option.isSome_iff_exists.mp hsome
    rw [hvalue, ← eq_of_get?_shape hvalue]

/-- **A bare column that is printed serves for the qualified one** as well. -/
theorem resolve?_rowOf_bare (hsplit : Row.splitReference c = some (primary, column))
    (hbare : Row.splitReference column = none) (hcolumn : column ∈ fields) :
    (join.rowOf primary fields primaryRows x).resolve? c primary =
      if join.kind = .inner then valueOf? primary x c
      else some ((valueOf? primary x c).getD .null) := by
  have hsource : source primary column = (.primary, column) := by simp [source, hbare]
  have hsame : valueOf? primary x column = valueOf? primary x c := by
    rw [valueOf?_eq hsource, valueOf?_of_splitReference hsplit]
    rfl
  rw [Row.resolve?]
  simp only [hsplit, if_true]
  by_cases hkind : join.kind = .inner
  · rw [if_pos hkind, get?_rowOf_inner hkind, get?_rowOf_inner hkind, if_pos hcolumn, hsame]
    by_cases hc : c ∈ fields
    · rw [if_pos hc]
      cases valueOf? primary x c <;> rfl
    · rw [if_neg hc]
  · rw [if_neg hkind, get?_rowOf_outer hkind column, if_pos hcolumn, hsame]
    by_cases hc : c ∈ fields
    · rw [get?_rowOf_outer hkind, if_pos hc]
    · rw [get?_rowOf_of_shape hkind hsplit hc]
      cases hshape : Entries.get? column (shape primaryRows x) with
      | none => rfl
      | some value =>
        rw [valueOf?_of_splitReference hsplit, ← eq_of_get?_shape hshape]

end Join

/-! ## 2. Columns that are carried -/

namespace Select

open Join

/-- What the clauses and the aggregate calls of a query read. -/
def references (query : Select) : List String :=
  query.conditions.map Condition.field ++ (query.groupBy.getD [] ++
    (Relation.argumentsOf query.fields ++ (query.orderBy.getD []).map SortKey.field))

/-- The query with a column more in its list of fields, between those before and after it. -/
def printing (query : Select) (before : List Field) (c : String) (after : List Field) : Select :=
  { query with
    fields := before ++ ⟨c, none⟩ :: after
    distinctFields := Sql.distinctFields query.distinct (before ++ ⟨c, none⟩ :: after) }

/-- Do the joined rows carry a column? -/
inductive Carries (query : Select) (join : Join) (primaryRows : List Row) (c : String) : Prop where
  /-- The query prints it, or has it in an aggregate call. -/
  | printed (h : c ∈ query.columns)
  /-- It is a column of the primary table, and the join is an outer one.  A right join knows the
  columns from the first primary row. -/
  | primary {column : String} (hkind : join.kind ≠ .inner)
      (hsplit : Row.splitReference c = some (query.table, column))
      (hne : join.kind = .right → primaryRows ≠ [])
  /-- The query prints the column of the primary table without its qualifier.  The last condition
  is about columns whose own names are qualified: `a.a.x` must not come to mean `a.x`. -/
  | bare {column : String} (hsplit : Row.splitReference c = some (query.table, column))
      (hbare : Row.splitReference column = none) (hcolumn : column ∈ query.columns)
      (hapart : query.table ++ "." ++ c ∉ query.references)

/-- Do the joined rows lack a column? -/
inductive Lacks (query : Select) (join : Join) (primaryRows : List Row) (c : String) : Prop where
  /-- It is one of the joined table, and not printed. -/
  | joined {table column : String} (hsplit : Row.splitReference c = some (table, column))
      (hne : table ≠ query.table) (hc : c ∉ query.columns) (hpoint : '.' ∉ query.table.toList)
  /-- It is one of the primary table, and printed neither with its qualifier nor without. -/
  | primary {column : String} (hsplit : Row.splitReference c = some (query.table, column))
      (hkind : join.kind = .inner ∨ primaryRows = []) (hc : c ∉ query.columns)
      (hcolumn : column ∉ query.columns)

variable {query : Select} {join : Join} {primaryRows joinedRows : List Row} {x : Pairing}
  {c column : String} {before after : List Field}

theorem Carries.ne_star (h : query.Carries join primaryRows c) : c ≠ "*" := by
  rintro rfl
  have hstar : Row.splitReference "*" = none := rfl
  cases h with
  | printed hc => exact query.star_notMem_columns hc
  | primary hkind hsplit hne => simp [hstar] at hsplit
  | bare hsplit hbare hcolumn hapart => simp [hstar] at hsplit

theorem mem_columns_printing (hfields : query.fields = before ++ after) (hc : c ≠ "*")
    (d : String) : d ∈ (query.printing before c after).columns ↔ d = c ∨ d ∈ query.columns := by
  have hcolumn : Field.column? ⟨c, none⟩ = some c := by simp [Field.column?, hc]
  simp only [columns, printing, hfields, List.filterMap_append, List.filterMap_cons, hcolumn,
    List.mem_append, List.mem_cons]
  tauto

/-- **A column that is carried holds the same** whether it is printed or not. -/
theorem Carries.readAlike (h : query.Carries join primaryRows c)
    (hpresent : Present query.table [c] primaryRows joinedRows)
    (hx : x ∈ join.pairings primaryRows joinedRows) {more : List String}
    (hmore : ∀ d, d ∈ more ↔ d = c ∨ d ∈ query.columns) :
    ReadAlike query.references query.table (join.rowOf query.table query.columns primaryRows x)
      (join.rowOf query.table more primaryRows x) := by
  have hother : ∀ d, d ≠ c → (join.rowOf query.table query.columns primaryRows x).get? d =
      (join.rowOf query.table more primaryRows x).get? d :=
    fun d hd => (get?_rowOf_congr (by simp [hmore, hd])).symm
  cases h with
  | printed hc =>
    refine fun reference _ => Row.resolve?_congr (fun d => ?_) reference query.table
    exact (get?_rowOf_congr (by rw [hmore]; exact ⟨fun hd => hd.elim (· ▸ hc) id, Or.inr⟩)).symm
  | @primary column hkind hsplit hne =>
    have hcolumn : ∀ p ∈ primaryRows, p.contains column = true := by
      have hsource : Join.source query.table c = (.primary, column) := by
        simp [Join.source, hsplit]
      have hc := hpresent c List.mem_cons_self
      simp only [hsource] at hc
      exact hc
    refine fun reference _ => Row.resolve?_congr (fun d => ?_) reference query.table
    by_cases hd : d = c
    · rw [hd, get?_rowOf_primary hkind hsplit hcolumn hne hx,
        get?_rowOf_primary hkind hsplit hcolumn hne hx]
    · exact hother d hd
  | @bare column hsplit hbare hcolumn hapart =>
    intro reference hreference
    by_cases hd : reference = c
    · rw [hd, resolve?_rowOf_bare hsplit hbare hcolumn,
        resolve?_rowOf_bare hsplit hbare ((hmore column).mpr (Or.inr hcolumn))]
    · rw [Row.resolve?, Row.resolve?, hother reference hd]
      cases hparts : Row.splitReference reference with
      | none => rfl
      | some parts =>
        obtain ⟨table, rest⟩ := parts
        by_cases htable : table = query.table
        · have hrest : rest ≠ c := by
            rintro rfl
            rw [htable] at hparts
            exact hapart ((Row.eq_of_splitReference hparts).1 ▸ hreference)
          simp only [htable, if_true, hother rest hrest]
        · simp only [if_neg htable]

/-- **A column that is not carried** is on no joined row. -/
theorem resolve?_of_lacks (h : query.Lacks join primaryRows c)
    (hx : x ∈ join.pairings primaryRows joinedRows) :
    (join.rowOf query.table query.columns primaryRows x).resolve? c query.table = none := by
  rw [Row.resolve?]
  cases h with
  | @joined table column hsplit hne hc hpoint =>
    have hname : ∀ column', c ≠ query.table ++ "." ++ column' := by
      rintro column' rfl
      rw [Row.splitReference_append hpoint] at hsplit
      exact hne (Prod.mk.inj (Option.some.inj hsplit)).1.symm
    have hget : (join.rowOf query.table query.columns primaryRows x).get? c = none := by
      by_cases hkind : join.kind = .inner
      · rw [get?_rowOf_inner hkind, if_neg hc]
      · rw [get?_rowOf_outer hkind, if_neg hc]
        exact get?_qualified_eq_none hname _
    simp only [hget, hsplit, if_neg hne]
  | @primary column hsplit hkind hc hcolumn =>
    have hget : ∀ d ∉ query.columns,
        (join.rowOf query.table query.columns primaryRows x).get? d = none := by
      intro d hd
      by_cases hinner : join.kind = .inner
      · rw [get?_rowOf_inner hinner, if_neg hd]
      · obtain rfl := hkind.resolve_left hinner
        have hshape : Join.shape [] x = [] := by
          cases x with
          | both p j => exact absurd (mem_of_primary?_eq_some _ _ _ hx rfl) List.not_mem_nil
          | primaryOnly p => exact absurd (mem_of_primary?_eq_some _ _ _ hx rfl) List.not_mem_nil
          | joinedOnly j => rfl
        rw [get?_rowOf_outer hinner, if_neg hd, hshape]
        rfl
    simp only [hget c hc, hget column hcolumn, hsplit, if_true]

/-! ## 3. A query that prints a column more -/

variable {σ : Type} [Store σ] {store : σ} {row row' : Pairing → Row} {xs kept : List Pairing}

/-- What a query makes of its rows in their order, if it does not reduce them to groups. -/
def printed (query : Select) (rows : List Row) : List Row :=
  let projected := Relation.project query.fields query.table rows
  query.cut (if query.distinct then Relation.distinct projected else projected)

/-- **What two queries have in common** that are on the rows of the same pairings: what passes, how
it is grouped, and in which order it comes. -/
structure SameSelection (query query' : Select) (store : σ) (xs : List Pairing)
    (row row' : Pairing → Row) (passing : Except QueryError (List Pairing)) : Prop where
  source_eq : query.source store = .ok (xs.map row)
  source_eq' : query'.source store = .ok (xs.map row')
  /-- The conditions hold on the same pairings, or fail in the same way. -/
  restrict_eq : Relation.restrict query.table query.conditions (xs.map row) =
    passing.map (List.map row)
  restrict_eq' : Relation.restrict query'.table query'.conditions (xs.map row') =
    passing.map (List.map row')
  sublist : ∀ kept, passing = .ok kept → kept.Sublist xs
  failed : ∀ e, passing = .error e → query.run store = .error e ∧ query'.run store = .error e
  /-- The pairings have the same values under the group fields, or fail in the same way. -/
  groups_eq : ∀ kept, passing = .ok kept → ∀ groupBy ∈ query.groupBy,
    kept.mapM (Relation.tagged groupBy query.table row) =
      kept.mapM (Relation.tagged groupBy query.table row')
  /-- The groups are printed alike. -/
  reduced_eq : query.aggregated = true ∨ query.groupBy.isSome = true →
    query'.run store = query.run store
  /-- Other rows are printed in the same order of pairings. -/
  ordered : ∀ kept, passing = .ok kept → query.aggregated = false → query.groupBy = none →
    ∃ ordered : List Pairing, ordered.Perm kept ∧
      query.arrange (kept.map row) = ordered.map row ∧
      query'.arrange (kept.map row') = ordered.map row' ∧
      query.run store = .ok (query.printed (ordered.map row)) ∧
      query'.run store = .ok (query'.printed (ordered.map row'))
  succeeds_iff : (∃ rows, query.run store = .ok rows) ↔ ∃ rows, query'.run store = .ok rows

/-- Without groups and aggregates, the rows are sorted and printed. -/
theorem shape_of_not_reduced {query : Select} (haggregated : query.aggregated = false)
    (hgroupBy : query.groupBy = none) (rows : List Row) :
    (query.shape rows).map query.cut = .ok (query.printed (query.arrange rows)) := by
  simp only [shape, haggregated, hgroupBy]
  rfl

/-- A field without aggregate call adds nothing to the aggregates. -/
theorem aggregateCells_printing (hfields : query.fields = before ++ after) (rows : List Row) :
    Relation.aggregateCells (query.printing before c after).fields query.table rows =
      Relation.aggregateCells query.fields query.table rows := by
  simp [Relation.aggregateCells, printing, hfields, List.filterMap_append]

/-- The groups of the rows read what the clauses and the aggregate calls read. -/
theorem grouped_of_alike {groupBy : List String}
    (halike : ∀ x ∈ kept, ReadAlike query.references query.table (row x) (row' x))
    (hgroupBy : query.groupBy = some groupBy) :
    kept.mapM (Relation.tagged groupBy query.table row) =
        kept.mapM (Relation.tagged groupBy query.table row') ∧
      Relation.grouped groupBy query.fields query.table (kept.map row) =
        Relation.grouped groupBy query.fields query.table (kept.map row') := by
  refine Relation.grouped_congr fun x hx => (halike x hx).mono fun reference hmem => ?_
  simp only [references, hgroupBy, Option.getD_some, List.mem_append] at hmem ⊢
  tauto

/-- Both queries reduce their rows to the same groups, or to the same aggregates. -/
theorem shape_printing (hfields : query.fields = before ++ after)
    (halike : ∀ x ∈ kept, ReadAlike query.references query.table (row x) (row' x))
    (h : query.aggregated = true ∨ query.groupBy.isSome = true) :
    (query.printing before c after).shape (kept.map row') = query.shape (kept.map row) := by
  have hcells := aggregateCells_printing (c := c) hfields
  cases haggregated : query.aggregated with
  | true =>
    have hsame : Relation.aggregateCells query.fields query.table (kept.map row) =
        Relation.aggregateCells query.fields query.table (kept.map row') := by
      refine Relation.aggregateCells_congr fun x hx => (halike x hx).mono fun reference hmem => ?_
      simp [references, hmem]
    have haggregated' : (query.printing before c after).aggregated = true := haggregated
    simp only [shape, haggregated, haggregated', if_true, Relation.aggregated, hsame]
    exact congrArg (fun cells => (cells.map Row.ofList).map fun row => [row]) (hcells _)
  | false =>
    have hsome : query.groupBy.isSome = true := h.resolve_left (by simp [haggregated])
    obtain ⟨groupBy, hgroupBy⟩ := Option.isSome_iff_exists.mp hsome
    have hsame := (grouped_of_alike halike hgroupBy).2
    have hfields' : ∀ rows,
        Relation.grouped groupBy (query.printing before c after).fields query.table rows =
          Relation.grouped groupBy query.fields query.table rows := by
      intro rows
      simp only [Relation.grouped, Relation.groupRow, hcells]
    have haggregated' : (query.printing before c after).aggregated = false := haggregated
    have hgroupBy' : (query.printing before c after).groupBy = some groupBy := hgroupBy
    simp only [shape, haggregated, haggregated', hgroupBy, hgroupBy', Bool.false_eq_true, if_false]
    exact congrArg (Except.map query.arrange) ((hfields' _).trans hsame.symm)

/-- The order of the rows reads what the clauses read. -/
theorem arrange_map (halike : ∀ x ∈ kept, ReadAlike query.references query.table (row x) (row' x)) :
    ∃ ordered : List Pairing, ordered.Perm kept ∧
      query.arrange (kept.map row) = ordered.map row ∧
      query.arrange (kept.map row') = ordered.map row' := by
  cases horder : query.orderBy with
  | none => exact ⟨kept, .refl kept, by simp [arrange, horder], by simp [arrange, horder]⟩
  | some keys =>
    have hkeys : ∀ x ∈ kept,
        ReadAlike (keys.map SortKey.field) query.table (row x) (row' x) := by
      refine fun x hx => (halike x hx).mono fun reference hmem => ?_
      simp only [references, horder, Option.getD_some, List.mem_append]
      tauto
    obtain ⟨ordered, hperm, hrow, hrow'⟩ := Relation.sorted_map hkeys
    exact ⟨ordered, hperm, by simpa [arrange, horder] using hrow,
      by simpa [arrange, horder] using hrow'⟩

section Runs

variable (hsource : query.source store = .ok (xs.map row))
  (hsource' : (query.printing before c after).source store = .ok (xs.map row'))

include hsource hsource'

/-- Where a condition fails on a pairing, it fails in both queries. -/
theorem sameSelection_of_error {e : QueryError}
    (hrestrict : Relation.restrict query.table query.conditions (xs.map row) = .error e)
    (hrestrict' : Relation.restrict query.table query.conditions (xs.map row') = .error e) :
    SameSelection query (query.printing before c after) store xs row row' (.error e) := by
  have hrun := run_of_restrict_error hsource hrestrict
  have hrun' : (query.printing before c after).run store = .error e :=
    run_of_restrict_error hsource' hrestrict'
  exact {
    source_eq := hsource
    source_eq' := hsource'
    restrict_eq := hrestrict
    restrict_eq' := hrestrict'
    sublist := fun kept hkept => by simp at hkept
    failed := fun e' he' => Except.error.inj he' ▸ ⟨hrun, hrun'⟩
    groups_eq := fun kept hkept => by simp at hkept
    reduced_eq := fun _ => hrun'.trans hrun.symm
    ordered := fun kept hkept => by simp at hkept
    succeeds_iff := by simp [hrun, hrun'] }

variable (hrestrict : Relation.restrict query.table query.conditions (xs.map row) =
    .ok (kept.map row))
  (hrestrict' : Relation.restrict query.table query.conditions (xs.map row') =
    .ok (kept.map row'))
  (halike : ∀ x ∈ kept, ReadAlike query.references query.table (row x) (row' x))

include hrestrict hrestrict' halike

/-- The pairings that pass give one result when they are reduced. -/
theorem run_printing_of_reduced (hfields : query.fields = before ++ after)
    (h : query.aggregated = true ∨ query.groupBy.isSome = true) :
    (query.printing before c after).run store = query.run store := by
  have hrun := run_of_restrict_ok hsource hrestrict
  have hrun' : (query.printing before c after).run store = _ :=
    run_of_restrict_ok hsource' hrestrict'
  rw [hrun, hrun', shape_printing hfields halike h]
  rfl

/-- Otherwise they are printed one by one, in one order. -/
theorem run_printing_of_not_reduced (haggregated : query.aggregated = false)
    (hgroupBy : query.groupBy = none) :
    ∃ ordered : List Pairing, ordered.Perm kept ∧
      query.arrange (kept.map row) = ordered.map row ∧
      (query.printing before c after).arrange (kept.map row') = ordered.map row' ∧
      query.run store = .ok (query.printed (ordered.map row)) ∧
      (query.printing before c after).run store =
        .ok ((query.printing before c after).printed (ordered.map row')) := by
  obtain ⟨ordered, hperm, harrange, harrange'⟩ := arrange_map halike
  refine ⟨ordered, hperm, harrange, harrange', ?_, ?_⟩
  · rw [run_of_restrict_ok hsource hrestrict, shape_of_not_reduced haggregated hgroupBy, harrange]
  · have haggregated' : (query.printing before c after).aggregated = false := haggregated
    have hgroupBy' : (query.printing before c after).groupBy = none := hgroupBy
    have hrun' : (query.printing before c after).run store = _ :=
      run_of_restrict_ok hsource' hrestrict'
    rw [hrun', shape_of_not_reduced haggregated' hgroupBy']
    exact congrArg (fun rows => Except.ok (printed _ rows)) harrange'

/-- A column more to print does not make a query fail, nor keep it from failing. -/
theorem run_printing_isOk_iff (hfields : query.fields = before ++ after) :
    (∃ rows, query.run store = .ok rows) ↔
      ∃ rows, (query.printing before c after).run store = .ok rows := by
  by_cases h : query.aggregated = true ∨ query.groupBy.isSome = true
  · rw [run_printing_of_reduced hsource hsource' hrestrict hrestrict' halike hfields h]
  · simp only [not_or, Bool.not_eq_true, Option.isSome_eq_false_iff,
      Option.isNone_iff_eq_none] at h
    obtain ⟨ordered, -, -, -, hok, hok'⟩ :=
      run_printing_of_not_reduced hsource hsource' hrestrict hrestrict' halike h.1 h.2
    exact ⟨fun _ => ⟨_, hok'⟩, fun _ => ⟨_, hok⟩⟩

/-- Where the conditions fail on no pairing, the same pairings pass them. -/
theorem sameSelection_of_ok (hfields : query.fields = before ++ after)
    (hsublist : kept.Sublist xs) :
    SameSelection query (query.printing before c after) store xs row row' (.ok kept) where
  source_eq := hsource
  source_eq' := hsource'
  restrict_eq := hrestrict
  restrict_eq' := hrestrict'
  sublist := by
    rintro kept' ⟨rfl⟩
    exact hsublist
  failed := fun e he => by simp at he
  groups_eq := by
    rintro kept' ⟨rfl⟩ groupBy hgroupBy
    exact (grouped_of_alike halike hgroupBy).1
  reduced_eq := run_printing_of_reduced hsource hsource' hrestrict hrestrict' halike hfields
  ordered := by
    rintro kept' ⟨rfl⟩
    exact run_printing_of_not_reduced hsource hsource' hrestrict hrestrict' halike
  succeeds_iff := run_printing_isOk_iff hsource hsource' hrestrict hrestrict' halike hfields

end Runs

/-- **Rows that read alike are selected alike**, whether a column more is printed or not. -/
theorem exists_sameSelection (hfields : query.fields = before ++ after)
    (hsource : query.source store = .ok (xs.map row))
    (hsource' : (query.printing before c after).source store = .ok (xs.map row'))
    (halike : ∀ x ∈ xs, ReadAlike query.references query.table (row x) (row' x)) :
    ∃ passing, SameSelection query (query.printing before c after) store xs row row' passing := by
  have hconditions : ∀ x ∈ xs,
      ReadAlike (query.conditions.map Condition.field) query.table (row x) (row' x) := by
    refine fun x hx => (halike x hx).mono fun reference hmem => ?_
    simp only [references, List.mem_append]
    tauto
  obtain ⟨passing, hrestrict, hrestrict', hsublist⟩ := Relation.restrict_map hconditions
  cases passing with
  | error e => exact ⟨_, sameSelection_of_error hsource hsource' hrestrict hrestrict'⟩
  | ok kept =>
    have hkept : ∀ x ∈ kept, ReadAlike query.references query.table (row x) (row' x) :=
      fun x hx => halike x ((hsublist kept rfl).subset hx)
    exact ⟨_, sameSelection_of_ok hsource hsource' hrestrict hrestrict' hkept hfields
      (hsublist kept rfl)⟩

/-- **A column more to print.**  If the joined rows carry it, the query selects as it did before.
If they lack it, no clause of the query finds it. -/
theorem printing_a_carried_column (hjoin : query.join = some join)
    (hprimary : Store.fetch store query.table = .ok primaryRows)
    (hjoined : Store.fetch store join.table = .ok joinedRows)
    (hfields : query.fields = before ++ after)
    (hpresent : Present query.table [c] primaryRows joinedRows) :
    (query.Carries join primaryRows c → ∃ passing,
      SameSelection query (query.printing before c after) store
        (join.pairings primaryRows joinedRows) (join.rowOf query.table query.columns primaryRows)
        (join.rowOf query.table (query.printing before c after).columns primaryRows) passing) ∧
    (query.Lacks join primaryRows c → ∃ rows, query.source store = .ok rows ∧
      ∀ row ∈ rows, row.resolve c query.table = .error (.unknownField c) ∧
        ∀ key : SortKey, key.field = c → key.value query.table row = .null) := by
  have hsource := Select.source_of_join hjoin hprimary hjoined
  constructor
  · intro h
    have hjoin' : (query.printing before c after).join = some join := hjoin
    have hsource' := Select.source_of_join hjoin' hprimary hjoined
    exact exists_sameSelection hfields hsource hsource' fun x hx =>
      h.readAlike hpresent hx (mem_columns_printing hfields h.ne_star)
  · intro h
    refine ⟨_, hsource, fun row hrow => ?_⟩
    obtain ⟨x, hx, rfl⟩ := List.mem_map.mp hrow
    have hnone := resolve?_of_lacks h hx
    refine ⟨by rw [Row.resolve, hnone], ?_⟩
    rintro key rfl
    rw [SortKey.value, hnone]
    rfl

/-- `SELECT b.pet FROM a LEFT JOIN b ON a.id = b.owner WHERE a.name != 'Cid'
ORDER BY a.name DESC`. -/
def petsByName : Select :=
  { petsOfOwners with
    fields := [⟨"b.pet", none⟩]
    conditions := [⟨"a.name", .notEqual, "'Cid'"⟩]
    orderBy := some [⟨"a.name", .descending⟩] }

/-- A left join filters and sorts by the names of the owners, printed or not. -/
theorem printing_a_carried_column_left_join : ∃ passing,
    SameSelection petsByName (petsByName.printing [⟨"b.pet", none⟩] "a.name" []) ownersAndPets
      (Join.pairings ⟨.left, "b", "a.id", "b.owner"⟩ owners pets)
      (Join.rowOf ⟨.left, "b", "a.id", "b.owner"⟩ "a" ["b.pet"] owners)
      (Join.rowOf ⟨.left, "b", "a.id", "b.owner"⟩ "a" ["b.pet", "a.name"] owners) passing := by
  have howners : Store.fetch ownersAndPets petsByName.table = .ok owners := rfl
  have hpets : Store.fetch ownersAndPets "b" = .ok pets := rfl
  have hpresent : Present petsByName.table ["a.name"] owners pets := by
    intro field hfield
    obtain rfl : field = "a.name" := List.mem_singleton.mp hfield
    show ∀ p ∈ owners, p.contains "name" = true
    decide
  have hsplit : Row.splitReference "a.name" = some (petsByName.table, "name") := by decide
  have hcarries : petsByName.Carries ⟨.left, "b", "a.id", "b.owner"⟩ owners "a.name" :=
    .primary (by decide) hsplit (by decide)
  exact (printing_a_carried_column rfl howners hpets rfl hpresent).1 hcarries

end Select

namespace Session

open Sql Join

/-- **An inner join cannot filter by a column that it does not print**: the statement fails on a
column that all owners have, and it does not when the column is printed. -/
theorem where_needs_printed_column :
    (∀ owner ∈ owners, owner.contains "name" = true) ∧
    run ownersAndPets "SELECT b.pet FROM a JOIN b ON a.id = b.owner WHERE a.name = 'Ada'" =
      .error (.unknownField "a.name") ∧
    run ownersAndPets "SELECT b.pet, a.name FROM a JOIN b ON a.id = b.owner WHERE a.name = 'Ada'" =
      .ok (.rows [Row.ofList [("b.pet", .text "cat"), ("a.name", .text "Ada")],
        Row.ofList [("b.pet", .text "dog"), ("a.name", .text "Ada")]], ownersAndPets) := by
  have hwithout : (parse
      "SELECT b.pet FROM a JOIN b ON a.id = b.owner WHERE a.name = 'Ada'").toOption =
        some (.select { plainSelect (asFields ["b.pet"]) "a" [⟨"a.name", .equal, "'Ada'"⟩] with
          join := some ⟨.inner, "b", "a.id", "b.owner"⟩ }) := by decide +kernel
  have hwith : (parse
      "SELECT b.pet, a.name FROM a JOIN b ON a.id = b.owner WHERE a.name = 'Ada'").toOption =
        some (.select { plainSelect (asFields ["b.pet", "a.name"]) "a"
          [⟨"a.name", .equal, "'Ada'"⟩] with
            join := some ⟨.inner, "b", "a.id", "b.owner"⟩ }) := by decide +kernel
  refine ⟨by decide, run_select_of_parse_error (eq_ok_of_toOption hwithout)
    (eq_error_of_error? (by decide +kernel)), ?_⟩
  exact run_select_of_parse (eq_ok_of_toOption hwith) (eq_ok_of_toOption (by decide +kernel))

end Session
end Tabular
