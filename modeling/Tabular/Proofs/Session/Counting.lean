/-
# Counting the rows that are shown

`SELECT *` and `SELECT COUNT(*)` with the same text behind `FROM` are on the same rows.  The second
one counts them.  The first one shows them whole, and shows no row that has no cell; the rows of a
join have the cells of the fields that are asked for by name, and `*` names none.

* `readSelect_append`: what stands between `SELECT` and `FROM` decides on the fields of a query, and
  what stands behind it on the rest;
* `isEmpty_rowOf_of_showsAll`, `isEmpty_rowOf_of_not_showsAll`: which rows of a join are without
  cells when no field is named;
* **`star_and_count`**: without a join, or with an outer join whose primary table has a row, all
  rows that are counted are shown.  Else none is: so `SELECT *` over an inner join shows nothing
  (`star_over_inner_join`).
-/
import Tabular.Proofs.Relation.Pairings
import Tabular.Proofs.Session.Joining
import Tabular.Proofs.Session.Removal

namespace Tabular

/-! ## 1. The same text behind `FROM` -/

namespace Sql

/-- The front of a query, up to `FROM`: it is read as fields, whatever follows. -/
structure Lists (front : List Token) (fields : List Field) : Prop where
  passed : ∀ k ∈ [Keyword.LIMIT, .ORDER, .GROUP, .WHERE], ∀ t ∈ front, t.isKeyword k = false
  level : front.foldl depthAfter 0 = 0
  reads : ∀ rest, ∃ head part, expectKeyword .select .SELECT (front ++ rest) = .ok head ∧
    eatKeyword .DISTINCT head = none ∧ splitFields head = .ok (part, rest) ∧
    readFields part = .ok fields

/-- What stands behind `FROM`, as a query without fields. -/
def readBehindFrom (ts : List Token) : Except QueryError Select := do
  let (ts, limitBody) := splitClause .LIMIT [] ts
  let limit ← readOptional readLimit limitBody
  let (ts, orderBody) := splitClause .ORDER [.BY] ts
  let orderBy ← readOptional readOrderBy orderBody
  let (ts, groupBody) := splitClause .GROUP [.BY] ts
  let groupBy ← readOptional readGroupBy groupBody
  let (ts, whereBody) := splitClause .WHERE [] ts
  let conditions ← readOptional readConditions whereBody
  let (table, ts) ← readName .from ts
  let (join, ts) ← readJoin ts
  expectEnd .select "FROM clause" ts
  return {
    fields := [], table, distinct := false, distinctFields := []
    conditions := conditions.getD []
    join, groupBy, aggregated := false, orderBy
    limit := limit.join }

/-- The query for some fields instead of its own. -/
def withFields (fields : List Field) (query : Select) : Select :=
  { query with
    fields := fields
    distinctFields := distinctFields false fields
    aggregated := fields.any (·.aggregate.isSome) && query.groupBy.isNone }

/-- **The fields of a query do not matter for the rest of it.** -/
theorem readSelect_append {front : List Token} {fields : List Field} (h : Lists front fields)
    (ts : List Token) :
    readSelect (front ++ ts) = (readBehindFrom ts).map (withFields fields) := by
  have hsplit : ∀ k ∈ [Keyword.LIMIT, .ORDER, .GROUP, .WHERE], ∀ ks rest,
      splitClause k ks (front ++ rest) =
        (front ++ (splitClause k ks rest).1, (splitClause k ks rest).2) :=
    fun k hk ks rest => splitClause_append_of_forall (h.passed k hk) h.level rest
  rcases hl : splitClause .LIMIT [] ts with ⟨ts₁, limitBody⟩
  rcases ho : splitClause .ORDER [.BY] ts₁ with ⟨ts₂, orderBody⟩
  rcases hg : splitClause .GROUP [.BY] ts₂ with ⟨ts₃, groupBody⟩
  rcases hw : splitClause .WHERE [] ts₃ with ⟨ts₄, whereBody⟩
  obtain ⟨head, part, hselect, hdistinct, hfrom, hfields⟩ := h.reads ts₄
  simp only [readSelect, readBehindFrom, hl, ho, hg, hw, hsplit .LIMIT (by decide),
    hsplit .ORDER (by decide), hsplit .GROUP (by decide), hsplit .WHERE (by decide), hselect,
    hdistinct, hfrom, hfields, bind, Except.bind]
  -- The steps behind `FROM` are the same in both, and fail in both.
  cases readOptional readLimit limitBody with
  | error e => rfl
  | ok limit =>
  cases readOptional readOrderBy orderBody with
  | error e => rfl
  | ok orderBy =>
  cases readOptional readGroupBy groupBody with
  | error e => rfl
  | ok groupBy =>
  cases readOptional readConditions whereBody with
  | error e => rfl
  | ok conditions =>
  cases readName .from ts₄ with
  | error e => rfl
  | ok named =>
  cases hjoin : readJoin named.2 with
  | error e => simp [hjoin, Except.map]
  | ok joined =>
  cases hend : expectEnd .select "FROM clause" joined.2 with
  | error e => simp [hjoin, hend, Except.map]
  | ok _ =>
  simp [hjoin, hend, Except.map, withFields, pure, Except.pure]

/-- All cells, as a field. -/
def starField : Field := ⟨"*", none⟩

/-- The number of rows, as a field. -/
def countField : Field := ⟨"count(*)", some ⟨.count, .star, false⟩⟩

/-- `SELECT *` and a space. -/
def starWords : List Lexeme := [.word (keyword .SELECT), .space, .sign .star, .space]

/-- `SELECT COUNT(*)` and a space. -/
def countWords : List Lexeme :=
  [.word (keyword .SELECT), .space, .word (.bare "COUNT" (by decide)), .sign .leftParen,
    .sign .star, .sign .rightParen, .space]

/-- The tokens of some words and of `FROM`. -/
def upToFrom (words : List Lexeme) : List Token := words.map Lexeme.token ++ [(keyword .FROM).token]

theorem lists_star : Lists (upToFrom starWords) [starField] where
  passed := by decide
  level := rfl
  reads := fun _ => ⟨_, _, rfl, rfl, rfl, rfl⟩

theorem lists_count : Lists (upToFrom countWords) [countField] where
  passed := by decide
  level := rfl
  reads := fun _ => ⟨_, _, rfl, rfl, rfl, rfl⟩

theorem readQuery_upToFrom {words : List Lexeme} {fields : List Field}
    (h : Lists (upToFrom words) fields)
    (hselect : ∀ ts, leadingKeyword? (upToFrom words ++ ts) = some .SELECT) (ts : List Token) :
    readQuery (upToFrom words ++ ts) =
      (asSelectError ((readBehindFrom ts).map (withFields fields))).map .select := by
  rw [readQuery, hselect, readSelect_append h]

/-- **Both statements, with the same text behind `FROM`**, are read as one query with other
fields. -/
theorem parse_count_of_star {tail : String} {q : Select}
    (h : parse ("SELECT * FROM " ++ tail) = .ok (.select q)) :
    ∃ source, q = withFields [starField] source ∧
      parse ("SELECT COUNT(*) FROM " ++ tail) = .ok (.select (withFields [countField] source)) := by
  obtain ⟨ts, htokens, hquery⟩ := exists_of_parse h
  have hstar : ("SELECT * FROM " ++ tail).toList =
      write (starWords ++ [.word (keyword .FROM), .space]) ++ tail.toList := by
    simp [starWords, write, Lexeme.chars, Spelling.bare, Spelling.chars, keyword, Keyword.spelling,
      Sign.char]
  have hcount : ("SELECT COUNT(*) FROM " ++ tail).toList =
      write (countWords ++ [.word (keyword .FROM), .space]) ++ tail.toList := by
    simp [countWords, write, Lexeme.chars, Spelling.bare, Spelling.chars, keyword, Keyword.spelling,
      Sign.char]
  obtain ⟨us, htail, rfl⟩ := tokens_of_tokenize rfl hstar htokens
  have htokens' := tokenize_append rfl hcount htail
  have happend : ∀ words : List Lexeme, words.map Lexeme.token ++
      (keyword .FROM).token :: behindSpace us = upToFrom words ++ behindSpace us := by
    simp [upToFrom]
  rw [happend, readQuery_upToFrom lists_star fun _ => rfl] at hquery
  cases hsource : readBehindFrom (behindSpace us) with
  | error e => simp [hsource, asSelectError, Except.map] at hquery
  | ok source =>
    rw [hsource] at hquery
    refine ⟨source, (Query.select.inj (Except.ok.inj hquery)).symm, ?_⟩
    rw [parse_of_tokenize htokens', happend, readQuery_upToFrom lists_count fun _ => rfl, hsource]
    rfl

end Sql

/-! ## 2. Rows without a named field -/

namespace Join

variable {join : Join} {primary : String} {primaryRows joinedRows : List Row} {x : Pairing}

/-- Has every row of the join a cell, though no field is named?  A row of an inner join has none,
and one of an outer join has the columns of the primary table. -/
def ShowsAll (join : Join) (primaryRows joinedRows : List Row) : Prop :=
  match join.kind with
  | .inner => join.partners primaryRows joinedRows = []
  | .left => True
  | .right => primaryRows = [] → joinedRows = []

theorem isEmpty_rowOf_inner (hkind : join.kind = .inner) :
    (join.rowOf primary [] primaryRows x).isEmpty = true := by
  simp only [rowOf, hkind]
  rfl

theorem isEmpty_rowOf_outer (hkind : join.kind ≠ .inner) :
    (join.rowOf primary [] primaryRows x).isEmpty = (shape primaryRows x).isEmpty := by
  rw [rowOf_of_ne_inner _ _ _ _ hkind, outerRow, Row.isEmpty_ofList]
  simp

/-- An outer join carries cells along, unless a right one is on an empty primary table. -/
theorem shape_ne_nil (hcells : ∀ p ∈ primaryRows, p.cells ≠ [])
    (hx : x ∈ join.pairings primaryRows joinedRows)
    (hne : join.kind = .right → primaryRows ≠ []) : shape primaryRows x ≠ [] := by
  cases x with
  | both p j => exact hcells p (mem_of_primary?_eq_some _ _ _ hx rfl)
  | primaryOnly p => exact hcells p (mem_of_primary?_eq_some _ _ _ hx rfl)
  | joinedOnly j =>
    cases primaryRows with
    | nil => exact absurd rfl (hne (kind_eq_right _ _ _ hx rfl))
    | cons p rest =>
      have hp := hcells p List.mem_cons_self
      simpa [shape, nullCells, Row.columns, Entries.names] using hp

theorem isEmpty_rowOf_of_showsAll (h : join.ShowsAll primaryRows joinedRows)
    (hcells : ∀ p ∈ primaryRows, p.cells ≠ []) (hx : x ∈ join.pairings primaryRows joinedRows) :
    (join.rowOf primary [] primaryRows x).isEmpty = false := by
  by_cases hkind : join.kind = .inner
  · rw [ShowsAll, hkind] at h
    simp [pairings_inner _ _ _ hkind, show join.partners primaryRows joinedRows = [] from h] at hx
  · rw [isEmpty_rowOf_outer hkind, List.isEmpty_eq_false_iff]
    refine shape_ne_nil hcells hx fun hright hnil => ?_
    -- Then there are no joined rows either, and nothing to pair.
    rw [ShowsAll, hright] at h
    simp [pairings, candidates, hright, show joinedRows = [] from h hnil] at hx

theorem isEmpty_rowOf_of_not_showsAll (h : ¬join.ShowsAll primaryRows joinedRows)
    (primary : String) :
    join.pairings primaryRows joinedRows ≠ [] ∧
      ∀ x ∈ join.pairings primaryRows joinedRows,
        (join.rowOf primary [] primaryRows x).isEmpty = true := by
  cases hkind : join.kind with
  | inner =>
    rw [ShowsAll, hkind] at h
    refine ⟨?_, fun x _ => isEmpty_rowOf_inner hkind⟩
    rw [pairings_inner _ _ _ hkind, Ne, List.map_eq_nil_iff]
    exact h
  | left =>
    rw [ShowsAll, hkind] at h
    exact absurd trivial h
  | right =>
    rw [ShowsAll, hkind] at h
    obtain ⟨rfl, hjoined⟩ := Classical.not_imp.mp h
    have hpairings : join.pairings [] joinedRows = joinedRows.map .joinedOnly := by
      have hcandidates : candidates .right [] joinedRows = joinedRows.map .joinedOnly := by
        rw [List.map_eq_flatMap]
        rfl
      rw [pairings, hkind, hcandidates, List.filter_eq_self]
      intro x hx
      obtain ⟨j, -, rfl⟩ := List.mem_map.mp hx
      rfl
    rw [hpairings]
    refine ⟨by simpa using hjoined, fun x hx => ?_⟩
    obtain ⟨j, -, rfl⟩ := List.mem_map.mp hx
    rw [isEmpty_rowOf_outer (by simp [hkind])]
    rfl

end Join

/-! ## 3. What is counted and what is shown -/

namespace Session

open Sql

variable {σ : Type} [Store σ] {store : σ} {table tail : String} {join : Option Join}
  {primaryRows joinedRows : List Row}

/-- The rows that a query without named fields is on. -/
def sourceRows (table : String) (join : Option Join) (primaryRows joinedRows : List Row) :
    List Row :=
  match join with
  | none => primaryRows
  | some join => (join.pairings primaryRows joinedRows).map (join.rowOf table [] primaryRows)

/-- Has each of these rows a cell? -/
def ShowsAll (join : Option Join) (primaryRows joinedRows : List Row) : Prop :=
  ∀ j ∈ join, j.ShowsAll primaryRows joinedRows

theorem source_eq_sourceRows {query : Select} (hcolumns : query.columns = [])
    (hprimary : Store.fetch store query.table = .ok primaryRows)
    (hjoined : ∀ j ∈ query.join, Store.fetch store j.table = .ok joinedRows) :
    query.source store = .ok (sourceRows query.table query.join primaryRows joinedRows) := by
  cases hjoin : query.join with
  | none =>
    rw [Select.source, hprimary, hjoin]
    rfl
  | some join =>
    rw [Select.source_of_join hjoin hprimary (hjoined join hjoin), hcolumns]
    rfl

/-- Rows are shown whole, or none has a cell and none is shown. -/
theorem filter_sourceRows (table : String) (join : Option Join) (joinedRows : List Row)
    (hcells : ∀ row ∈ primaryRows, row.cells ≠ []) :
    (ShowsAll join primaryRows joinedRows →
      (sourceRows table join primaryRows joinedRows).filter (!·.isEmpty) =
        sourceRows table join primaryRows joinedRows) ∧
    (¬ShowsAll join primaryRows joinedRows →
      sourceRows table join primaryRows joinedRows ≠ [] ∧
        (sourceRows table join primaryRows joinedRows).filter (!·.isEmpty) = []) := by
  cases join with
  | none =>
    refine ⟨fun _ => List.filter_eq_self.mpr fun row hrow => ?_,
      fun h => absurd (by simp [ShowsAll]) h⟩
    simpa [Row.isEmpty] using hcells row hrow
  | some join =>
    have hiff : ShowsAll (some join) primaryRows joinedRows ↔
        join.ShowsAll primaryRows joinedRows := by simp [ShowsAll]
    rw [hiff]
    constructor
    · intro h
      rw [List.filter_eq_self]
      intro row hrow
      obtain ⟨x, hx, rfl⟩ := List.mem_map.mp hrow
      rw [Join.isEmpty_rowOf_of_showsAll h hcells hx]
      rfl
    · intro h
      obtain ⟨hne, hempty⟩ := Join.isEmpty_rowOf_of_not_showsAll h table
      refine ⟨by simpa [sourceRows] using hne, List.filter_eq_nil_iff.mpr fun row hrow => ?_⟩
      obtain ⟨x, hx, rfl⟩ := List.mem_map.mp hrow
      simp [hempty x hx]

/-- `SELECT *` without clauses. -/
def starQuery (table : String) (join : Option Join) : Select :=
  { wholeRows table [] with join := join }

/-- `SELECT COUNT(*)` without clauses. -/
def countQuery (table : String) (join : Option Join) : Select :=
  { wholeRows table [] with fields := [countField], join := join, aggregated := true }

/-- The answer to it. -/
def countRow (n : Nat) : Row := Row.ofList [("count(*)", AggregateFunction.countValue n)]

theorem countQuery_of_withFields {source : Select}
    (h : starQuery table join = withFields [starField] source) :
    withFields [countField] source = countQuery table join := by
  cases source
  simp only [starQuery, wholeRows, plainSelect, withFields, Select.mk.injEq] at h
  obtain ⟨-, rfl, rfl, -, rfl, rfl, rfl, -, rfl, rfl⟩ := h
  rfl

theorem run_starQuery {rows : List Row}
    (hsource : (starQuery table join).source store = .ok rows) :
    (starQuery table join).run store = .ok (rows.filter (!·.isEmpty)) := by
  rw [Select.run_of_restrict_ok hsource (Relation.restrict_nil table rows),
    ← project_star_eq_filter table]
  rfl

theorem run_countQuery {rows : List Row}
    (hsource : (countQuery table join).source store = .ok rows) :
    (countQuery table join).run store = .ok [countRow rows.length] := by
  rw [Select.run_of_restrict_ok hsource (Relation.restrict_nil table rows)]
  rfl

/-- **What `SELECT *` shows of the rows that `SELECT COUNT(*)` counts**: all of them or none.  Which
of the two is decided by the join, and `star_over_inner_join` is the case where it is none. -/
theorem star_and_count (hcells : ∀ row ∈ primaryRows, row.cells ≠ [])
    (hparse : parse ("SELECT * FROM " ++ tail) = .ok (.select (starQuery table join)))
    (hprimary : Store.fetch store table = .ok primaryRows)
    (hjoined : ∀ j ∈ join, Store.fetch store j.table = .ok joinedRows) :
    ∃ rows shown,
      rows = sourceRows table join primaryRows joinedRows ∧
      run store ("SELECT * FROM " ++ tail) = .ok (.rows shown, store) ∧
      run store ("SELECT COUNT(*) FROM " ++ tail) = .ok (.rows [countRow rows.length], store) ∧
      (shown.length = rows.length ↔ ShowsAll join primaryRows joinedRows) ∧
      (ShowsAll join primaryRows joinedRows → shown = rows) ∧
      (¬ShowsAll join primaryRows joinedRows → shown = []) := by
  obtain ⟨source, hfields, hcount⟩ := parse_count_of_star hparse
  rw [countQuery_of_withFields hfields] at hcount
  have hstar : (starQuery table join).source store =
      .ok (sourceRows table join primaryRows joinedRows) :=
    source_eq_sourceRows rfl hprimary hjoined
  have hcounted : (countQuery table join).source store =
      .ok (sourceRows table join primaryRows joinedRows) :=
    source_eq_sourceRows rfl hprimary hjoined
  obtain ⟨hall, hnone⟩ := filter_sourceRows table join joinedRows hcells
  refine ⟨_, _, rfl, run_select_of_parse hparse (run_starQuery hstar),
    run_select_of_parse hcount (run_countQuery hcounted),
    ⟨fun hlength => ?_, fun h => congrArg List.length (hall h)⟩, hall, fun h => (hnone h).2⟩
  by_contra hshows
  obtain ⟨hne, hempty⟩ := hnone hshows
  rw [hempty, List.length_nil] at hlength
  exact hne (List.length_eq_zero_iff.mp hlength.symm)

/-- Two rows that have themselves as partners. -/
def keys : List Row := [Row.ofList [("k", .text "1")], Row.ofList [("k", .text "2")]]

def keyed : MemoryStore := ⟨[("a", keys), ("b", keys)]⟩

/-- A left join shows the rows that it counts. -/
theorem star_and_count_left_join :
    run keyed "SELECT * FROM a LEFT JOIN b ON a.k = b.k" =
      .ok (.rows [Row.ofList [("a.k", .text "1")], Row.ofList [("a.k", .text "2")]], keyed) ∧
    run keyed "SELECT COUNT(*) FROM a LEFT JOIN b ON a.k = b.k" =
      .ok (.rows [countRow 2], keyed) := by
  have hcells : ∀ row ∈ keys, row.cells ≠ [] := by decide
  have hquery : (parse ("SELECT * FROM " ++ "a LEFT JOIN b ON a.k = b.k")).toOption =
      some (.select (starQuery "a" (some ⟨.left, "b", "a.k", "b.k"⟩))) := by decide +kernel
  have hfetch : Store.fetch keyed "a" = .ok keys := rfl
  have hfetch' : ∀ j ∈ some (Join.mk .left "b" "a.k" "b.k"),
      Store.fetch keyed j.table = .ok keys := by
    rintro j ⟨rfl⟩
    rfl
  have hrows : sourceRows "a" (some ⟨.left, "b", "a.k", "b.k"⟩) keys keys =
      [Row.ofList [("a.k", .text "1")], Row.ofList [("a.k", .text "2")]] := by decide +kernel
  obtain ⟨rows, shown, hsource, hstar, hcount, -, hshown, -⟩ :=
    star_and_count hcells (eq_ok_of_toOption hquery) hfetch hfetch'
  have hall : ShowsAll (some ⟨.left, "b", "a.k", "b.k"⟩) keys keys := by
    rintro j ⟨rfl⟩
    trivial
  rw [hrows] at hsource
  have hlength : rows.length = 2 := congrArg List.length hsource
  rw [hshown hall, hsource] at hstar
  rw [hlength] at hcount
  exact ⟨hstar, hcount⟩

/-- **An inner join shows none of its rows**: two are counted, and `SELECT *` returns nothing. -/
theorem star_over_inner_join :
    run keyed "SELECT * FROM a JOIN b ON a.k = b.k" = .ok (.rows [], keyed) ∧
    run keyed "SELECT COUNT(*) FROM a JOIN b ON a.k = b.k" = .ok (.rows [countRow 2], keyed) := by
  have hstar : (parse "SELECT * FROM a JOIN b ON a.k = b.k").toOption =
      some (.select (starQuery "a" (some ⟨.inner, "b", "a.k", "b.k"⟩))) := by decide +kernel
  have hcount : (parse "SELECT COUNT(*) FROM a JOIN b ON a.k = b.k").toOption =
      some (.select (countQuery "a" (some ⟨.inner, "b", "a.k", "b.k"⟩))) := by decide +kernel
  have hshown : ((starQuery "a" (some ⟨.inner, "b", "a.k", "b.k"⟩)).run keyed).toOption =
      some [] := by decide +kernel
  have hcounted : ((countQuery "a" (some ⟨.inner, "b", "a.k", "b.k"⟩)).run keyed).toOption =
      some [countRow 2] := by decide +kernel
  exact ⟨run_select_of_parse (eq_ok_of_toOption hstar) (eq_ok_of_toOption hshown),
    run_select_of_parse (eq_ok_of_toOption hcount) (eq_ok_of_toOption hcounted)⟩

end Session
end Tabular
