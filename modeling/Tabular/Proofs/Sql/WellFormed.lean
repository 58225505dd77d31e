/-
# What accepted statements have

Whoever runs a statement takes for granted what no type says: that columns and values can be paired,
that there is a first sort key, that a query is reduced to one row just if it has calls and no
groups.  None of this is checked when it runs.  It is so because a statement is accepted only if
each of its parts can be read, and no part is read from nothing.

* `entries_of_mapM`: what is parted by separators has a first part at least, whatever the tokens
  are, so that a list that is read is not empty and holds what each part must have;
* `exists_column_of_findAggregate`: a call that goes by different values has a column, so that none
  of these calls gets lost among the distinct fields (`map_column_distinctFields`);
* `isSome_distinct_eq`: the first keywords of the whole statement are those of its head;
* **`wellFormed_of_read`**: what accepted queries, new rows and removals have.
-/
import Tabular.Proofs.Sql.Calls
import Tabular.Proofs.Sql.Names

namespace Tabular

/-- A condition has a field and a literal; only a pattern may be empty, as its quotes are gone. -/
structure Condition.WellFormed (c : Condition) : Prop where
  field_ne : c.field ≠ ""
  value_ne : c.comparison ≠ .like → c.value ≠ ""

/-- The calls of a query, in the order of its fields. -/
def Select.calls (q : Select) : List AggregateCall := q.fields.filterMap Field.aggregate

/-- A query for rows has fields, and what is said of its fields is so.  Groups and sort keys are
there or not, but never without any names. -/
structure Select.WellFormed (q : Select) : Prop where
  fields_ne_nil : q.fields ≠ []
  name_ne : ∀ f ∈ q.fields, f.name ≠ ""
  aggregated_iff : q.aggregated = true ↔
    (∃ f ∈ q.fields, f.aggregate.isSome = true) ∧ q.groupBy = none
  distinctFields_of_distinct : q.distinct = true → q.distinctFields = q.fields.map Field.name
  distinctFields_of_calls : q.distinct = false →
    q.distinctFields.map AggregateArgument.column =
      (q.calls.filter (·.distinct)).map AggregateCall.argument
  groupBy_ne : ∀ names ∈ q.groupBy, names ≠ [] ∧ ∀ name ∈ names, name ≠ ""
  orderBy_ne : ∀ keys ∈ q.orderBy, keys ≠ [] ∧ ∀ key ∈ keys, key.field ≠ ""
  conditions_wellFormed : ∀ c ∈ q.conditions, c.WellFormed

/-- A new row has columns, and a value for each of them. -/
structure Insert.WellFormed (i : Insert) : Prop where
  length_eq : i.columns.length = i.values.length
  columns_ne_nil : i.columns ≠ []
  column_ne : ∀ c ∈ i.columns, c ≠ ""
  value_ne : ∀ v ∈ i.values, v ≠ ""

/-- The conditions of a removal are those of a query. -/
structure Delete.WellFormed (d : Delete) : Prop where
  conditions_wellFormed : ∀ c ∈ d.conditions, c.WellFormed

namespace Sql

variable {ts : List Token}

/-! ## 1. Lists -/

/-- **A list that is read** has an entry, and every entry is as its part makes it. -/
theorem entries_of_mapM {α : Type} {isSeparator : Token → Bool} {depth : Nat}
    {k : List Token → Except QueryError α} {P : α → Prop} {entries : List α}
    (hk : ∀ part entry, k part = .ok entry → P entry)
    (h : (splitTopLevel isSeparator depth ts).mapM k = .ok entries) :
    entries ≠ [] ∧ ∀ entry ∈ entries, P entry := by
  refine ⟨ne_nil_of_mapM h (splitTopLevel_ne_nil isSeparator depth ts), fun entry hentry => ?_⟩
  obtain ⟨part, -, hpart⟩ := exists_of_mem_mapM h hentry
  exact hk part entry hpart

theorem entries_of_readList {clause : Clause} {entry : String} {texts : List String}
    (h : readList clause entry ts = .ok texts) : texts ≠ [] ∧ ∀ text ∈ texts, text ≠ "" := by
  refine entries_of_mapM (fun part text hpart => ?_) h
  split at hpart
  · simp at hpart
  · rename_i hne
    rwa [← Except.ok.inj hpart]

/-- A text that is not empty is not empty in lower case either. -/
theorem map_lower_ne {texts : List String} (h : texts ≠ [] ∧ ∀ text ∈ texts, text ≠ "") :
    texts.map Text.lower ≠ [] ∧ ∀ name ∈ texts.map Text.lower, name ≠ "" := by
  refine ⟨by simpa using h.1, fun name hname => ?_⟩
  obtain ⟨text, htext, rfl⟩ := List.mem_map.mp hname
  exact mt Text.lower_eq_empty_iff.mp (h.2 text htext)

/-- What is said of a clause that is there holds of an optional one. -/
theorem of_readOptional {α : Type} {read : List Token → Except QueryError α} {P : α → Prop}
    {body : Option (List Token)} {result : Option α} (hread : ∀ ts a, read ts = .ok a → P a)
    (h : readOptional read body = .ok result) :
    result.isSome = body.isSome ∧ ∀ a ∈ result, P a := by
  cases body with
  | none =>
    obtain rfl := Except.ok.inj h
    simp
  | some ts =>
    obtain ⟨a, ha, rfl⟩ := exists_of_map_eq_ok h
    exact ⟨rfl, fun b hb => Option.mem_some_iff.mp hb ▸ hread ts a ha⟩

/-! ## 2. Conditions and sort keys -/

theorem of_makeCondition {comparison : Comparison} {value : String → String}
    {left right : List Token} {c : Condition}
    (h : makeCondition comparison value left right = .ok c) :
    c.comparison = comparison ∧ c.field ≠ "" ∧
      ∃ literal, literal ≠ "" ∧ c.value = value literal := by
  unfold makeCondition at h
  dsimp only at h
  split at h
  · simp at h
  · rename_i hne
    rw [not_or] at hne
    obtain rfl := Except.ok.inj h
    exact ⟨rfl, hne.1, _, hne.2, rfl⟩

theorem wellFormed_of_readCondition {c : Condition} (h : readCondition ts = .ok c) :
    c.WellFormed := by
  unfold readCondition at h
  split at h
  · obtain ⟨hlike, hfield, -⟩ := of_makeCondition h
    exact ⟨hfield, fun hnot => absurd hlike hnot⟩
  · split at h
    · simp at h
    · split at h
      · simp at h
      · obtain ⟨-, hfield, literal, hliteral, hvalue⟩ := of_makeCondition h
        exact ⟨hfield, fun _ => hvalue ▸ hliteral⟩

theorem wellFormed_of_readConditions {conditions : List Condition}
    (h : readConditions ts = .ok conditions) : ∀ c ∈ conditions, c.WellFormed :=
  (entries_of_mapM (fun _ _ => wellFormed_of_readCondition) h).2

/-- The conditions of a statement are those of its `WHERE`, if there is one. -/
theorem wellFormed_of_mem_getD {body : Option (List Token)} {conditions : Option (List Condition)}
    (h : readOptional readConditions body = .ok conditions) :
    ∀ c ∈ conditions.getD [], c.WellFormed := by
  obtain ⟨-, hall⟩ := of_readOptional (fun _ _ => wellFormed_of_readConditions) h
  intro c hc
  cases conditions with
  | none => exact absurd hc List.not_mem_nil
  | some read => exact hall read rfl c hc

theorem field_ne_of_readSortKey {key : SortKey} (h : readSortKey ts = .ok key) :
    key.field ≠ "" := by
  unfold readSortKey at h
  dsimp only at h
  split at h
  · simp at h
  · rename_i hne
    rwa [← Except.ok.inj h]

theorem entries_of_readOrderBy {keys : List SortKey} (h : readOrderBy ts = .ok keys) :
    keys ≠ [] ∧ ∀ key ∈ keys, key.field ≠ "" :=
  entries_of_mapM (fun _ _ => field_ne_of_readSortKey) h

theorem entries_of_readGroupBy {names : List String} (h : readGroupBy ts = .ok names) :
    names ≠ [] ∧ ∀ name ∈ names, name ≠ "" := by
  obtain ⟨texts, htexts, rfl⟩ := exists_of_map_eq_ok h
  exact map_lower_ne (entries_of_readList htexts)

/-! ## 3. Fields and their calls -/

/-- A call that goes by different values has a column. -/
theorem exists_column_of_aggregateCall? {function : AggregateFunction} {call : AggregateCall}
    (h : aggregateCall? function ts = some call) (hdistinct : call.distinct = true) :
    ∃ reference, call.argument = .column reference := by
  have hplain : ∀ us, (argument? false us).map (fun a => ⟨function, a, false⟩) ≠ some call := by
    intro us hus
    obtain ⟨argument, -, rfl⟩ := Option.map_eq_some_iff.mp hus
    exact absurd hdistinct Bool.false_ne_true
  unfold aggregateCall? at h
  split at h
  · exact absurd h (hplain _)
  · split at h
    · obtain ⟨argument, hargument, rfl⟩ := Option.map_eq_some_iff.mp h
      rcases argument?_eq_some hargument with ⟨-, hfalse, -⟩ | ⟨-, hcolumn⟩
      · exact absurd hfalse.symm Bool.false_ne_true
      · exact ⟨_, hcolumn⟩
    · exact absurd h (hplain _)

theorem exists_column_of_findAggregate {call : AggregateCall} (h : findAggregate ts = some call)
    (hdistinct : call.distinct = true) : ∃ reference, call.argument = .column reference := by
  induction ts with
  | nil => simp [findAggregate] at h
  | cons t ts ih =>
    rw [findAggregate_cons, Option.or_eq_some_iff] at h
    rcases h with hhere | ⟨-, hrest⟩
    · unfold callHere? at hhere
      split at hhere
      · split at hhere
        · obtain ⟨function, -, hcall⟩ := Option.bind_eq_some_iff.mp hhere
          exact exists_column_of_aggregateCall? hcall hdistinct
        · simp at hhere
      · simp at hhere
    · exact ih hrest

/-- A field has a name, and its call has a column if it goes by different values. -/
theorem of_readField {f : Field} (h : readField ts = .ok f) :
    f.name ≠ "" ∧ ∀ call ∈ f.aggregate, call.distinct = true →
      ∃ reference, call.argument = .column reference := by
  unfold readField at h
  dsimp only at h
  split at h
  · simp at h
  · rename_i hne
    obtain rfl := Except.ok.inj h
    exact ⟨hne, fun call hcall => exists_column_of_findAggregate hcall⟩

/-- **No call gets lost among the distinct fields.** -/
theorem map_column_distinctFields {fields : List Field}
    (h : ∀ f ∈ fields, ∀ call ∈ f.aggregate, call.distinct = true →
      ∃ reference, call.argument = .column reference) :
    (distinctFields false fields).map AggregateArgument.column =
      ((fields.filterMap Field.aggregate).filter (·.distinct)).map AggregateCall.argument := by
  have hcalls : ∀ call ∈ fields.filterMap Field.aggregate, call.distinct = true →
      ∃ reference, call.argument = .column reference := by
    intro call hcall
    obtain ⟨f, hf, haggregate⟩ := List.mem_filterMap.mp hcall
    exact h f hf call haggregate
  rw [distinctFields, if_neg Bool.false_ne_true]
  generalize fields.filterMap Field.aggregate = calls at hcalls
  induction calls with
  | nil => rfl
  | cons call calls ih =>
    have hrest := ih fun c hc => hcalls c (List.mem_cons_of_mem _ hc)
    cases hdistinct : call.distinct with
    | false => simpa [hdistinct] using hrest
    | true =>
      obtain ⟨reference, hcolumn⟩ := hcalls call List.mem_cons_self hdistinct
      simpa [hdistinct, AggregateCall.column?, hcolumn] using hrest

/-! ## 4. The first keywords of a query -/

/-- A keyword in front is found, whatever more there is behind. -/
theorem eatKeyword_append (k : Keyword) (h : ∃ t ∈ ts, t.isBlank = false) (more : List Token) :
    eatKeyword k (ts ++ more) = (eatKeyword k ts).map (· ++ more) := by
  have hne : skipBlanks ts ≠ [] := by
    obtain ⟨t, ht, hblank⟩ := h
    intro hnil
    exact absurd (List.dropWhile_eq_nil_iff.mp hnil t ht) (by simp [hblank])
  have hskip : skipBlanks (ts ++ more) = skipBlanks ts ++ more := by
    rw [skipBlanks, List.dropWhile_append, if_neg (by simpa [skipBlanks] using hne)]
    rfl
  obtain ⟨t, rest, hts⟩ := List.exists_cons_of_ne_nil hne
  rw [eatKeyword, eatKeyword, matchKeywords, matchKeywords, hskip, hts, List.cons_append]
  dsimp only
  split <;> rfl

/-- **A query is for distinct rows** just if `DISTINCT` is its second word: both keywords stand in
its head, as `FROM` does. -/
theorem isSome_distinct_eq {head : List Token} {parts : List Token × List Token}
    (hselect : expectKeyword .select .SELECT (bodies ts).head = .ok head)
    (hparts : splitFields ((eatKeyword .DISTINCT head).getD head) = .ok parts) :
    (eatKeyword .DISTINCT head).isSome = (matchKeywords [.SELECT, .DISTINCT] ts).isSome := by
  obtain ⟨more, hmore⟩ := head_isPrefix ts
  have heat := eatKeyword_of_expectKeyword hselect
  obtain ⟨u, rest, hfields, hu, -⟩ :=
    exists_append_of_splitAtKeywords (by decide) (splitAtKeywords_of_splitFields hparts)
  have hmem : u ∈ head :=
    (suffix_getD_eatKeyword .DISTINCT head).subset (hfields ▸ by simp)
  have hblank : ∃ t ∈ head, t.isBlank = false := ⟨u, hmem, not_isBlank_of_isKeyword hu⟩
  have hwhole : ∃ t ∈ (bodies ts).head, t.isBlank = false :=
    ⟨u, (suffix_of_eatKeyword heat).subset hmem, not_isBlank_of_isKeyword hu⟩
  have htwo : matchKeywords [.SELECT, .DISTINCT] ts =
      (eatKeyword .SELECT ts).bind (eatKeyword .DISTINCT) := by
    rw [matchKeywords, eatKeyword, matchKeywords]
    split
    · rfl
    · split <;> rfl
  rw [htwo, ← hmore, eatKeyword_append .SELECT hwhole, heat, Option.map_some, Option.bind_some,
    eatKeyword_append .DISTINCT hblank, Option.isSome_map]

/-! ## 5. Statements -/

theorem wellFormed_of_readSelect {q : Select} (h : readSelect ts = .ok q) : q.WellFormed := by
  obtain ⟨limit, conditions, head, parts, afterTable, afterJoin, hq⟩ := exists_isReadAs h
  obtain ⟨hne, hfields⟩ := entries_of_mapM (fun _ _ => of_readField) hq.fields_eq
  exact {
    fields_ne_nil := hne
    name_ne := fun f hf => (hfields f hf).1
    aggregated_iff := by
      rw [hq.aggregated_eq, Bool.and_eq_true, List.any_eq_true, Option.isNone_iff_eq_none]
    distinctFields_of_distinct := by
      intro hdistinct
      rw [hq.distinctFields_eq, hdistinct]
      rfl
    distinctFields_of_calls := by
      intro hdistinct
      rw [hq.distinctFields_eq, hdistinct]
      exact map_column_distinctFields fun f hf => (hfields f hf).2
    groupBy_ne := (of_readOptional (fun _ _ => entries_of_readGroupBy) hq.groupBy_eq).2
    orderBy_ne := (of_readOptional (fun _ _ => entries_of_readOrderBy) hq.orderBy_eq).2
    conditions_wellFormed := hq.conditions_eq ▸ wellFormed_of_mem_getD hq.where_eq }

theorem wellFormed_of_readInsert {i : Insert} (h : readInsert ts = .ok i) : i.WellFormed := by
  obtain ⟨columnTokens, valueTokens, columns, -, hcolumns, hvalues, heq, hlen⟩ :=
    exists_of_readInsert h
  obtain ⟨hne, hnames⟩ := map_lower_ne (entries_of_readList hcolumns)
  exact ⟨hlen, heq ▸ hne, heq ▸ hnames, (entries_of_readList hvalues).2⟩

theorem wellFormed_of_readDelete {d : Delete} (h : readDelete ts = .ok d) : d.WellFormed := by
  obtain ⟨conditions, -, hwhere, hconditions⟩ := exists_of_readDelete h
  exact ⟨hconditions ▸ wellFormed_of_mem_getD hwhere⟩

/-- **What accepted statements have**, whatever their tokens are. -/
theorem wellFormed_of_read (ts : List Token) :
    (∀ q, readSelect ts = .ok q → q.WellFormed ∧
      q.distinct = (matchKeywords [.SELECT, .DISTINCT] ts).isSome ∧
      q.groupBy.isSome = (bodies ts).groupBy.isSome ∧
      q.orderBy.isSome = (bodies ts).orderBy.isSome) ∧
    (∀ i, readInsert ts = .ok i → i.WellFormed) ∧
    ∀ d, readDelete ts = .ok d → d.WellFormed := by
  refine ⟨fun q h => ?_, fun i h => wellFormed_of_readInsert h,
    fun d h => wellFormed_of_readDelete h⟩
  obtain ⟨limit, conditions, head, parts, afterTable, afterJoin, hq⟩ := exists_isReadAs h
  exact ⟨wellFormed_of_readSelect h,
    hq.distinct_eq.trans (isSome_distinct_eq hq.select_eq hq.parts_eq),
    (of_readOptional (fun _ _ => entries_of_readGroupBy) hq.groupBy_eq).1,
    (of_readOptional (fun _ _ => entries_of_readOrderBy) hq.orderBy_eq).1⟩

/-- The tokens of `SELECT COUNT(DISTINCT a), b FROM t WHERE c = 1 ORDER BY b`. -/
def countedTokens : List Token :=
  spaced ([.word "SELECT" none, .word "COUNT" none, .symbol .leftParen, .word "DISTINCT" none,
    .word "a" none, .symbol .rightParen, .symbol .comma, .word "b" none, .word "FROM" none,
    .word "t" none] ++ whereTokens ++ orderTokens)

/-- Fields with a call and fields without one can stand side by side. -/
theorem wellFormed_of_read_counted : ∃ q, readSelect countedTokens = .ok q ∧ q.WellFormed ∧
    q.aggregated = true ∧ q.distinct = false ∧ q.distinctFields = ["a"] := by
  have h : readSelect countedTokens = .ok
      { fields := [⟨"count ( distinct a )", some ⟨.count, .column "a", true⟩⟩, ⟨"b", none⟩],
        table := "t", distinct := false, distinctFields := ["a"],
        conditions := [⟨"c", .equal, "1"⟩], join := none, groupBy := none, aggregated := true,
        orderBy := some [⟨"b", .ascending⟩], limit := none } := by
    rfl
  obtain ⟨hselect, -, -⟩ := wellFormed_of_read countedTokens
  exact ⟨_, h, (hselect _ h).1, rfl, rfl, rfl⟩

end Sql
end Tabular
