/-
# The reader accepts its grammar

Every query for rows that the grammar offers is accepted, and is read as what it says
(`grammar_accepted`).

The reader works from the outside in, so no part of a query is read where it stands: four
searches split the clauses off, from the last one to the first, and the head is read from the
front.  What carries the proof is that no search finds anything inside another part: what stands
before a clause does not show its keyword (`splitClause_clauseTokens`), and the fields show
neither `DISTINCT` at their front nor `FROM` (`eatKeyword_fieldTokens`,
`splitFields_bodyTokens`).
-/
import Tabular.Proofs.Sql.Parts

namespace Tabular
namespace Sql

/-! ## 1. The head of a query -/

namespace SelectPhrase

theorem shows_optional {k : Keyword} {ks : List Keyword} (h : k ∈ ks) (w : Option (Written k)) :
    Shows ks (w.elim [] Written.tokens) := by
  cases w with
  | none => exact Shows.nil
  | some w => exact w.shows h

/-- The keywords that the head can show. -/
def headKeywords : List Keyword := [.SELECT, .DISTINCT, .FROM] ++ joinKeywords

theorem shows_headTokens (p : SelectPhrase) : Shows headKeywords p.headTokens := by
  have hjoin : Shows headKeywords (p.join.elim [] JoinPhrase.tokens) := by
    cases p.join with
    | none => exact Shows.nil
    | some j => exact j.shows.mono (List.subset_append_right _ _)
  exact (p.select.shows (by simp [headKeywords])).append
    ((shows_optional (by simp [headKeywords]) p.distinct).append
      (((shows_fieldTokens p.fields).mono (by simp [headKeywords])).append
        ((p.from.shows (by simp [headKeywords])).append ((Shows.blanks _).append
          (p.table.item.shows.append hjoin)))))

/-- A list of fields does not start with a keyword of queries for rows. -/
theorem eatKeyword_fieldTokens (l : Listed Nat (Spaced FieldPhrase)) {k : Keyword}
    (hk : k ∉ changeKeywords) (rest : List Token) :
    eatKeyword k (fieldTokens l ++ rest) = none := by
  obtain ⟨⟨gap, f⟩, tail⟩ := l
  obtain ⟨t, more, htokens, hblank, hkeyword⟩ : ∃ t more,
      f.tokens = t :: more ∧ t.isBlank = false ∧ t.isKeyword k = false := by
    cases f with
    | reference r =>
      obtain ⟨table, column⟩ := r
      cases table with
      | none => exact ⟨_, _, rfl, rfl, column.isKeyword_eq_false hk⟩
      | some t => exact ⟨_, _, rfl, rfl, t.isKeyword_eq_false hk⟩
    | star => exact ⟨_, _, rfl, rfl, rfl⟩
    | call c =>
      have hfunction := c.function.keyword?
      exact ⟨_, _, rfl, rfl, by simp [Token.isKeyword, hfunction]⟩
  simp only [fieldTokens, Listed.commaTokens, Listed.tokens, Spaced.tokens, htokens,
    List.append_assoc, List.cons_append]
  exact eatKeyword_eq_none hblank hkeyword gap _

/-- The tokens behind `SELECT` and `DISTINCT`. -/
def bodyTokens (p : SelectPhrase) (n : Nat) : List Token :=
  fieldTokens p.fields ++ (blanks p.from.gap ++ p.from.token :: (blanks p.table.gap ++
    p.table.item.token :: (p.join.elim [] JoinPhrase.tokens ++ blanks n)))

theorem expectKeyword_headTokens (p : SelectPhrase) (n : Nat) :
    expectKeyword .select .SELECT (p.headTokens ++ blanks n) =
      .ok (p.distinct.elim [] Written.tokens ++ p.bodyTokens n) := by
  have htokens : p.headTokens ++ blanks n = blanks p.select.gap ++ p.select.token ::
      (p.distinct.elim [] Written.tokens ++ p.bodyTokens n) := by
    simp [headTokens, bodyTokens, Written.tokens]
  rw [htokens, expectKeyword_cons _ p.select.isKeyword]

theorem eatKeyword_distinct (p : SelectPhrase) (n : Nat) :
    eatKeyword .DISTINCT (p.distinct.elim [] Written.tokens ++ p.bodyTokens n) =
      p.distinct.map fun _ => p.bodyTokens n := by
  cases p.distinct with
  | none => exact eatKeyword_fieldTokens p.fields (by decide) _
  | some w =>
    have htokens : w.tokens ++ p.bodyTokens n = blanks w.gap ++ w.token :: p.bodyTokens n := by
      simp [Written.tokens]
    rw [Option.elim_some, htokens, eatKeyword_cons w.isKeyword]
    rfl

/-- **The fields end at `FROM`.** -/
theorem splitFields_bodyTokens (p : SelectPhrase) (n : Nat) :
    splitFields (p.bodyTokens n) = .ok (fieldTokens p.fields ++ blanks p.from.gap,
      blanks p.table.gap ++ p.table.item.token :: (p.join.elim [] JoinPhrase.tokens ++ blanks n)) := by
  rw [splitFields, bodyTokens, ← List.append_assoc, splitAtKeywords_of_isKeyword
    ((shows_fieldTokens p.fields).append (Shows.blanks _)) (by decide) p.from.isKeyword rfl]

theorem readJoin_optional (p : SelectPhrase) (n : Nat) :
    readJoin (p.join.elim [] JoinPhrase.tokens ++ blanks n) =
      .ok (p.join.map JoinPhrase.spec, blanks n) := by
  cases p.join with
  | none => exact readJoin_blanks n
  | some j => exact readJoin_tokens j n

/-! ## 2. Clauses -/

theorem shows_clauseTokens {k : Keyword} {ks : List Keyword} {α : Type} {f : α → List Token}
    (hk : k ∈ ks) (h : ∀ a, Shows ks (f a)) (clause : Option (Written k × α)) :
    Shows ks (clauseTokens f clause) := by
  cases clause with
  | none => exact Shows.nil
  | some c => exact (c.1.shows hk).append (h c.2)

/-- **An optional clause is split off** from what does not show its keyword, and is read. -/
theorem splitClause_clauseTokens {k : Keyword} {ks js : List Keyword} {α β : Type}
    {f : α → List Token} {read : List Token → Except QueryError β} {value : α → β}
    (hread : ∀ a m, ∃ body, matchKeywords ks (f a ++ blanks m) = some body ∧
      read body = .ok (value a))
    {pre : List Token} (hpre : Shows js pre) (hk : k ∉ changeKeywords ++ js)
    (clause : Option (Written k × α)) (n : Nat) : ∃ m body,
      splitClause k ks (pre ++ clauseTokens f clause ++ blanks n) = (pre ++ blanks m, body) ∧
        readOptional read body = .ok (clause.map fun c => value c.2) := by
  cases clause with
  | none =>
    refine ⟨n, none, ?_, rfl⟩
    rw [clauseTokens, List.append_nil]
    exact splitClause_of_shows (hpre.append (Shows.blanks n)) hk
  | some c =>
    obtain ⟨w, a⟩ := c
    obtain ⟨body, hmatch, hbody⟩ := hread a n
    have htokens : pre ++ clauseTokens f (some (w, a)) ++ blanks n =
        (pre ++ blanks w.gap) ++ w.token :: (f a ++ blanks n) := by
      simp [clauseTokens, Written.tokens]
    refine ⟨w.gap, some body, ?_, ?_⟩
    · rw [htokens]
      exact splitClause_append (hpre.append (Shows.blanks _)) hk w.isKeyword hmatch
    · rw [readOptional, hbody]
      rfl

theorem shows_conditionTokens (l : Listed Connective ConditionPhrase) :
    Shows [.WHERE, .AND, .OR, .LIKE] (conditionTokens l) :=
  l.shows (fun c => c.shows.mono (by simp)) fun c => c.shows.mono (by simp)

theorem shows_groupTokens (g : Written .BY × Listed Nat (Spaced FieldPhrase)) :
    Shows [.GROUP, .BY, .DISTINCT] (groupTokens g) :=
  (g.1.shows (by simp)).append ((shows_fieldTokens g.2).mono (by simp))

theorem shows_orderTokens (o : Written .BY × Listed Nat SortPhrase) :
    Shows [.ORDER, .BY, .DISTINCT, .ASC, .DESC] (orderTokens o) :=
  (o.1.shows (by simp)).append (o.2.shows (fun _ => shows_symbol (by decide) (by decide))
    fun s => s.shows.mono (by simp))

/-- A list behind `BY`. -/
theorem matchKeywords_by (w : Written .BY) (ts us : List Token) :
    matchKeywords [.BY] (w.tokens ++ ts ++ us) = some (ts ++ us) := by
  have htokens : w.tokens ++ ts ++ us = blanks w.gap ++ w.token :: (ts ++ us) := by
    simp [Written.tokens]
  rw [htokens]
  exact eatKeyword_cons w.isKeyword _ _

theorem distinctFields_items (distinct : Bool) (l : List (Spaced FieldPhrase)) :
    distinctFields distinct (l.map fun f => f.item.field) =
      if distinct then l.map fun f => f.item.name
      else l.filterMap fun f => f.item.distinctColumn? := by
  have hcall : ∀ f : FieldPhrase, (f.aggregate.bind fun call =>
      if call.distinct then call.column? else none) = f.distinctColumn? := by
    intro f
    rcases f with _ | _ | ⟨_, _, _ | _ | _, _, _⟩ <;> rfl
  cases distinct with
  | true => simp [distinctFields, FieldPhrase.field]
  | false =>
    simp [distinctFields, FieldPhrase.field, List.filterMap_map, List.filterMap_filterMap, hcall]

/-- The clauses of a query are split off, and each is read as what it says. -/
theorem bodies_tokens (p : SelectPhrase) : ∃ n,
    (bodies p.tokens).head = p.headTokens ++ blanks n ∧
    readOptional readConditions (bodies p.tokens).conditions =
      .ok (p.conditions.map fun c => c.2.items.map ConditionPhrase.condition) ∧
    readOptional readGroupBy (bodies p.tokens).groupBy =
      .ok (p.groupBy.map fun g => g.2.2.items.map fun f => f.item.name) ∧
    readOptional readOrderBy (bodies p.tokens).orderBy =
      .ok (p.orderBy.map fun o => o.2.2.items.map SortPhrase.key) ∧
    readOptional readLimit (bodies p.tokens).limit =
      .ok (p.limit.map fun l => some l.2.item.numeral.value) := by
  have hwhere := p.shows_headTokens.concat
    (shows_clauseTokens (by simp) shows_conditionTokens p.conditions)
  have hgroup := hwhere.concat (shows_clauseTokens (by simp) shows_groupTokens p.groupBy)
  have horder := hgroup.concat (shows_clauseTokens (by simp) shows_orderTokens p.orderBy)
  have hlimits : ∀ (l : Spaced Limit) (n : Nat), ∃ body,
      matchKeywords [] (limitTokens l ++ blanks n) = some body ∧
        readLimit body = .ok (some l.item.numeral.value) :=
    fun l n => ⟨_, rfl, readLimit_tokens l n⟩
  have horders : ∀ (o : Written .BY × Listed Nat SortPhrase) (n : Nat), ∃ body,
      matchKeywords [.BY] (orderTokens o ++ blanks n) = some body ∧
        readOrderBy body = .ok (o.2.items.map SortPhrase.key) :=
    fun o n => ⟨_, matchKeywords_by o.1 _ _, readOrderBy_tokens o.2 n⟩
  have hgroups : ∀ (g : Written .BY × Listed Nat (Spaced FieldPhrase)) (n : Nat), ∃ body,
      matchKeywords [.BY] (groupTokens g ++ blanks n) = some body ∧
        readGroupBy body = .ok (g.2.items.map fun f => f.item.name) :=
    fun g n => ⟨_, matchKeywords_by g.1 _ _, readGroupBy_tokens g.2 n⟩
  have hconditions : ∀ (l : Listed Connective ConditionPhrase) (n : Nat), ∃ body,
      matchKeywords [] (conditionTokens l ++ blanks n) = some body ∧
        readConditions body = .ok (l.items.map ConditionPhrase.condition) :=
    fun l n => ⟨_, rfl, readConditions_tokens l n⟩
  -- The first search sees the whole query, each later one what the search before it has left.
  obtain ⟨n₁, limitBody, hlimit, hreadLimit⟩ :=
    splitClause_clauseTokens hlimits horder (by decide) p.limit p.gap
  obtain ⟨n₂, orderBody, horder, hreadOrder⟩ :=
    splitClause_clauseTokens horders hgroup (by decide) p.orderBy n₁
  obtain ⟨n₃, groupBody, hgroup, hreadGroup⟩ :=
    splitClause_clauseTokens hgroups hwhere (by decide) p.groupBy n₂
  obtain ⟨n₄, whereBody, hwhere, hreadWhere⟩ :=
    splitClause_clauseTokens hconditions p.shows_headTokens (by decide) p.conditions n₃
  have htokens : p.tokens = p.headTokens ++ clauseTokens conditionTokens p.conditions ++
      clauseTokens groupTokens p.groupBy ++ clauseTokens orderTokens p.orderBy ++
      clauseTokens limitTokens p.limit ++ blanks p.gap := by
    simp [SelectPhrase.tokens]
  have hbodies : bodies p.tokens =
      ⟨p.headTokens ++ blanks n₄, whereBody, groupBody, orderBody, limitBody⟩ := by
    rw [htokens]
    simp only [bodies, hlimit, horder, hgroup, hwhere]
  rw [hbodies]
  exact ⟨n₄, rfl, hreadWhere, hreadGroup, hreadOrder, hreadLimit⟩

/-- What a query asks for, in the terms of the reader. -/
theorem query_eq (p : SelectPhrase) : p.query =
    { fields := p.fields.items.map fun f => f.item.field
      table := p.table.item.name
      distinct := p.distinct.isSome
      distinctFields := distinctFields p.distinct.isSome (p.fields.items.map fun f => f.item.field)
      conditions := (p.conditions.map fun c => c.2.items.map ConditionPhrase.condition).getD []
      join := p.join.map JoinPhrase.spec
      groupBy := p.groupBy.map fun g => g.2.2.items.map fun f => f.item.name
      aggregated := (p.fields.items.map fun f => f.item.field).any (·.aggregate.isSome) &&
        (p.groupBy.map fun g => g.2.2.items.map fun f => f.item.name).isNone
      orderBy := p.orderBy.map fun o => o.2.2.items.map SortPhrase.key
      limit := (p.limit.map fun l => some l.2.item.numeral.value).join } := by
  rw [distinctFields_items, List.any_map, Option.isNone_map]
  unfold SelectPhrase.query
  congr 1
  · cases p.conditions <;> rfl
  · cases p.limit <;> rfl

end SelectPhrase

open SelectPhrase in
/-- Every query of the grammar is accepted and read as it is written. -/
theorem readSelect_phrase (p : SelectPhrase) : readSelect p.tokens = .ok p.query := by
  obtain ⟨n, hhead, hconditions, hgroupBy, horderBy, hlimit⟩ := p.bodies_tokens
  have hname : ∀ rest, readName .from (blanks p.table.gap ++ p.table.item.token :: rest) =
      .ok (p.table.item.name, rest) := fun rest => readName_cons ..
  rcases hl : splitClause .LIMIT [] p.tokens with ⟨ts₁, limitBody⟩
  rcases ho : splitClause .ORDER [.BY] ts₁ with ⟨ts₂, orderBody⟩
  rcases hg : splitClause .GROUP [.BY] ts₂ with ⟨ts₃, groupBody⟩
  rcases hw : splitClause .WHERE [] ts₃ with ⟨ts₄, whereBody⟩
  simp only [bodies, hl, ho, hg, hw] at hhead hconditions hgroupBy horderBy hlimit
  rw [query_eq, readSelect]
  simp only [hl, ho, hg, hw, hlimit, horderBy, hgroupBy, hconditions, hhead,
    expectKeyword_headTokens, eatKeyword_distinct, bind, Except.bind]
  rcases p.distinct with _ | w
  all_goals
    simp only [Option.map_none, Option.map_some, Option.elim_none, List.nil_append,
      splitFields_bodyTokens, readFields_tokens, hname, readJoin_optional, expectEnd_blanks]
    rfl

/-- A query of the grammar starts with its first keyword. -/
theorem leadingKeyword?_tokens (p : SelectPhrase) : leadingKeyword? p.tokens = some .SELECT := by
  have htokens : ∃ rest, p.tokens = blanks p.select.gap ++ p.select.token :: rest := by
    simp [SelectPhrase.tokens, SelectPhrase.headTokens, Written.tokens]
  obtain ⟨rest, hrest⟩ := htokens
  rw [leadingKeyword?, hrest, skipBlanks_blanks, skipBlanks_cons rfl]
  exact p.select.keyword?

/-- A query of the grammar is told by its first keyword. -/
theorem readQuery_phrase (p : SelectPhrase) : readQuery p.tokens = .ok (.select p.query) := by
  rw [readQuery, leadingKeyword?_tokens, readSelect_phrase]
  rfl

/-- A keyword inside a literal is part of the literal, blanks inside a call are part of the name of
the field, and a keyword of changes is a name. -/
example : readSelect (SelectPhrase.tokens
    { select := ⟨0, "select", by decide⟩
      distinct := none
      fields := ⟨⟨1, .call
        ⟨⟨"Max", .max, by decide⟩, 0, .column ⟨2, none, ⟨"A", by decide, by decide⟩⟩, 0⟩⟩, []⟩
      «from» := ⟨1, "From", by decide⟩
      table := ⟨1, ⟨"T", none, by decide⟩⟩
      join := none
      conditions := some (⟨1, "where", by decide⟩, ⟨⟨⟨1, ⟨none, ⟨"into", by decide, by decide⟩⟩⟩,
        ⟨1, .equal false⟩, ⟨1, .string "x limit 0"⟩⟩, []⟩)
      groupBy := none
      orderBy := none
      limit := none
      gap := 0 }) =
    .ok
      { fields := [⟨"max( a)", some ⟨.max, .column "a", false⟩⟩]
        table := "t"
        distinct := false
        distinctFields := []
        conditions := [⟨"into", .equal, "'x limit 0'"⟩]
        join := none
        groupBy := none
        aggregated := true
        orderBy := none
        limit := none } := by
  decide +kernel

end Sql
end Tabular
