/-
# What a literal cannot change

A literal is one token, and no reader looks into it.  So two statements that differ in the texts
of string literals only are read alike (`literals_keep_shape`): both are rejected with the same
kind of error, or both are accepted, and what is read has the same kind, tables, calls, join,
comparisons, directions, limit, and as many fields, conditions, keys and values.  What differs is
texts that are rendered from the literals.

The relation of similar lists is carried through the readers of the clauses one by one, and from
these to the readers of whole statements (`agree_readSelect`, `agree_readInsert`,
`agree_readDelete`).
-/
import Tabular.Proofs.Sql.Parts
import Tabular.Proofs.Sql.Similar

namespace Tabular
namespace Sql

section

variable {ts ts' : List Token}

/-! ## 1. Clauses -/

theorem rel_eatKeyword (k : Keyword) (h : Similar ts ts') :
    Option.Rel Similar (eatKeyword k ts) (eatKeyword k ts') := h.matchKeywords [k]

/-- Fields with texts that are made alike, and with the same call. -/
structure SameField (f f' : Field) : Prop where
  name : Twins Text.lower f.name f'.name
  aggregate : f.aggregate = f'.aggregate

/-- Sort keys with texts that are made alike, and with the same direction. -/
structure SameSortKey (k k' : SortKey) : Prop where
  field : Twins Text.lower k.field k'.field
  direction : k.direction = k'.direction

/-- Conditions with texts that are made alike, and with the same comparison. -/
structure SameCondition (c c' : Condition) : Prop where
  field : Twins Text.lower c.field c'.field
  comparison : c.comparison = c'.comparison
  value : Twins (if c.comparison = .like then bareLiteral else id) c.value c'.value

theorem argument?_of_string {distinct : Bool} {s : String} (h : .string s ∈ ts) :
    argument? distinct ts = none := by
  have hstar : ts ≠ [.symbol .star] := by
    rintro rfl
    simp at h
  have hreference : isReference ts = false := by
    unfold isReference
    split
    · simp at h
    · simp at h
    · rfl
  simp [argument?, hstar, hreference]

theorem argument?_eq (distinct : Bool) (h : Similar ts ts') :
    argument? distinct ts = argument? distinct ts' := by
  rcases h.eq_or_string with rfl | ⟨⟨s, hs⟩, ⟨s', hs'⟩⟩
  · rfl
  · rw [argument?_of_string hs, argument?_of_string hs']

theorem aggregateCall?_eq (function : AggregateFunction) (h : Similar ts ts') :
    aggregateCall? function ts = aggregateCall? function ts' := by
  cases h with
  | nil => rfl
  | @cons t t' rest rest' ht hrest =>
    rw [aggregateCall?, aggregateCall?, ht.isKeyword_eq, argument?_eq true hrest,
      argument?_eq false (.cons ht hrest)]

theorem callHere?_eq (h : Similar ts ts') : callHere? ts = callHere? ts' := by
  cases h with
  | nil => rfl
  | @cons t t' rest rest' ht hrest =>
    have hname : functionName? t = functionName? t' := by cases ht <;> rfl
    cases hrest with
    | nil => rfl
    | @cons u u' args args' hu hargs =>
      cases hu with
      | string s s' => rfl
      | same =>
        cases u with
        | symbol s =>
          cases s with
          | leftParen =>
            have hclosed : Token.symbol .rightParen ∈ args ↔ Token.symbol .rightParen ∈ args' :=
              Similar.mem_iff hargs (by simp)
            have hcall : ∀ function, aggregateCall? function
                (args.takeWhile fun u => decide (u ≠ Token.symbol .rightParen)) =
                  aggregateCall? function
                    (args'.takeWhile fun u => decide (u ≠ Token.symbol .rightParen)) :=
              fun function => aggregateCall?_eq function (Similar.takeWhile_ne hargs (by simp))
            simp only [callHere?, hname, hclosed, hcall]
          | _ => rfl
        | _ => rfl

/-- **No literal is taken for a call**, and none hides one. -/
theorem findAggregate_eq (h : Similar ts ts') : findAggregate ts = findAggregate ts' := by
  induction h with
  | nil => rfl
  | cons ht hrest ih =>
    rw [findAggregate_cons, findAggregate_cons, callHere?_eq (.cons ht hrest), ih]

theorem agree_readField (h : Similar ts ts') : Agree SameField (readField ts) (readField ts') := by
  have hempty : Text.lower (render ts) = "" ↔ Text.lower (render ts') = "" := by
    rw [Text.lower_eq_empty_iff, Text.lower_eq_empty_iff, h.render_eq_empty_iff]
  simp only [readField, hempty]
  split
  · exact .fail _
  · exact .ok ⟨⟨ts, ts', h, rfl, rfl⟩, findAggregate_eq h.significant⟩

theorem agree_readFields (h : Similar ts ts') :
    Agree (List.Forall₂ SameField) (readFields ts) (readFields ts') :=
  Agree.mapM (h.splitTopLevel isComma_eq 0) fun _ _ => agree_readField

theorem splitDirection_similar (h : Similar ts ts') :
    Similar (splitDirection ts).1 (splitDirection ts').1 ∧
      (splitDirection ts).2 = (splitDirection ts').2 := by
  have hlast : Option.Rel Token.Similar ts.getLast? ts'.getLast? := by
    have hreverse := h.reverse
    rw [List.getLast?_eq_head?_reverse, List.getLast?_eq_head?_reverse]
    generalize ts.reverse = us at hreverse ⊢
    generalize ts'.reverse = us' at hreverse ⊢
    cases hreverse with
    | nil => exact .none
    | cons ht _ => exact .some ht
  have hfront : Similar ts.dropLast ts'.dropLast := by
    rw [List.dropLast_eq_take, List.dropLast_eq_take, List.Forall₂.length_eq h]
    exact List.forall₂_take _ h
  rw [splitDirection, splitDirection]
  generalize ts.getLast? = o at hlast
  generalize ts'.getLast? = o' at hlast
  cases hlast with
  | none => exact ⟨h, rfl⟩
  | some ht =>
    simp only [ht.isKeyword_eq]
    split
    · exact ⟨hfront, rfl⟩
    · split
      · exact ⟨hfront, rfl⟩
      · exact ⟨h, rfl⟩

theorem agree_readSortKey (h : Similar ts ts') :
    Agree SameSortKey (readSortKey ts) (readSortKey ts') := by
  obtain ⟨hfield, hdirection⟩ := splitDirection_similar h.trimTokens
  have hempty : Text.lower (render (splitDirection (trimTokens ts)).1) = "" ↔
      Text.lower (render (splitDirection (trimTokens ts')).1) = "" := by
    rw [Text.lower_eq_empty_iff, Text.lower_eq_empty_iff, hfield.render_eq_empty_iff]
  simp only [readSortKey, hempty]
  split
  · exact .fail _
  · exact .ok ⟨⟨_, _, hfield, rfl, rfl⟩, hdirection⟩

theorem agree_readOrderBy (h : Similar ts ts') :
    Agree (List.Forall₂ SameSortKey) (readOrderBy ts) (readOrderBy ts') :=
  Agree.mapM (h.splitTopLevel isComma_eq 0) fun _ _ => agree_readSortKey

theorem agree_readGroupBy (h : Similar ts ts') :
    Agree (List.Forall₂ (Twins Text.lower)) (readGroupBy ts) (readGroupBy ts') := by
  refine (agree_readList .groupBy "GROUP BY field" h).map ?_
  intro names names' hnames
  refine List.rel_map ?_ hnames
  rintro name name' ⟨us, us', hus, rfl, rfl⟩
  exact ⟨us, us', hus, rfl, rfl⟩

theorem readLimit_of_string {s : String} (h : .string s ∈ significant ts) :
    readLimit ts = .error (.malformed .limit .badLimit) := by
  unfold readLimit
  split
  · simp_all
  · simp_all
  · rfl

theorem agree_readLimit (h : Similar ts ts') : Agree Eq (readLimit ts) (readLimit ts') := by
  rcases h.significant.eq_or_string with heq | ⟨⟨s, hs⟩, ⟨s', hs'⟩⟩
  · refine Agree.of_eq ?_
    rw [readLimit, readLimit, heq]
  · rw [readLimit_of_string hs, readLimit_of_string hs']
    exact .fail _

theorem agree_makeCondition {comparison : Comparison} {value : String → String}
    (hvalue : value = if comparison = .like then bareLiteral else id)
    {left left' right right' : List Token} (hleft : Similar left left')
    (hright : Similar right right') : Agree SameCondition
      (makeCondition comparison value left right) (makeCondition comparison value left' right') := by
  have hempty : (Text.lower (render left) = "" ∨ render right = "") ↔
      (Text.lower (render left') = "" ∨ render right' = "") := by
    rw [Text.lower_eq_empty_iff, Text.lower_eq_empty_iff, hleft.render_eq_empty_iff,
      hright.render_eq_empty_iff]
  simp only [makeCondition, hempty]
  split
  · exact .fail _
  · exact .ok ⟨⟨left, left', hleft, rfl, rfl⟩, rfl, right, right', hright, by simp [hvalue],
      by simp [hvalue]⟩

/-- **A literal is no operator**: both conditions are parted at the same place. -/
theorem agree_readCondition (h : Similar ts ts') :
    Agree SameCondition (readCondition ts) (readCondition ts') := by
  have hlike := h.splitFirst (p := Token.isKeyword .LIKE) fun _ _ ht => ht.isKeyword_eq .LIKE
  have hoperator := h.splitFirst (p := fun t => (comparison? t).isSome || isUnsupported t)
    fun t t' ht => by cases ht <;> rfl
  rw [readCondition, readCondition]
  generalize splitFirst (Token.isKeyword .LIKE) ts = o at hlike
  generalize splitFirst (Token.isKeyword .LIKE) ts' = o' at hlike
  cases hlike with
  | some hparts => exact agree_makeCondition rfl hparts.1 hparts.2.2
  | none =>
    generalize splitFirst (fun t => (comparison? t).isSome || isUnsupported t) ts = o at hoperator
    generalize splitFirst (fun t => (comparison? t).isSome || isUnsupported t) ts' = o' at hoperator
    cases hoperator with
    | none => exact .fail _
    | @some parts parts' hparts =>
      obtain ⟨left, t, right⟩ := parts
      obtain ⟨left', t', right'⟩ := parts'
      obtain ⟨hleft, ⟨ht, hfound⟩, hright⟩ := hparts
      -- A string is not an operator, so both lists have the same one.
      obtain rfl : t = t' := by
        cases ht with
        | same => rfl
        | string s s' => exact absurd hfound (by simp [comparison?, isUnsupported])
      simp only []
      cases hcomparison : comparison? t with
      | none => exact .fail _
      | some comparison =>
        exact agree_makeCondition (by rw [if_neg (comparison?_ne_like hcomparison)]) hleft hright

theorem agree_readConditions (h : Similar ts ts') :
    Agree (List.Forall₂ SameCondition) (readConditions ts) (readConditions ts') := by
  refine Agree.mapM (h.splitTopLevel ?_ 0) fun _ _ => agree_readCondition
  intro t t' ht
  rw [isConnective, isConnective, ht.isKeyword_eq, ht.isKeyword_eq]

/-! ## 2. Joins -/

theorem rel_readJoinKind? (h : Similar ts ts') :
    Option.Rel (fun p p' => p.1 = p'.1 ∧ Similar p.2 p'.2) (readJoinKind? ts)
      (readJoinKind? ts') := by
  have houter : ∀ {us us' : List Token}, Similar us us' →
      Similar ((eatKeyword .OUTER us).getD us) ((eatKeyword .OUTER us').getD us') := by
    intro us us' hus
    have heat := rel_eatKeyword .OUTER hus
    generalize eatKeyword .OUTER us = o at heat
    generalize eatKeyword .OUTER us' = o' at heat
    cases heat with
    | none => exact hus
    | some hrest => exact hrest
  have hinner := rel_eatKeyword .INNER h
  have hleft := rel_eatKeyword .LEFT h
  have hright := rel_eatKeyword .RIGHT h
  have hjoin := rel_eatKeyword .JOIN h
  unfold readJoinKind?
  generalize eatKeyword .INNER ts = o at hinner
  generalize eatKeyword .INNER ts' = o' at hinner
  cases hinner with
  | some hrest => exact .some ⟨rfl, hrest⟩
  | none =>
    generalize eatKeyword .LEFT ts = o at hleft
    generalize eatKeyword .LEFT ts' = o' at hleft
    cases hleft with
    | some hrest => exact .some ⟨rfl, houter hrest⟩
    | none =>
      generalize eatKeyword .RIGHT ts = o at hright
      generalize eatKeyword .RIGHT ts' = o' at hright
      cases hright with
      | some hrest => exact .some ⟨rfl, houter hrest⟩
      | none =>
        generalize eatKeyword .JOIN ts = o at hjoin
        generalize eatKeyword .JOIN ts' = o' at hjoin
        cases hjoin with
        | some _ => exact .some ⟨rfl, h⟩
        | none => exact .none

theorem agree_expectEquality (h : Similar ts ts') :
    Agree Similar (expectEquality ts) (expectEquality ts') := by
  have hskip := h.skipBlanks
  rw [expectEquality, expectEquality]
  generalize skipBlanks ts = us at hskip
  generalize skipBlanks ts' = us' at hskip
  cases hskip with
  | nil => exact .fail _
  | @cons t t' rest rest' ht hrest =>
    cases ht with
    | string s s' => exact .fail _
    | same =>
      cases t with
      | symbol s =>
        cases s with
        | equal => exact .ok hrest
        | doubleEqual => exact .ok hrest
        | _ => exact .fail _
      | _ => exact .fail _

theorem agree_readJoin (h : Similar ts ts') :
    Agree (fun p p' => p.1 = p'.1 ∧ Similar p.2 p'.2) (readJoin ts) (readJoin ts') := by
  have hkind := rel_readJoinKind? h
  rw [readJoin, readJoin]
  generalize readJoinKind? ts = o at hkind
  generalize readJoinKind? ts' = o' at hkind
  cases hkind with
  | none => exact .ok ⟨rfl, h⟩
  | @some p p' hp =>
    obtain ⟨kind, us⟩ := p
    obtain ⟨kind', us'⟩ := p'
    obtain ⟨hkind, hus⟩ := hp
    obtain rfl : kind = kind' := hkind
    refine (agree_expectKeyword .join .JOIN hus).bind fun ts₁ ts₁' h₁ => ?_
    refine (agree_readName .join h₁).bind ?_
    rintro ⟨table, ts₂⟩ ⟨table', ts₂'⟩ ⟨htable, h₂⟩
    refine (agree_expectKeyword .join .ON h₂).bind fun ts₃ ts₃' h₃ => ?_
    refine (agree_readReference .join h₃).bind ?_
    rintro ⟨left, ts₄⟩ ⟨left', ts₄'⟩ ⟨hleft, h₄⟩
    refine (agree_expectEquality h₄).bind fun ts₅ ts₅' h₅ => ?_
    refine (agree_readReference .join h₅).bind ?_
    rintro ⟨right, ts₆⟩ ⟨right', ts₆'⟩ ⟨hright, h₆⟩
    simp only at htable hleft hright
    subst htable hleft hright
    exact .ok ⟨rfl, h₆⟩

/-! ## 3. Statements -/

/-- Queries for rows of one shape: only texts differ, and these are made alike. -/
structure SameSelect (q q' : Select) : Prop where
  fields : List.Forall₂ SameField q.fields q'.fields
  table : q.table = q'.table
  distinct : q.distinct = q'.distinct
  distinctFields : q.distinctFields = q'.distinctFields ∨
    List.Forall₂ (Twins Text.lower) q.distinctFields q'.distinctFields
  conditions : List.Forall₂ SameCondition q.conditions q'.conditions
  join : q.join = q'.join
  groupBy : Option.Rel (List.Forall₂ (Twins Text.lower)) q.groupBy q'.groupBy
  aggregated : q.aggregated = q'.aggregated
  orderBy : Option.Rel (List.Forall₂ SameSortKey) q.orderBy q'.orderBy
  limit : q.limit = q'.limit

/-- New rows of one shape. -/
structure SameInsert (q q' : Insert) : Prop where
  table : q.table = q'.table
  columns : List.Forall₂ (Twins Text.lower) q.columns q'.columns
  values : List.Forall₂ (Twins id) q.values q'.values

/-- Removals of one shape. -/
structure SameDelete (q q' : Delete) : Prop where
  table : q.table = q'.table
  conditions : List.Forall₂ SameCondition q.conditions q'.conditions

/-- Statements of one kind and one shape. -/
inductive SameQuery : Query → Query → Prop
  | select {q q' : Select} (h : SameSelect q q') : SameQuery (.select q) (.select q')
  | insert {q q' : Insert} (h : SameInsert q q') : SameQuery (.insert q) (.insert q')
  | delete {q q' : Delete} (h : SameDelete q q') : SameQuery (.delete q) (.delete q')

theorem agree_readOptional {α : Type} {R : α → α → Prop} {read : List Token → Except QueryError α}
    (hread : ∀ {us us'}, Similar us us' → Agree R (read us) (read us'))
    {body body' : Option (List Token)} (h : Option.Rel Similar body body') :
    Agree (Option.Rel R) (readOptional read body) (readOptional read body') := by
  cases h with
  | none => exact .ok .none
  | some h => exact (hread h).map fun _ _ hr => .some hr

theorem agree_splitFields (h : Similar ts ts') :
    Agree Similar.Parts (splitFields ts) (splitFields ts') := by
  have hsplit := h.splitAtKeywords .FROM [] 0
  rw [splitFields, splitFields]
  generalize splitAtKeywords .FROM [] 0 ts = o at hsplit
  generalize splitAtKeywords .FROM [] 0 ts' = o' at hsplit
  cases hsplit with
  | none => exact .fail _
  | some hparts => exact .ok hparts

theorem distinctFields_similar {fields fields' : List Field}
    (h : List.Forall₂ SameField fields fields') (distinct : Bool) :
    distinctFields distinct fields = distinctFields distinct fields' ∨
      List.Forall₂ (Twins Text.lower) (distinctFields distinct fields)
        (distinctFields distinct fields') := by
  cases distinct with
  | true => exact Or.inr (List.rel_map (fun _ _ hf => hf.name) h)
  | false =>
    refine Or.inl ?_
    have haggregates : fields.filterMap Field.aggregate = fields'.filterMap Field.aggregate := by
      induction h with
      | nil => rfl
      | cons hf _ ih => rw [List.filterMap_cons, List.filterMap_cons, hf.aggregate, ih]
    rw [distinctFields, distinctFields, haggregates]
    rfl

theorem any_aggregate_eq {fields fields' : List Field} (h : List.Forall₂ SameField fields fields') :
    fields.any (·.aggregate.isSome) = fields'.any (·.aggregate.isSome) := by
  induction h with
  | nil => rfl
  | cons hf _ ih => rw [List.any_cons, List.any_cons, hf.aggregate, ih]

theorem agree_readSelect (h : Similar ts ts') :
    Agree SameSelect (readSelect ts) (readSelect ts') := by
  obtain ⟨h₁, hlimit⟩ := h.splitClause .LIMIT []
  obtain ⟨h₂, horder⟩ := h₁.splitClause .ORDER [.BY]
  obtain ⟨h₃, hgroup⟩ := h₂.splitClause .GROUP [.BY]
  obtain ⟨h₄, hwhere⟩ := h₃.splitClause .WHERE []
  rw [readSelect, readSelect]
  refine (agree_readOptional agree_readLimit hlimit).bind fun limit limit' hlimit => ?_
  refine (agree_readOptional agree_readOrderBy horder).bind fun orderBy orderBy' horder => ?_
  refine (agree_readOptional agree_readGroupBy hgroup).bind fun groupBy groupBy' hgroup => ?_
  refine (agree_readOptional agree_readConditions hwhere).bind fun conditions conditions' hwhere => ?_
  refine (agree_expectKeyword .select .SELECT h₄).bind fun us us' h₅ => ?_
  have hdistinct := rel_eatKeyword .DISTINCT h₅
  have hlimits : limit.join = limit'.join := by
    cases hlimit with
    | none => rfl
    | some h => rw [h]
  have hconditions : List.Forall₂ SameCondition (conditions.getD []) (conditions'.getD []) := by
    cases hwhere with
    | none => exact .nil
    | some h => exact h
  have hgrouped : groupBy.isNone = groupBy'.isNone := by cases hgroup <;> rfl
  generalize eatKeyword .DISTINCT us = o at hdistinct
  generalize eatKeyword .DISTINCT us' = o' at hdistinct
  cases hdistinct
  case' none => have h₆ := h₅
  case' some => rename_i h₆
  all_goals
    refine (agree_splitFields h₆).bind ?_
    rintro ⟨fieldTokens, ts₇⟩ ⟨fieldTokens', ts₇'⟩ hparts
    refine (agree_readFields hparts.1).bind fun fields fields' hfields => ?_
    refine (agree_readName .from hparts.2).bind ?_
    rintro ⟨table, ts₈⟩ ⟨table', ts₈'⟩ htable
    refine (agree_readJoin htable.2).bind ?_
    rintro ⟨join, ts₉⟩ ⟨join', ts₉'⟩ hjoin
    refine (agree_expectEnd .select "FROM clause" hjoin.2).bind fun _ _ _ => ?_
    refine .ok ⟨hfields, htable.1, rfl, ?_, hconditions, hjoin.1, hgroup,
      by rw [any_aggregate_eq hfields, hgrouped], horder, hlimits⟩
    dsimp only
    exact distinctFields_similar hfields _

theorem agree_readInsert (h : Similar ts ts') :
    Agree SameInsert (readInsert ts) (readInsert ts') := by
  rw [readInsert, readInsert]
  refine (agree_expectKeyword .insert .INSERT h).bind fun ts₁ ts₁' h₁ => ?_
  refine (agree_expectKeyword .insert .INTO h₁).bind fun ts₂ ts₂' h₂ => ?_
  refine (agree_readName .insert h₂).bind ?_
  rintro ⟨table, ts₃⟩ ⟨table', ts₃'⟩ ⟨htable, h₃⟩
  refine (agree_readParenthesized .insert h₃).bind ?_
  rintro ⟨columnTokens, ts₄⟩ ⟨columnTokens', ts₄'⟩ ⟨hcolumnTokens, h₄⟩
  refine (agree_expectKeyword .values .VALUES h₄).bind fun ts₅ ts₅' h₅ => ?_
  refine (agree_readParenthesized .values h₅).bind ?_
  rintro ⟨valueTokens, ts₆⟩ ⟨valueTokens', ts₆'⟩ ⟨hvalueTokens, h₆⟩
  refine (agree_expectEnd .values "VALUES list" h₆).bind fun _ _ _ => ?_
  refine (agree_readList .insert "column" hcolumnTokens).bind fun columns columns' hcolumns => ?_
  refine (agree_readList .values "value" hvalueTokens).bind fun values values' hvalues => ?_
  have hlower : List.Forall₂ (Twins Text.lower) (columns.map Text.lower)
      (columns'.map Text.lower) := by
    refine List.rel_map ?_ hcolumns
    rintro name name' ⟨us, us', hus, rfl, rfl⟩
    exact ⟨us, us', hus, rfl, rfl⟩
  rw [hcolumns.length_eq, hvalues.length_eq]
  split
  · exact .fail _
  · exact .ok ⟨htable, hlower, hvalues⟩

theorem agree_readDelete (h : Similar ts ts') :
    Agree SameDelete (readDelete ts) (readDelete ts') := by
  obtain ⟨h₁, hwhere⟩ := h.splitClause .WHERE []
  rw [readDelete, readDelete]
  refine (agree_expectKeyword .delete .DELETE h₁).bind fun ts₂ ts₂' h₂ => ?_
  refine (agree_expectKeyword .delete .FROM h₂).bind fun ts₃ ts₃' h₃ => ?_
  refine (agree_readName .delete h₃).bind ?_
  rintro ⟨table, ts₄⟩ ⟨table', ts₄'⟩ ⟨htable, h₄⟩
  refine (agree_expectEnd .delete "table name" h₄).bind fun _ _ _ => ?_
  refine (agree_readOptional agree_readConditions hwhere).bind fun conditions conditions' hc => ?_
  refine .ok ⟨htable, ?_⟩
  cases hc with
  | none => exact .nil
  | some hc => exact hc

/-- The kind of a statement does not depend on its literals. -/
theorem agree_readQuery (h : Similar ts ts') : Agree SameQuery (readQuery ts) (readQuery ts') := by
  have hkeyword : leadingKeyword? ts = leadingKeyword? ts' := by
    have hskip := h.skipBlanks
    rw [leadingKeyword?, leadingKeyword?]
    generalize skipBlanks ts = us at hskip
    generalize skipBlanks ts' = us' at hskip
    cases hskip with
    | nil => rfl
    | cons ht _ => exact ht.keyword?_eq
  have hselect : Agree SameSelect (asSelectError (readSelect ts)) (asSelectError (readSelect ts')) := by
    have hagree := agree_readSelect h
    generalize readSelect ts = x at hagree
    generalize readSelect ts' = x' at hagree
    cases hagree with
    | ok hq => exact .ok hq
    | error he => exact .error (.invalidSelect he)
  rw [readQuery, readQuery, hkeyword]
  split
  · exact hselect.map fun _ _ => .select
  · exact (agree_readInsert h).map fun _ _ => .insert
  · exact (agree_readDelete h).map fun _ _ => .delete
  · exact .fail _

end

/-! ## 4. A removal with a literal -/

/-- `DELETE FROM table WHERE column = 's'`. -/
def deleteLexemes (table column : Identifier) (s : String) : List Lexeme :=
  [.word (keyword .DELETE), .space, .word (keyword .FROM), .space, .word table.spelling, .space,
    .word (keyword .WHERE), .space, .word column.spelling, .space, .sign .equal, .space, .string s]

theorem readDelete_lexemes (table column : Identifier) (s : String) :
    readDelete ((deleteLexemes table column s).map Lexeme.token) =
      .ok ⟨Text.lower table.text, [⟨Text.lower column.text, .equal, "'" ++ s ++ "'"⟩]⟩ := by
  let condition : ConditionPhrase := ⟨⟨1, ⟨none, column.name⟩⟩, ⟨1, .equal false⟩, ⟨1, .string s⟩⟩
  let before : List Token := (capitals .DELETE 0).tokens ++ ((capitals .FROM 1).tokens ++
    (blanks 1 ++ ([table.name.token] ++ blanks 1)))
  have hbefore : Shows [.DELETE, .FROM] before :=
    ((capitals .DELETE 0).shows (by simp)).append (((capitals .FROM 1).shows (by simp)).append
      ((Shows.blanks 1).append (table.name.shows.append (Shows.blanks 1))))
  have htokens : (deleteLexemes table column s).map Lexeme.token =
      before ++ (capitals .WHERE 0).token :: condition.tokens := rfl
  have hsplit : splitClause .WHERE [] (before ++ (capitals .WHERE 0).token :: condition.tokens) =
      (before, some condition.tokens) :=
    splitClause_append hbefore (by decide) (capitals .WHERE 0).isKeyword rfl
  have hconditions : readConditions condition.tokens = .ok [condition.condition] := by
    have hread := readConditions_tokens ⟨condition, []⟩ 0
    simpa [SelectPhrase.conditionTokens, Listed.tokens, Listed.items, blanks] using hread
  have hdelete : expectKeyword .delete .DELETE before = .ok ((capitals .FROM 1).tokens ++
      (blanks 1 ++ ([table.name.token] ++ blanks 1))) :=
    expectKeyword_cons .delete (capitals .DELETE 0).isKeyword 0 _
  have hfrom : expectKeyword .delete .FROM ((capitals .FROM 1).tokens ++
      (blanks 1 ++ ([table.name.token] ++ blanks 1))) =
        .ok (blanks 1 ++ ([table.name.token] ++ blanks 1)) :=
    expectKeyword_cons .delete (capitals .FROM 1).isKeyword 1 _
  have hname : readName .delete (blanks 1 ++ ([table.name.token] ++ blanks 1)) =
      .ok (Text.lower table.text, blanks 1) := readName_cons .delete 1 table.text none _
  rw [htokens, readDelete, hsplit]
  simp only [hdelete, hfrom, hname, expectEnd_blanks, readOptional, hconditions, Except.map, bind,
    Except.bind]
  rfl

theorem parseDelete_write (table column : Identifier) (s : String) :
    parseDelete ("DELETE FROM " ++ table.text ++ " WHERE " ++ column.text ++ " = " ++ literal s) =
      .ok ⟨Text.lower table.text, [⟨Text.lower column.text, .equal, "'" ++ s ++ "'"⟩]⟩ := by
  have htokens : tokenize
      ("DELETE FROM " ++ table.text ++ " WHERE " ++ column.text ++ " = " ++ literal s) =
        .ok ((deleteLexemes table column s).map Lexeme.token) := by
    refine tokenize_of_write ?_ rfl ?_
    · simp [deleteLexemes, write, Lexeme.chars, Spelling.chars, keyword, Spelling.bare,
        Identifier.spelling, Keyword.spelling, literal, Sign.char]
    · simp [deleteLexemes, Lexeme.token, isTrailing]
  rw [parseDelete, htokens]
  exact readDelete_lexemes table column s

/-! ## 5. The shape of a statement -/

/-- **Literals keep the shape of a statement.**  Statements that differ in the texts of literals
only are read alike, and what is wrong with them is wrong with the same clause; and whatever is
written as the literal of a removal, it is one literal of one condition. -/
theorem literals_keep_shape :
    (∀ ts ts', Similar ts ts' →
      Agree SameSelect (readSelect ts) (readSelect ts') ∧
      Agree SameInsert (readInsert ts) (readInsert ts') ∧
      Agree SameDelete (readDelete ts) (readDelete ts') ∧
      Agree SameQuery (readQuery ts) (readQuery ts')) ∧
    (∀ e e', SameFault e e' → e.clause? = e'.clause?) ∧
    ∀ (table column : Identifier) (s : String),
      parseDelete
          ("DELETE FROM " ++ table.text ++ " WHERE " ++ column.text ++ " = " ++ literal s) =
        .ok ⟨Text.lower table.text, [⟨Text.lower column.text, .equal, "'" ++ s ++ "'"⟩]⟩ :=
  ⟨fun _ _ h => ⟨agree_readSelect h, agree_readInsert h, agree_readDelete h, agree_readQuery h⟩,
    fun _ _ h => h.clause?_eq, parseDelete_write⟩

/-- The tokens of `DELETE FROM t WHERE c = 's'`. -/
def removalTokens (s : String) : List Token :=
  (deleteLexemes ⟨"t", by decide, by decide⟩ ⟨"c", by decide, by decide⟩ s).map Lexeme.token

/-- A literal that holds a condition of its own stays one literal. -/
theorem literals_keep_shape_or : Similar (removalTokens "x") (removalTokens "x' OR 1 = 1") ∧
    Agree SameDelete (readDelete (removalTokens "x")) (readDelete (removalTokens "x' OR 1 = 1")) := by
  have hsimilar : Similar (removalTokens "x") (removalTokens "x' OR 1 = 1") :=
    (Similar.refl (removalTokens "x").dropLast).append (.cons (.string "x" "x' OR 1 = 1") .nil)
  exact ⟨hsimilar, (literals_keep_shape.1 _ _ hsimilar).2.2.1⟩

end Sql
end Tabular
