/-
# Calls inside fields

A field of a query for rows is an aggregate if a call of an aggregate function stands anywhere
inside it: the search goes from word to word and takes the first call that it comes to.  What
stands around the call, such as a name behind `AS`, is not looked at, and all of it stays part of
the field's name.

`IsCall` gives the written form of a call, apart from how one is searched for.  A search can be
followed place by place (`findAggregate_cons`), and the two meet at every place
(`callHere?_of_isCall`, `exists_of_callHere?`).

* **`calls_of_fields`**: what is found is the first call that is written in the field;
* `sum_holds_call`: so a field need not be a call to be an aggregate.
-/
import Tabular.Proofs.Sql.Tokens

namespace Tabular
namespace Sql

/-! ## 1. Calls as they are written -/

/-- The words of a column: its name, or the names of a table and a column. -/
inductive IsColumn : List Token → Prop
  | bare (column : String) (q : Option Char) : IsColumn [.word column q]
  | qualified (table column : String) (p q : Option Char) :
      IsColumn [.word table p, .symbol .period, .word column q]

/-- The column that some tokens name, as it is looked up on rows. -/
def columnName (ts : List Token) : String := Text.lower (String.join (ts.map Token.print))

/-- A function's name with something between parentheses. -/
def callTokens (name : String) (inside : List Token) : List Token :=
  .word name none :: .symbol .leftParen :: (inside ++ [.symbol .rightParen])

/-- A call as it is written, without blanks: of the rows, of a column, or of the different values
of a column.  Only counting goes by different values. -/
inductive IsCall : AggregateCall → List Token → Prop
  | star {name : String} {function : AggregateFunction}
      (hname : AggregateFunction.ofName? name = some function) :
      IsCall ⟨function, .star, false⟩ (callTokens name [.symbol .star])
  | column {name : String} {function : AggregateFunction} {ts : List Token}
      (hname : AggregateFunction.ofName? name = some function) (hcolumn : IsColumn ts)
      (hhead : ∀ t ∈ ts.head?, t.isKeyword .DISTINCT = false) :
      IsCall ⟨function, .column (columnName ts), false⟩ (callTokens name ts)
  | distinct {name word : String} {ts : List Token}
      (hname : AggregateFunction.ofName? name = some .count)
      (hword : Keyword.ofWord? word = some .DISTINCT) (hcolumn : IsColumn ts) :
      IsCall ⟨.count, .column (columnName ts), true⟩ (callTokens name (.word word none :: ts))

/-- A call ends at its closing parenthesis. -/
theorem IsCall.getLast?_eq {call : AggregateCall} {run : List Token} (h : IsCall call run) :
    run.getLast? = some (.symbol .rightParen) := by
  cases h <;> simp [callTokens, List.getLast?_cons]

/-- The call is written in the tokens, and no call starts in front of it. -/
def IsFirstCall (call : AggregateCall) (ts : List Token) : Prop :=
  ∃ before run after, ts = before ++ (run ++ after) ∧ IsCall call run ∧
    ∀ before' call' run' after', ts = before' ++ (run' ++ after') → IsCall call' run' →
      before.length ≤ before'.length

variable {ts : List Token} {call : AggregateCall}

theorem isReference_iff : isReference ts = true ↔ IsColumn ts := by
  constructor
  · intro h
    unfold isReference at h
    split at h
    · exact .bare _ _
    · exact .qualified _ _ _ _
    · exact absurd h Bool.false_ne_true
  · rintro (_ | _) <;> rfl

theorem IsColumn.rightParen_notMem (h : IsColumn ts) : Token.symbol .rightParen ∉ ts := by
  cases h <;> simp

theorem argument?_of_isColumn (h : IsColumn ts) (distinct : Bool) :
    argument? distinct ts = some (.column (columnName ts)) := by
  have hstar : ts ≠ [.symbol .star] := by cases h <;> simp
  rw [argument?, if_neg (fun hs => hstar hs.1), if_pos (isReference_iff.mpr h)]
  rfl

/-- An argument is the star, where it may be, or a column. -/
theorem argument?_eq_some {distinct : Bool} {argument : AggregateArgument}
    (h : argument? distinct ts = some argument) :
    (ts = [.symbol .star] ∧ distinct = false ∧ argument = .star) ∨
      (IsColumn ts ∧ argument = .column (columnName ts)) := by
  unfold argument? at h
  split at h
  · rename_i hstar
    exact Or.inl ⟨hstar.1, by simpa using hstar.2, (Option.some.inj h).symm⟩
  · split at h
    · rename_i hreference
      exact Or.inr ⟨isReference_iff.mp hreference, (Option.some.inj h).symm⟩
    · exact absurd h (by simp)

/-- What stands between an opening parenthesis and the first closing one. -/
theorem takeWhile_inside {inside : List Token} (h : Token.symbol .rightParen ∉ inside)
    (after : List Token) :
    (inside ++ .symbol .rightParen :: after).takeWhile (· ≠ .symbol .rightParen) = inside := by
  have hall : ∀ t ∈ inside, decide (t ≠ .symbol .rightParen) = true := by
    intro t ht
    rw [decide_eq_true_eq]
    rintro rfl
    exact h ht
  rw [List.takeWhile_append_of_pos hall]
  simp

/-! ## 2. The search, place by place -/

/-- The call that starts at the first of the tokens. -/
def callHere? : List Token → Option AggregateCall
  | t :: .symbol .leftParen :: args =>
    if .symbol .rightParen ∈ args then
      (functionName? t).bind fun function =>
        aggregateCall? function (args.takeWhile (· ≠ .symbol .rightParen))
    else none
  | _ => none

/-- Nothing is found where no parenthesis is closed. -/
theorem findAggregate_of_notMem (h : Token.symbol .rightParen ∉ ts) : findAggregate ts = none := by
  induction ts with
  | nil => rfl
  | cons t ts ih =>
    have hrest := ih fun hmem => h (List.mem_cons_of_mem _ hmem)
    unfold findAggregate
    split
    · rw [if_neg fun hmem => h (by simp [hmem])]
    · exact hrest

/-- **The search takes the call at the first place, or else goes on behind it.** -/
theorem findAggregate_cons (t : Token) (ts : List Token) :
    findAggregate (t :: ts) = (callHere? (t :: ts)).or (findAggregate ts) := by
  conv_lhs => unfold findAggregate
  split
  · rename_i function args hfunction
    by_cases hclosed : Token.symbol .rightParen ∈ args
    · rw [if_pos hclosed, callHere?, if_pos hclosed, hfunction, Option.bind_some]
      cases aggregateCall? function (args.takeWhile (· ≠ .symbol .rightParen)) <;> rfl
    · -- The search ends here, and further on there is nothing to find.
      have hnone : findAggregate (.symbol .leftParen :: args) = none :=
        findAggregate_of_notMem (by simpa using hclosed)
      rw [if_neg hclosed, callHere?, if_neg hclosed, hnone]
      rfl
  · rename_i ts _ _ hno
    have hnone : callHere? (t :: ts) = none := by
      unfold callHere?
      split
      · rename_i args heq
        obtain ⟨rfl, rfl⟩ := List.cons.inj heq
        cases hfunction : functionName? t with
        | none => simp
        | some function => exact (hno function args hfunction rfl).elim
      · rfl
    rw [hnone, Option.none_or]

/-- A written call is found where it starts, whatever follows it. -/
theorem callHere?_of_isCall {run : List Token} (h : IsCall call run) (after : List Token) :
    callHere? (run ++ after) = some call := by
  have hopen : ∀ (name : String) (function : AggregateFunction) (inside : List Token),
      AggregateFunction.ofName? name = some function → Token.symbol .rightParen ∉ inside →
      callHere? (callTokens name inside ++ after) = aggregateCall? function inside := by
    intro name function inside hname hinside
    have htokens : callTokens name inside ++ after =
        .word name none :: .symbol .leftParen :: (inside ++ .symbol .rightParen :: after) := by
      simp [callTokens]
    rw [htokens, callHere?, if_pos (by simp), takeWhile_inside hinside, functionName?, hname]
    rfl
  cases h with
  | star hname => rw [hopen _ _ _ hname (by simp)]; rfl
  | @column name function ts hname hcolumn hhead =>
    rw [hopen _ _ _ hname hcolumn.rightParen_notMem]
    cases ts with
    | nil => cases hcolumn
    | cons t ts =>
      rw [aggregateCall?, if_neg (by simp [hhead t rfl]), argument?_of_isColumn hcolumn]
      rfl
  | @distinct name word ts hname hword hcolumn =>
    have hkeyword : (Token.word word none).isKeyword .DISTINCT = true := by
      simp [Token.isKeyword, Token.keyword?, hword]
    rw [hopen _ _ _ hname (by simpa using hcolumn.rightParen_notMem), aggregateCall?,
      if_pos hkeyword, argument?_of_isColumn hcolumn]
    rfl

/-- The call of a function is written as its argument between parentheses, if it does not go by
different values without counting. -/
theorem isCall_of_aggregateCall? {name : String} {function : AggregateFunction}
    (hname : AggregateFunction.ofName? name = some function)
    (h : aggregateCall? function ts = some call)
    (hdistinct : call.distinct = true → call.function = .count) :
    IsCall call (callTokens name ts) := by
  cases ts with
  | nil => simp [aggregateCall?, argument?, isReference] at h
  | cons t ts =>
    rw [aggregateCall?] at h
    split at h
    · rename_i hkeyword
      obtain ⟨argument, hargument, rfl⟩ := Option.map_eq_some_iff.mp h
      obtain rfl : function = .count := hdistinct rfl
      rcases argument?_eq_some hargument with ⟨-, hfalse, -⟩ | ⟨hcolumn, rfl⟩
      · exact absurd hfalse (by simp)
      · obtain ⟨word, rfl, hword⟩ : ∃ word, t = .word word none ∧
            Keyword.ofWord? word = some .DISTINCT := by
          rw [Token.isKeyword, decide_eq_true_eq] at hkeyword
          unfold Token.keyword? at hkeyword
          split at hkeyword
          · exact ⟨_, rfl, hkeyword⟩
          · exact absurd hkeyword (by simp)
        exact .distinct hname hword hcolumn
    · rename_i hkeyword
      obtain ⟨argument, hargument, rfl⟩ := Option.map_eq_some_iff.mp h
      rcases argument?_eq_some hargument with ⟨hstar, -, rfl⟩ | ⟨hcolumn, rfl⟩
      · rw [hstar]
        exact .star hname
      · exact .column hname hcolumn (by simpa using hkeyword)

/-- **What is found at a place is written there.** -/
theorem exists_of_callHere? (h : callHere? ts = some call)
    (hdistinct : call.distinct = true → call.function = .count) :
    ∃ run after, ts = run ++ after ∧ IsCall call run := by
  unfold callHere? at h
  split at h
  swap
  · exact absurd h (by simp)
  rename_i t args
  split at h
  swap
  · exact absurd h (by simp)
  rename_i hclosed
  obtain ⟨function, hfunction, hcall⟩ := Option.bind_eq_some_iff.mp h
  obtain ⟨name, rfl, hname⟩ : ∃ name, t = .word name none ∧
      AggregateFunction.ofName? name = some function := by
    unfold functionName? at hfunction
    split at hfunction
    · exact ⟨_, rfl, hfunction⟩
    · exact absurd hfunction (by simp)
  -- The argument ends at the first closing parenthesis.
  obtain ⟨inside, after, rfl, hinside⟩ := List.eq_append_cons_of_mem hclosed
  rw [takeWhile_inside hinside] at hcall
  exact ⟨callTokens name inside, after, by simp [callTokens],
    isCall_of_aggregateCall? hname hcall hdistinct⟩

/-! ## 3. The whole search -/

/-- **What is found is the first written call.** -/
theorem isFirstCall_of_findAggregate (h : findAggregate ts = some call)
    (hdistinct : call.distinct = true → call.function = .count) : IsFirstCall call ts := by
  induction ts with
  | nil => exact absurd h (by simp [findAggregate])
  | cons t ts ih =>
    rw [findAggregate_cons] at h
    cases hhere : callHere? (t :: ts) with
    | some found =>
      rw [hhere, Option.some_or, Option.some.injEq] at h
      obtain ⟨run, after, hts, hrun⟩ := exists_of_callHere? hhere (h ▸ hdistinct)
      exact ⟨[], run, after, hts, h ▸ hrun, fun _ _ _ _ _ _ => Nat.zero_le _⟩
    | none =>
      rw [hhere, Option.none_or] at h
      obtain ⟨before, run, after, rfl, hrun, hfirst⟩ := ih h
      refine ⟨t :: before, run, after, rfl, hrun, fun before' call' run' after' hts hrun' => ?_⟩
      cases before' with
      | nil =>
        -- A call that starts at the first token would have been found there.
        rw [hts, List.nil_append, callHere?_of_isCall hrun'] at hhere
        exact absurd hhere (by simp)
      | cons t' before' =>
        exact Nat.succ_le_succ (hfirst before' call' run' after' (List.cons.inj hts).2 hrun')

/-- **A written call makes the search succeed**, whatever stands around it. -/
theorem isSome_findAggregate_of_isCall {run : List Token} (h : IsCall call run)
    (before after : List Token) : (findAggregate (before ++ (run ++ after))).isSome := by
  induction before with
  | nil =>
    have hhere := callHere?_of_isCall h after
    rw [List.nil_append]
    cases hts : run ++ after with
    | nil => simp [hts, callHere?] at hhere
    | cons t ts =>
      rw [hts] at hhere
      rw [findAggregate_cons, hhere]
      rfl
  | cons t before ih =>
    rw [List.cons_append, findAggregate_cons, Option.isSome_or, ih, Bool.or_true]

/-! ## 4. The fields of a query -/

/-- The fields are read from the parts between the commas, each one by itself. -/
theorem forall₂_of_mapM_readField {parts : List (List Token)} {fields : List Field}
    (h : parts.mapM readField = .ok fields) :
    List.Forall₂ (fun part field => field.name = Text.lower (render part) ∧
      field.aggregate = findAggregate (significant part)) parts fields := by
  refine (mapM_eq_ok_iff.mp h).imp fun part field hfield => ?_
  rw [readField] at hfield
  split at hfield
  · exact absurd hfield (by simp)
  · obtain rfl := Except.ok.inj hfield
    exact ⟨rfl, rfl⟩

/-- **Calls inside fields.**  A call that is found is written in the field, and no call is written
further in front; a field with a written call has one that is found.  The text of the whole field
is the name of the result's column. -/
theorem calls_of_fields (ts : List Token) :
    (∀ call, findAggregate (significant ts) = some call →
      (call.distinct = true → call.function = .count) → IsFirstCall call (significant ts)) ∧
    (∀ before run after call, significant ts = before ++ (run ++ after) → IsCall call run →
      (findAggregate (significant ts)).isSome) ∧
    ∀ fields, readFields ts = .ok fields →
      List.Forall₂ (fun part field => field.name = Text.lower (render part) ∧
        field.aggregate = findAggregate (significant part))
        (splitTopLevel isComma 0 ts) fields := by
  refine ⟨fun call h hdistinct => isFirstCall_of_findAggregate h hdistinct, ?_, ?_⟩
  · intro before run after call hts hrun
    rw [hts]
    exact isSome_findAggregate_of_isCall hrun before after
  · exact fun fields h => forall₂_of_mapM_readField h

/-- The different values of a column, counted under a name. -/
def namedCount : List Token :=
  [.word "Count" none, .symbol .leftParen, .word "DISTINCT" none, .blank, .word "t" none,
    .symbol .period, .word "C" none, .symbol .rightParen, .blank, .word "AS" none, .blank,
    .word "n" none]

theorem calls_of_fields_named :
    findAggregate (significant namedCount) = some ⟨.count, .column "t.c", true⟩ ∧
      IsFirstCall ⟨.count, .column "t.c", true⟩ (significant namedCount) := by
  have hfound : findAggregate (significant namedCount) = some ⟨.count, .column "t.c", true⟩ := by
    decide
  exact ⟨hfound, (calls_of_fields namedCount).1 _ hfound fun _ => rfl⟩

/-- A field that is a call and nothing else, but that it may be given a name. -/
def IsCallField (call : AggregateCall) (ts : List Token) : Prop :=
  ∃ run name, ts = run ++ name ∧ IsCall call run ∧
    (name = [] ∨ ∃ word text q, Text.asciiCapitals? word = some "AS" ∧
      name = [.word word none, .word text q])

/-- The tokens of `COUNT(id) + 1`. -/
def countAndOne : List Token :=
  [.word "COUNT" none, .symbol .leftParen, .word "id" none, .symbol .rightParen, .blank,
    .symbol (.other "+"), .blank, .number "1" false]

/-- **A sum is answered with one of its terms**, under the name of the sum. -/
theorem sum_holds_call :
    readFields countAndOne = .ok [⟨"count(id) + 1", some ⟨.count, .column "id", false⟩⟩] ∧
      ¬IsCallField ⟨.count, .column "id", false⟩ (significant countAndOne) := by
  refine ⟨rfl, ?_⟩
  rintro ⟨run, name, hts, hrun, hname⟩
  have hlast : (significant countAndOne).getLast? = some (.number "1" false) := rfl
  rw [hts] at hlast
  rcases hname with rfl | ⟨word, text, q, -, rfl⟩
  · rw [List.append_nil, hrun.getLast?_eq] at hlast
    simp at hlast
  · simp at hlast

end Sql
end Tabular
