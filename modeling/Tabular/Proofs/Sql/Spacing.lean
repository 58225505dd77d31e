/-
# Blanks between tokens

Blanks and comments part tokens and do nothing else: a statement is read in the same way whatever
stands in a gap, and whether anything stands before its first token or behind its last.  Gaps
themselves do matter, since `t.c` in a join is one reference and `t .c` is none, and since a text
that is rendered from tokens has a space for each gap.

No reader goes by one blank or by several: `collapse`, which leaves one blank of every run, passes
through each function that cuts a list of tokens or reads it from the front.  A search stops at the
same token (`Cuts.collapse`), the rest that a reader leaves is the collapsed rest
(`readName_collapse`), and what is made of a part does not change (`render_collapse`).  So the
readers of statements return the same for a list and for the collapsed list, with the same error if
they fail (`readQuery_collapse`).

* **`read_respaced`**: two texts with the same tokens up to runs of blanks, and up to blanks at the
  ends, are read as the same.
-/
import Tabular.Proofs.Sql.Tokens
import Mathlib.Data.List.DropRight

namespace Tabular
namespace Sql

variable {t : Token} {ts : List Token} {k : Keyword} {ks : List Keyword}

/-! ## 1. Runs of blanks -/

theorem eq_blank_of_isBlank (h : t.isBlank = true) : t = .blank := by
  cases t <;> simp_all [Token.isBlank]

/-- Where `collapse` drops a blank, the next token is a blank too. -/
theorem exists_of_run (h : t.isBlank = true ∧ ts.head?.any Token.isBlank = true) :
    t = .blank ∧ ∃ us, ts = .blank :: us := by
  obtain ⟨ht, hts⟩ := h
  refine ⟨eq_blank_of_isBlank ht, ?_⟩
  cases ts with
  | nil => simp at hts
  | cons u us => exact ⟨us, by rw [eq_blank_of_isBlank (t := u) (by simpa using hts)]⟩

theorem collapse_blank_blank (ts : List Token) :
    collapse (.blank :: .blank :: ts) = collapse (.blank :: ts) := by
  rw [collapse, if_pos ⟨rfl, rfl⟩]

theorem head?_collapse (ts : List Token) : (collapse ts).head? = ts.head? := by
  induction ts using collapse.induct with
  | case1 => rfl
  | case2 t ts h ih =>
    obtain ⟨rfl, us, rfl⟩ := exists_of_run h
    rw [collapse_blank_blank, ih]
    rfl
  | case3 t ts h ih =>
    rw [collapse, if_neg h]
    rfl

theorem collapse_collapse (ts : List Token) : collapse (collapse ts) = collapse ts := by
  induction ts using collapse.induct with
  | case1 => rfl
  | case2 t ts h ih => rw [collapse, if_pos h, ih]
  | case3 t ts h ih => rw [collapse, if_neg h, collapse, head?_collapse, if_neg h, ih]

/-- What drops blanks from the front drops whole runs. -/
theorem dropWhile_collapse {p : Token → Bool} (hp : p .blank = true) (ts : List Token) :
    (collapse ts).dropWhile p = collapse (ts.dropWhile p) := by
  induction ts using collapse.induct with
  | case1 => rfl
  | case2 t ts h ih =>
    obtain ⟨rfl, us, rfl⟩ := exists_of_run h
    rw [collapse_blank_blank, ih]
    simp [hp]
  | case3 t ts h ih =>
    rw [collapse, if_neg h, List.dropWhile_cons, List.dropWhile_cons]
    split
    · exact ih
    · rw [collapse, if_neg h]

theorem skipBlanks_collapse (ts : List Token) :
    skipBlanks (collapse ts) = collapse (skipBlanks ts) := dropWhile_collapse rfl ts

theorem significant_collapse (ts : List Token) : significant (collapse ts) = significant ts := by
  induction ts using collapse.induct with
  | case1 => rfl
  | case2 t ts h ih =>
    obtain ⟨rfl, us, rfl⟩ := exists_of_run h
    rw [collapse_blank_blank, ih]
    rfl
  | case3 t ts h ih =>
    unfold significant at ih ⊢
    rw [collapse, if_neg h, List.filter_cons, List.filter_cons, ih]

/-- A token at the end is dropped if it goes on with a run. -/
theorem collapse_concat (ts : List Token) (t : Token) : collapse (ts ++ [t]) =
    if t.isBlank ∧ ts.getLast?.any Token.isBlank then collapse ts else collapse ts ++ [t] := by
  induction ts with
  | nil => simp [collapse]
  | cons s ts ih =>
    cases ts with
    | nil =>
      rw [List.singleton_append, collapse]
      by_cases hs : s.isBlank <;> by_cases ht : t.isBlank <;> simp [collapse, hs, ht]
      rw [eq_blank_of_isBlank hs, eq_blank_of_isBlank ht]
    | cons u us =>
      have hstep : ∀ vs, collapse (s :: u :: vs) =
          if s.isBlank ∧ u.isBlank then collapse (u :: vs) else s :: collapse (u :: vs) :=
        fun _ => rfl
      rw [List.cons_append] at ih
      rw [List.cons_append, List.cons_append, hstep, hstep, ih, List.getLast?_cons_cons]
      split_ifs <;> simp

theorem collapse_reverse (ts : List Token) : collapse ts.reverse = (collapse ts).reverse := by
  induction ts with
  | nil => rfl
  | cons t ts ih =>
    rw [List.reverse_cons, collapse_concat, ih, List.getLast?_reverse, collapse]
    split_ifs <;> simp

theorem getLast?_collapse (ts : List Token) : (collapse ts).getLast? = ts.getLast? := by
  rw [← List.head?_reverse, ← collapse_reverse, head?_collapse, List.head?_reverse]

theorem trimTokens_collapse (ts : List Token) :
    trimTokens (collapse ts) = collapse (trimTokens ts) := by
  simp only [trimTokens, skipBlanks_collapse, ← collapse_reverse]

/-- **The text of a list of tokens** goes by the gaps alone. -/
theorem render_collapse (ts : List Token) : render (collapse ts) = render ts := by
  rw [render, trimTokens_collapse, collapse_collapse, render]

/-- Behind the blanks in front stands the same token, and behind that the collapsed rest. -/
theorem skipBlanks_collapse_cases (ts : List Token) :
    (skipBlanks ts = [] ∧ skipBlanks (collapse ts) = []) ∨
      ∃ t rest, skipBlanks ts = t :: rest ∧ skipBlanks (collapse ts) = t :: collapse rest := by
  rw [skipBlanks_collapse]
  cases h : skipBlanks ts with
  | nil => exact Or.inl ⟨rfl, rfl⟩
  | cons t rest =>
    have ht : t.isBlank = false := by
      have hhead := List.head?_dropWhile_not Token.isBlank ts
      rw [skipBlanks] at h
      simpa [h] using hhead
    exact Or.inr ⟨t, rest, rfl, collapse_cons ht rest⟩

/-! ## 2. Cutting a list -/

/-- A part in front of a list is collapsed as the list is. -/
theorem collapse_cons_of_isPrefix {front : List Token} (hfront : front <+: ts)
    (h : ¬(t.isBlank = true ∧ ts.head?.any Token.isBlank = true)) :
    collapse (t :: front) = t :: collapse front := by
  rw [collapse, if_neg]
  rintro ⟨ht, hhead⟩
  obtain ⟨rest, rfl⟩ := hfront
  cases front with
  | nil => simp at hhead
  | cons u front => exact h ⟨ht, hhead⟩

/-- Puts a token in front of the first part. -/
def pushFront {α : Type} (t : Token) (p : List Token × α) : List Token × α := (t :: p.1, p.2)

/-- A search through a list, with the depth of parentheses.  Where it stops it gives what stands
before, and what it found there. -/
structure Cuts {α : Type} (stop : Nat → Token → List Token → Option α)
    (cut : Nat → List Token → Option (List Token × α)) : Prop where
  nil : ∀ depth, cut depth [] = none
  cons : ∀ depth t ts, cut depth (t :: ts) =
    ((stop depth t ts).map fun found => ([], found)).or
      ((cut (depthAfter depth t) ts).map (pushFront t))

namespace Cuts

variable {α : Type} {stop : Nat → Token → List Token → Option α}
  {cut : Nat → List Token → Option (List Token × α)}

theorem isPrefix (h : Cuts stop cut) (depth : Nat) (ts : List Token) :
    ∀ p ∈ cut depth ts, p.1 <+: ts := by
  induction ts generalizing depth with
  | nil => simp [h.nil]
  | cons t ts ih =>
    intro p hp
    rw [h.cons, Option.mem_def, Option.or_eq_some_iff] at hp
    rcases hp with hp | ⟨-, hp⟩
    · obtain ⟨found, -, rfl⟩ := Option.map_eq_some_iff.mp hp
      exact List.nil_prefix
    · obtain ⟨q, hq, rfl⟩ := Option.map_eq_some_iff.mp hp
      exact (List.prefix_cons_inj t).mpr (ih _ q hq)

theorem blank (h : Cuts stop cut) (hblank : ∀ depth ts, stop depth .blank ts = none) (depth : Nat)
    (ts : List Token) : cut depth (.blank :: ts) = (cut depth ts).map (pushFront .blank) := by
  rw [h.cons, hblank]
  rfl

/-- **A search cuts a collapsed list at the same place**, if it does not stop at blanks and finds
the same there. -/
theorem collapse (h : Cuts stop cut) {f : α → α} (hblank : ∀ depth ts, stop depth .blank ts = none)
    (hstop : ∀ depth t ts, stop depth t (Sql.collapse ts) = (stop depth t ts).map f) (depth : Nat)
    (ts : List Token) :
    cut depth (Sql.collapse ts) = (cut depth ts).map (Prod.map Sql.collapse f) := by
  induction ts using Sql.collapse.induct generalizing depth with
  | case1 => rw [Sql.collapse, h.nil, Option.map_none]
  | case2 t ts hrun ih =>
    obtain ⟨rfl, us, rfl⟩ := exists_of_run hrun
    rw [collapse_blank_blank, ih, h.blank hblank, h.blank hblank, h.blank hblank]
    cases cut depth us with
    | none => rfl
    | some p => simp [pushFront, collapse_blank_blank]
  | case3 t ts hrun ih =>
    have hpush : ((cut (depthAfter depth t) ts).map (Prod.map Sql.collapse f)).map (pushFront t) =
        ((cut (depthAfter depth t) ts).map (pushFront t)).map (Prod.map Sql.collapse f) := by
      rw [Option.map_map, Option.map_map]
      refine Option.map_congr fun p hp => ?_
      simp [pushFront, collapse_cons_of_isPrefix (h.isPrefix _ ts p hp) hrun]
    rw [Sql.collapse, if_neg hrun, h.cons, h.cons, ih, hstop, hpush, Option.map_or]
    cases stop depth t ts <;> rfl

end Cuts

theorem matchKeywords_collapse (ks : List Keyword) (ts : List Token) :
    matchKeywords ks (collapse ts) = (matchKeywords ks ts).map collapse := by
  induction ks generalizing ts with
  | nil => rfl
  | cons k ks ih =>
    rw [matchKeywords, matchKeywords]
    rcases skipBlanks_collapse_cases ts with ⟨h, h'⟩ | ⟨t, rest, h, h'⟩
    · rw [h, h', Option.map_none]
    · simp only [h, h']
      split
      · exact ih rest
      · rfl

theorem cuts_splitAtKeywords : Cuts (fun depth t ts =>
    if depthAfter depth t = 0 ∧ t.isKeyword k then matchKeywords ks ts else none)
    (splitAtKeywords k ks) where
  nil _ := rfl
  cons depth t ts := by
    rw [splitAtKeywords]
    generalize (if depthAfter depth t = 0 ∧ t.isKeyword k then matchKeywords ks ts else none) = body
    cases body <;> rfl

theorem isKeyword_blank (k : Keyword) : Token.blank.isKeyword k = false := by
  simp [Token.isKeyword, Token.keyword?]

theorem splitAtKeywords_blank (depth : Nat) (ts : List Token) :
    splitAtKeywords k ks depth (.blank :: ts) =
      (splitAtKeywords k ks depth ts).map (pushFront .blank) :=
  cuts_splitAtKeywords.blank (fun _ _ => by simp [isKeyword_blank]) depth ts

theorem splitAtKeywords_collapse (depth : Nat) (ts : List Token) :
    splitAtKeywords k ks depth (collapse ts) =
      (splitAtKeywords k ks depth ts).map (Prod.map collapse collapse) := by
  refine cuts_splitAtKeywords.collapse (fun _ _ => by simp [isKeyword_blank]) ?_ depth ts
  intro depth t ts
  rw [matchKeywords_collapse]
  split <;> rfl

theorem splitClause_collapse (ts : List Token) : splitClause k ks (collapse ts) =
    (collapse (splitClause k ks ts).1, (splitClause k ks ts).2.map collapse) := by
  rw [splitClause, splitClause, splitAtKeywords_collapse]
  cases splitAtKeywords k ks 0 ts <;> rfl

theorem splitClause_blank (ts : List Token) : splitClause k ks (.blank :: ts) =
    (.blank :: (splitClause k ks ts).1, (splitClause k ks ts).2) := by
  rw [splitClause, splitClause, splitAtKeywords_blank]
  cases splitAtKeywords k ks 0 ts <;> rfl

theorem cuts_splitFirst (p : Token → Bool) :
    Cuts (fun _ t ts => if p t then some (t, ts) else none) fun _ => splitFirst p where
  nil _ := rfl
  cons _ t ts := by
    rw [splitFirst]
    split <;> rfl

theorem splitFirst_collapse {p : Token → Bool} (hblank : p .blank = false) (ts : List Token) :
    splitFirst p (collapse ts) =
      (splitFirst p ts).map (Prod.map collapse (Prod.map id collapse)) := by
  refine (cuts_splitFirst p).collapse (fun _ _ => by simp [hblank]) ?_ 0 ts
  intro _ t ts
  split <;> rfl

theorem cuts_splitAtClosing :
    Cuts (fun depth t ts => if depth = 0 ∧ t = .symbol .rightParen then some ts else none)
      splitAtClosing where
  nil _ := rfl
  cons depth t ts := by
    rw [splitAtClosing]
    split <;> rfl

theorem splitAtClosing_collapse (depth : Nat) (ts : List Token) :
    splitAtClosing depth (collapse ts) =
      (splitAtClosing depth ts).map (Prod.map collapse collapse) := by
  refine cuts_splitAtClosing.collapse (fun _ _ => by simp) ?_ depth ts
  intro depth t ts
  split <;> rfl

section

variable {isSeparator : Token → Bool}

theorem splitTopLevel_cons (depth : Nat) (t : Token) (ts : List Token) :
    splitTopLevel isSeparator depth (t :: ts) =
      if depth = 0 ∧ isSeparator t then [] :: splitTopLevel isSeparator depth ts
      else (splitTopLevel isSeparator (depthAfter depth t) ts).modifyHead (t :: ·) := by
  obtain ⟨part, parts, hparts⟩ :=
    List.exists_cons_of_ne_nil (splitTopLevel_ne_nil isSeparator (depthAfter depth t) ts)
  rw [splitTopLevel, hparts]
  rfl

theorem isPrefix_of_splitTopLevel (depth : Nat) (ts : List Token) :
    ∀ part ∈ (splitTopLevel isSeparator depth ts).head?, part <+: ts := by
  induction ts generalizing depth with
  | nil => simp [splitTopLevel]
  | cons t ts ih =>
    intro part hpart
    rw [splitTopLevel_cons] at hpart
    split at hpart
    · obtain rfl : [] = part := by simpa using hpart
      exact List.nil_prefix
    · obtain ⟨first, hfirst, rfl⟩ : ∃ first, _ ∧ t :: first = part := by
        simpa [List.head?_modifyHead] using hpart
      exact (List.prefix_cons_inj t).mpr (ih _ first hfirst)

/-- **The parts between separators** of a collapsed list are the collapsed parts. -/
theorem splitTopLevel_collapse (hblank : isSeparator .blank = false) (depth : Nat)
    (ts : List Token) : splitTopLevel isSeparator depth (collapse ts) =
      (splitTopLevel isSeparator depth ts).map collapse := by
  induction ts using collapse.induct generalizing depth with
  | case1 => rfl
  | case2 t ts h ih =>
    obtain ⟨rfl, us, rfl⟩ := exists_of_run h
    obtain ⟨part, parts, hparts⟩ :=
      List.exists_cons_of_ne_nil (splitTopLevel_ne_nil isSeparator depth us)
    have hcons : ∀ vs, splitTopLevel isSeparator depth (.blank :: vs) =
        (splitTopLevel isSeparator depth vs).modifyHead (.blank :: ·) := fun vs => by
      rw [splitTopLevel_cons, if_neg (by simp [hblank])]
      rfl
    rw [collapse_blank_blank, ih, hcons, hcons, hcons, hparts]
    simp [collapse_blank_blank]
  | case3 t ts h ih =>
    rw [collapse, if_neg h, splitTopLevel_cons, splitTopLevel_cons, ih, ih]
    split
    · rfl
    · have hfront : ∀ part ∈ (splitTopLevel isSeparator (depthAfter depth t) ts).head?,
          part <+: ts := isPrefix_of_splitTopLevel _ _
      obtain ⟨part, parts, hparts⟩ :=
        List.exists_cons_of_ne_nil (splitTopLevel_ne_nil isSeparator (depthAfter depth t) ts)
      rw [hparts] at hfront ⊢
      simp [collapse_cons_of_isPrefix (hfront part rfl) h]

end

/-! ## 3. Reading from the front -/

section

variable {clause : Clause}

theorem eatKeyword_collapse (k : Keyword) (ts : List Token) :
    eatKeyword k (collapse ts) = (eatKeyword k ts).map collapse := matchKeywords_collapse [k] ts

theorem expectKeyword_collapse (ts : List Token) :
    expectKeyword clause k (collapse ts) = (expectKeyword clause k ts).map collapse := by
  rw [expectKeyword, expectKeyword, eatKeyword_collapse]
  cases eatKeyword k ts <;> rfl

/-- **A name** is read from the first token that is no blank. -/
theorem readName_collapse (ts : List Token) :
    readName clause (collapse ts) = (readName clause ts).map (Prod.map id collapse) := by
  rw [readName, readName]
  rcases skipBlanks_collapse_cases ts with ⟨h, h'⟩ | ⟨t, rest, h, h'⟩
  · rw [h, h']
    rfl
  · rw [h, h']
    cases t <;> rfl

theorem readReference_of_no_period {name : String} {rest : List Token}
    (h : readName clause ts = .ok (name, rest)) (hrest : rest.head? ≠ some (.symbol .period)) :
    readReference clause ts = .ok (name, rest) := by
  rw [readReference, h]
  split <;> simp_all

/-- A reference goes on only if its point is the very next token, and a blank stays a blank. -/
theorem readReference_collapse (ts : List Token) :
    readReference clause (collapse ts) = (readReference clause ts).map (Prod.map id collapse) := by
  rcases hname : readName clause ts with e | ⟨name, rest⟩
  · simp only [readReference, readName_collapse, hname]
    rfl
  have hname' : readName clause (collapse ts) = .ok (name, collapse rest) := by
    rw [readName_collapse, hname]
    rfl
  by_cases hperiod : rest.head? = some (.symbol .period)
  · obtain ⟨rest, rfl⟩ : ∃ us, rest = .symbol .period :: us := by
      cases rest <;> simp_all
    rw [collapse_cons (by rfl)] at hname'
    simp only [readReference, hname, hname', readName_collapse]
    rcases readName clause rest with e | ⟨column, after⟩ <;> rfl
  · rw [readReference_of_no_period hname hperiod,
      readReference_of_no_period hname' (by rwa [head?_collapse])]
    rfl

theorem readParenthesized_collapse (ts : List Token) : readParenthesized clause (collapse ts) =
    (readParenthesized clause ts).map (Prod.map collapse collapse) := by
  rw [readParenthesized, readParenthesized]
  rcases skipBlanks_collapse_cases ts with ⟨h, h'⟩ | ⟨t, rest, h, h'⟩
  · rw [h, h']
    rfl
  rw [h, h']
  cases t with
  | symbol s =>
    cases s with
    | leftParen =>
      simp only [splitAtClosing_collapse]
      cases splitAtClosing 0 rest <;> rfl
    | _ => rfl
  | _ => rfl

theorem expectEnd_collapse (part : String) (ts : List Token) :
    expectEnd clause part (collapse ts) = expectEnd clause part ts := by
  rw [expectEnd, expectEnd, render_collapse]
  rcases skipBlanks_collapse_cases ts with ⟨h, h'⟩ | ⟨t, rest, h, h'⟩
  · rw [h, h']
  · rw [h, h', if_neg (by simp), if_neg (by simp)]

/-- The texts of a list's entries. -/
theorem readList_collapse (entry : String) (ts : List Token) :
    readList clause entry (collapse ts) = readList clause entry ts := by
  rw [readList, readList, splitTopLevel_collapse rfl, List.mapM_map]
  simp only [Function.comp_def, render_collapse]

end

/-! ## 4. Clauses -/

theorem readLimit_collapse (ts : List Token) : readLimit (collapse ts) = readLimit ts := by
  rw [readLimit, readLimit, significant_collapse]

theorem readGroupBy_collapse (ts : List Token) : readGroupBy (collapse ts) = readGroupBy ts := by
  rw [readGroupBy, readGroupBy, readList_collapse]

/-- The direction behind a sort key is no blank, so it is the last token of the collapsed list. -/
theorem splitDirection_collapse (ts : List Token) :
    splitDirection (collapse ts) = Prod.map collapse id (splitDirection ts) := by
  rcases List.eq_nil_or_concat ts with rfl | ⟨init, last, rfl⟩
  · rfl
  rw [List.concat_eq_append]
  have hword : ∀ k, last.isKeyword k = true →
      collapse (init ++ [last]) = collapse init ++ [last] := fun k hk => by
    rw [collapse_concat, if_neg (by simp [not_isBlank_of_isKeyword hk])]
  rw [splitDirection, splitDirection, getLast?_collapse, List.getLast?_concat]
  dsimp only
  split_ifs with hdesc hasc
  · simp [hword _ hdesc]
  · simp [hword _ hasc]
  · rfl

theorem readSortKey_collapse (ts : List Token) : readSortKey (collapse ts) = readSortKey ts := by
  simp only [readSortKey, trimTokens_collapse, splitDirection_collapse, Prod.map_fst, Prod.map_snd,
    render_collapse, id_eq]

theorem readOrderBy_collapse (ts : List Token) : readOrderBy (collapse ts) = readOrderBy ts := by
  rw [readOrderBy, readOrderBy, splitTopLevel_collapse rfl, List.mapM_map]
  simp only [Function.comp_def, readSortKey_collapse]

theorem makeCondition_collapse (comparison : Comparison) (value : String → String)
    (left right : List Token) : makeCondition comparison value (collapse left) (collapse right) =
      makeCondition comparison value left right := by
  simp only [makeCondition, render_collapse]

theorem readCondition_collapse (ts : List Token) :
    readCondition (collapse ts) = readCondition ts := by
  simp only [readCondition]
  rw [splitFirst_collapse rfl, splitFirst_collapse rfl]
  cases splitFirst (Token.isKeyword .LIKE) ts with
  | some s => exact makeCondition_collapse ..
  | none =>
    cases splitFirst (fun t => (comparison? t).isSome || isUnsupported t) ts with
    | none => rfl
    | some s =>
      obtain ⟨left, operator, right⟩ := s
      cases h : comparison? operator <;> simp [h, makeCondition_collapse]

theorem readConditions_collapse (ts : List Token) :
    readConditions (collapse ts) = readConditions ts := by
  rw [readConditions, readConditions, splitTopLevel_collapse rfl, List.mapM_map]
  simp only [Function.comp_def, readCondition_collapse]

theorem readField_collapse (ts : List Token) : readField (collapse ts) = readField ts := by
  simp only [readField, render_collapse, significant_collapse]

theorem readFields_collapse (ts : List Token) : readFields (collapse ts) = readFields ts := by
  rw [readFields, readFields, splitTopLevel_collapse rfl, List.mapM_map]
  simp only [Function.comp_def, readField_collapse]

theorem readJoinKind?_collapse (ts : List Token) :
    readJoinKind? (collapse ts) = (readJoinKind? ts).map (Prod.map id collapse) := by
  have houter : ∀ rest, (eatKeyword .OUTER (collapse rest)).getD (collapse rest) =
      collapse ((eatKeyword .OUTER rest).getD rest) := fun rest => by
    rw [eatKeyword_collapse, Option.getD_map]
  simp only [readJoinKind?, eatKeyword_collapse _ ts]
  cases eatKeyword .INNER ts with
  | some rest => rfl
  | none =>
    cases eatKeyword .LEFT ts with
    | some rest => simp [houter]
    | none =>
      cases eatKeyword .RIGHT ts with
      | some rest => simp [houter]
      | none => cases eatKeyword .JOIN ts <;> rfl

theorem expectEquality_collapse (ts : List Token) :
    expectEquality (collapse ts) = (expectEquality ts).map collapse := by
  rw [expectEquality, expectEquality]
  rcases skipBlanks_collapse_cases ts with ⟨h, h'⟩ | ⟨t, rest, h, h'⟩
  · rw [h, h']
    rfl
  rw [h, h']
  cases t with
  | symbol s => cases s <;> rfl
  | _ => rfl

/-- A reader that comes behind another sees the collapsed rest. -/
theorem bind_map {ε α β γ : Type} (x : Except ε α) (f : α → β) (g : β → Except ε γ) :
    (x.map f >>= g) = x >>= fun a => g (f a) := by
  cases x <;> rfl

theorem map_bind {ε α β γ : Type} (x : Except ε α) (f : α → Except ε β) (g : β → γ) :
    (x >>= f).map g = x >>= fun a => (f a).map g := by
  cases x <;> rfl

theorem readJoin_collapse (ts : List Token) :
    readJoin (collapse ts) = (readJoin ts).map (Prod.map id collapse) := by
  rw [readJoin, readJoin, readJoinKind?_collapse]
  cases readJoinKind? ts with
  | none => rfl
  | some p =>
    simp only [Option.map_some, Prod.map, expectKeyword_collapse, readName_collapse,
      readReference_collapse, expectEquality_collapse, bind_map, map_bind, id_eq]
    rfl

/-! ## 5. Statements -/

/-- A reader of statements that goes neither by the lengths of runs of blanks nor by blanks in
front. -/
structure Indifferent {α : Type} (read : List Token → α) : Prop where
  collapse : ∀ ts, read (collapse ts) = read ts
  blank : ∀ ts, read (.blank :: ts) = read ts

theorem readOptional_collapse {α : Type} {read : List Token → Except QueryError α}
    (h : ∀ ts, read (collapse ts) = read ts) (body : Option (List Token)) :
    readOptional read (body.map collapse) = readOptional read body := by
  cases body with
  | none => rfl
  | some body => simp [readOptional, h]

theorem splitFields_collapse (ts : List Token) :
    splitFields (collapse ts) = (splitFields ts).map (Prod.map collapse collapse) := by
  rw [splitFields, splitFields, splitAtKeywords_collapse]
  cases splitAtKeywords .FROM [] 0 ts <;> rfl

theorem readSelect_collapse (ts : List Token) : readSelect (collapse ts) = readSelect ts := by
  simp only [readSelect, splitClause_collapse, readOptional_collapse readLimit_collapse,
    readOptional_collapse readOrderBy_collapse, readOptional_collapse readGroupBy_collapse,
    readOptional_collapse readConditions_collapse, expectKeyword_collapse, bind_map]
  refine bind_congr fun limit => bind_congr fun orderBy => bind_congr fun groupBy =>
    bind_congr fun conditions => bind_congr fun head => ?_
  rw [eatKeyword_collapse]
  cases eatKeyword .DISTINCT head <;>
    simp only [Option.map_some, Option.map_none, splitFields_collapse, readFields_collapse,
      readName_collapse, readJoin_collapse, expectEnd_collapse, bind_map, Prod.map, id_eq]

theorem readInsert_collapse (ts : List Token) : readInsert (collapse ts) = readInsert ts := by
  simp only [readInsert, expectKeyword_collapse, readName_collapse, readParenthesized_collapse,
    expectEnd_collapse, readList_collapse, bind_map, Prod.map, id_eq]

theorem readDelete_collapse (ts : List Token) : readDelete (collapse ts) = readDelete ts := by
  simp only [readDelete, splitClause_collapse, expectKeyword_collapse, readName_collapse,
    expectEnd_collapse, readOptional_collapse readConditions_collapse, bind_map, Prod.map, id_eq]

theorem leadingKeyword?_collapse (ts : List Token) :
    leadingKeyword? (collapse ts) = leadingKeyword? ts := by
  rw [leadingKeyword?, skipBlanks_collapse, head?_collapse, leadingKeyword?]

/-- **A statement** is read as from the collapsed list, its errors included. -/
theorem readQuery_collapse (ts : List Token) : readQuery (collapse ts) = readQuery ts := by
  simp only [readQuery, leadingKeyword?_collapse, readSelect_collapse, readInsert_collapse,
    readDelete_collapse]

/-- A keyword in front is looked for behind the blanks. -/
theorem expectKeyword_blank (clause : Clause) (ts : List Token) :
    expectKeyword clause k (.blank :: ts) = expectKeyword clause k ts := rfl

theorem indifferent_readSelect : Indifferent readSelect where
  collapse := readSelect_collapse
  blank ts := by simp only [readSelect, splitClause_blank, expectKeyword_blank]

theorem indifferent_readInsert : Indifferent readInsert where
  collapse := readInsert_collapse
  blank _ := rfl

theorem indifferent_readDelete : Indifferent readDelete where
  collapse := readDelete_collapse
  blank ts := by simp only [readDelete, splitClause_blank, expectKeyword_blank]

theorem indifferent_readQuery : Indifferent readQuery where
  collapse := readQuery_collapse
  blank ts := by
    have hlead : leadingKeyword? (.blank :: ts) = leadingKeyword? ts := rfl
    simp only [readQuery, hlead, indifferent_readSelect.blank, indifferent_readInsert.blank,
      indifferent_readDelete.blank]

/-! ## 6. Texts -/

theorem rdropWhile_collapse {p : Token → Bool} (hp : p .blank = true) (ts : List Token) :
    (collapse ts).rdropWhile p = collapse (ts.rdropWhile p) := by
  rw [List.rdropWhile, ← collapse_reverse, dropWhile_collapse hp, ← collapse_reverse,
    List.rdropWhile]

/-- A token at the end stays behind the blanks in front, or belongs to them. -/
theorem skipBlanks_concat (ts : List Token) (t : Token) :
    skipBlanks (ts ++ [t]) = skipBlanks ts ++ [t] ∨
      skipBlanks (ts ++ [t]) = [] ∧ skipBlanks ts = [] := by
  have happend : skipBlanks (ts ++ [t]) =
      if (skipBlanks ts).isEmpty then skipBlanks [t] else skipBlanks ts ++ [t] :=
    List.dropWhile_append
  rw [happend]
  cases hskip : skipBlanks ts with
  | cons s rest => exact Or.inl rfl
  | nil =>
    cases ht : t.isBlank with
    | true => exact Or.inr ⟨by simp [skipBlanks, ht], rfl⟩
    | false => exact Or.inl (skipBlanks_cons ht [])

/-- It does not matter which end is trimmed first. -/
theorem skipBlanks_rdropWhile (p : Token → Bool) (ts : List Token) :
    skipBlanks (ts.rdropWhile p) = (skipBlanks ts).rdropWhile p := by
  induction ts using List.reverseRecOn with
  | nil => simp [skipBlanks_nil]
  | append_singleton ts t ih =>
    rw [List.rdropWhile_concat]
    rcases skipBlanks_concat ts t with hlast | ⟨hnone, hskip⟩
    · rw [hlast, List.rdropWhile_concat]
      split
      · exact ih
      · exact hlast
    · rw [hnone, List.rdropWhile_nil]
      rw [hskip, List.rdropWhile_nil] at ih
      split
      · exact ih
      · exact hnone

/-- The end of a statement starts no later than the blanks at its end. -/
theorem rdropWhile_isTrailing (ts : List Token) :
    (ts.rdropWhile Token.isBlank).rdropWhile isTrailing = ts.rdropWhile isTrailing := by
  induction ts using List.reverseRecOn with
  | nil => simp
  | append_singleton ts t ih =>
    rw [List.rdropWhile_concat]
    split
    · rename_i ht
      rw [eq_blank_of_isBlank ht, ih, List.rdropWhile_concat_pos _ _ _ rfl]
    · rfl

/-- Such a reader sees of a text's tokens the collapsed ones, without the blanks at the ends. -/
theorem Indifferent.eq {α : Type} {read : List Token → α} (h : Indifferent read)
    (ts : List Token) : read (ts.rdropWhile isTrailing) =
      read ((Sql.collapse (trimTokens ts)).rdropWhile isTrailing) := by
  have hskip : ∀ us, read (skipBlanks us) = read us := fun us => by
    induction us with
    | nil => rfl
    | cons u us ih =>
      cases hu : u.isBlank with
      | true =>
        obtain rfl := eq_blank_of_isBlank hu
        exact ih.trans (h.blank us).symm
      | false => rw [skipBlanks_cons hu]
  have htrim : trimTokens ts = (skipBlanks ts).rdropWhile Token.isBlank := rfl
  rw [rdropWhile_collapse rfl, h.collapse, htrim, rdropWhile_isTrailing, ← skipBlanks_rdropWhile,
    hskip]

theorem tokenize_of_tokens {sql : String} (h : tokens sql.toList = .ok ts) :
    tokenize sql = .ok (ts.rdropWhile isTrailing) := by
  rw [tokenize, statementTokens, h]
  rfl

/-- **Blanks and comments only part tokens.**  Two texts with the same tokens are read as the same
statement, or refused with the same error, whatever runs of blanks and comments stand in the gaps
and at the ends. -/
theorem read_respaced {sql sql' : String} {ts ts' : List Token} (h : tokens sql.toList = .ok ts)
    (h' : tokens sql'.toList = .ok ts')
    (hsame : collapse (trimTokens ts) = collapse (trimTokens ts')) :
    parse sql = parse sql' ∧ parseSelect sql = parseSelect sql' ∧
      parseInsert sql = parseInsert sql' ∧ parseDelete sql = parseDelete sql' := by
  have hread : ∀ {α : Type} {read : List Token → Except QueryError α}, Indifferent read →
      (tokenize sql >>= read) = (tokenize sql' >>= read) := fun {_ read} hi => by
    rw [tokenize_of_tokens h, tokenize_of_tokens h']
    change read (ts.rdropWhile isTrailing) = read (ts'.rdropWhile isTrailing)
    rw [hi.eq ts, hi.eq ts', hsame]
  exact ⟨hread indifferent_readQuery, congrArg asSelectError (hread indifferent_readSelect),
    hread indifferent_readInsert, hread indifferent_readDelete⟩

/-- A query on one line, and on three with comments. -/
theorem read_respaced_lines :
    ∃ ts ts', tokens "SELECT a FROM t LIMIT 2".toList = .ok ts ∧
      tokens "\tSELECT a -- first\nFROM  t /* all */ LIMIT\n2 ".toList = .ok ts' ∧ ts ≠ ts' ∧
      collapse (trimTokens ts) = collapse (trimTokens ts') ∧
      parse "SELECT a FROM t LIMIT 2" =
        parse "\tSELECT a -- first\nFROM  t /* all */ LIMIT\n2 " ∧
      (parse "SELECT a FROM t LIMIT 2").isOk = true := by
  have hline : tokens "SELECT a FROM t LIMIT 2".toList = .ok
      [.word "SELECT" none, .blank, .word "a" none, .blank, .word "FROM" none, .blank,
        .word "t" none, .blank, .word "LIMIT" none, .blank, .number "2" false] := by
    decide +kernel
  have hlines : tokens "\tSELECT a -- first\nFROM  t /* all */ LIMIT\n2 ".toList = .ok
      [.blank, .word "SELECT" none, .blank, .word "a" none, .blank, .blank, .word "FROM" none,
        .blank, .blank, .word "t" none, .blank, .blank, .blank, .word "LIMIT" none, .blank,
        .number "2" false, .blank] := by
    decide +kernel
  have hsame := read_respaced hline hlines (by decide)
  exact ⟨_, _, hline, hlines, by decide, by decide, hsame.1, by decide +kernel⟩

end Sql
end Tabular
