/-
# What follows a table

`SELECT * FROM t` and `DELETE FROM t` may be followed by the same text.  The reader of queries for
rows searches it for every optional clause, the reader of removals only for `WHERE`.  So a removal
takes a misplaced clause as a part of its last literal, where the query cuts it off.

* `bodies_where`: behind a front that opens no clause, the body of `WHERE` is cut where another
  clause starts;
* `ne_of_readConditions_append`: what is cut off changes the conditions, since a literal is longer
  with it than without it;
* `conditions_eq_iff`: so both statements have the same conditions iff no other clause is opened.
-/
import Tabular.Proofs.Sql.Lexemes
import Tabular.Proofs.Sql.Tokens

namespace Tabular

/-! ## 1. The ink of a text

Rendering drops blanks, and the literal of a `LIKE` loses its quotes.  All other characters are
kept, so that their number tells a body from a longer one. -/

namespace Text

/-- The number of characters that are neither spaces nor quotes. -/
def ink (cs : List Char) : Nat := cs.countP fun c => !(c = ' ' || isQuote c)

theorem ink_append (cs ds : List Char) : ink (cs ++ ds) = ink cs + ink ds := List.countP_append

theorem ink_unquote (cs : List Char) : ink (unquote cs) = ink cs := by
  cases cs with
  | nil => rfl
  | cons q rest =>
    rw [unquote]
    split
    · rename_i h
      have hrest : rest = rest.dropLast ++ [q] :=
        (List.dropLast_append_getLast? q h.2).symm
      have hq : ink [q] = 0 := by simp [ink, h.1]
      calc ink rest.dropLast = ink [q] + (ink rest.dropLast + ink [q]) := by omega
        _ = ink (q :: rest) := by rw [← ink_append, ← hrest, ← ink_append, List.singleton_append]
    · rfl

/-- What has an uppercase form is neither a space nor a quote. -/
theorem ink_eq_length_of_capitals {cs : List Char} {parts : List (List Char)}
    (h : cs.mapM capitals? = some parts) : ink cs = cs.length := by
  rw [ink, List.countP_eq_length]
  induction cs generalizing parts with
  | nil => simp
  | cons c cs ih =>
    rw [List.mapM_cons] at h
    obtain ⟨part, hc, h⟩ := Option.bind_eq_some_iff.mp h
    obtain ⟨rest, hcs, -⟩ := Option.bind_eq_some_iff.mp h
    intro d hd
    rcases List.mem_cons.mp hd with rfl | hd
    · have hnone : [' ', '\x27', '\x22'].all (fun e => (capitals? e).isNone) = true := by decide
      have hnot : d ∉ [' ', '\x27', '\x22'] := by
        intro hm
        have hd := List.all_eq_true.mp hnone d hm
        simp [hc] at hd
      simpa [isQuote] using hnot
    · exact ih hcs d hd

end Text

namespace Sql

/-- The ink of tokens as they are printed. -/
def inkOf (ts : List Token) : Nat := Text.ink (String.join (ts.map Token.print)).toList

theorem inkOf_append (ts us : List Token) : inkOf (ts ++ us) = inkOf ts + inkOf us := by
  rw [inkOf, List.map_append, String.join_append, String.toList_append, Text.ink_append]
  rfl

theorem inkOf_cons (t : Token) (ts : List Token) : inkOf (t :: ts) = inkOf [t] + inkOf ts :=
  inkOf_append [t] ts

theorem inkOf_of_isBlank {t : Token} (h : t.isBlank = true) : inkOf [t] = 0 := by
  cases t <;> first | rfl | simp [Token.isBlank] at h

theorem inkOf_pos_of_isKeyword {t : Token} {k : Keyword} (h : t.isKeyword k = true) :
    0 < inkOf [t] := by
  have hword : t.keyword? = some k := by simpa [Token.isKeyword] using h
  unfold Token.keyword? at hword
  split at hword
  · rename_i text
    rw [Keyword.ofWord?] at hword
    split at hword
    · rename_i capitals hcapitals
      obtain ⟨parts, hparts, rfl⟩ := Option.map_eq_some_iff.mp hcapitals
      have hne : text.toList ≠ [] := by
        intro hnil
        rw [hnil] at hparts
        obtain rfl : parts = [] := by simpa [eq_comm] using hparts
        revert hword
        cases k <;> decide
      have hink : inkOf [.word text none] = Text.ink text.toList := by simp [inkOf, Token.print]
      rw [hink, Text.ink_eq_length_of_capitals hparts]
      exact List.length_pos_of_ne_nil hne
    · simp at hword
  · simp at hword

theorem inkOf_reverse (ts : List Token) : inkOf ts.reverse = inkOf ts := by
  induction ts with
  | nil => rfl
  | cons t ts ih => rw [List.reverse_cons, inkOf_append, ih, inkOf_cons t ts, Nat.add_comm]

theorem inkOf_skipBlanks (ts : List Token) : inkOf (skipBlanks ts) = inkOf ts := by
  induction ts with
  | nil => rfl
  | cons t ts ih =>
    cases h : t.isBlank with
    | true =>
      have hskip : skipBlanks (t :: ts) = skipBlanks ts := by simp [skipBlanks, h]
      rw [hskip, ih, inkOf_cons, inkOf_of_isBlank h, Nat.zero_add]
    | false => rw [skipBlanks_cons h]

theorem inkOf_collapse (ts : List Token) : inkOf (collapse ts) = inkOf ts := by
  induction ts with
  | nil => rfl
  | cons t ts ih =>
    rw [collapse]
    split
    · rename_i h
      rw [ih, inkOf_cons, inkOf_of_isBlank h.1, Nat.zero_add]
    · rw [inkOf_cons, ih, ← inkOf_cons]

/-- **Rendering keeps the ink.** -/
theorem ink_render (ts : List Token) : Text.ink (render ts).toList = inkOf ts := by
  have hrender : Text.ink (render ts).toList = inkOf (collapse (trimTokens ts)) := rfl
  rw [hrender, inkOf_collapse, trimTokens, inkOf_reverse, inkOf_skipBlanks, inkOf_reverse,
    inkOf_skipBlanks]

/-! ## 2. Conditions with something behind -/

variable {k : Keyword} {u : Token} {ts rest : List Token}

theorem splitFirst_eq_some_append {p : Token → Bool} {before after : List Token} {t : Token}
    (h : splitFirst p ts = some (before, t, after)) (more : List Token) :
    splitFirst p (ts ++ more) = some (before, t, after ++ more) := by
  induction ts generalizing before with
  | nil => simp [splitFirst] at h
  | cons s ts ih =>
    rw [List.cons_append, splitFirst]
    rw [splitFirst] at h
    split
    · rename_i hs
      rw [if_pos hs] at h
      simp only [Option.some.injEq, Prod.mk.injEq] at h ⊢
      obtain ⟨rfl, rfl, rfl⟩ := h
      exact ⟨rfl, rfl, rfl⟩
    · rename_i hs
      rw [if_neg hs] at h
      obtain ⟨⟨before', t', after'⟩, hrest, heq⟩ := Option.map_eq_some_iff.mp h
      obtain ⟨rfl, rfl, rfl⟩ : s :: before' = before ∧ t' = t ∧ after' = after := by
        simpa using heq
      rw [ih hrest]
      rfl

theorem eq_of_makeCondition {comparison : Comparison} {value : String → String}
    {left right : List Token} {c : Condition}
    (h : makeCondition comparison value left right = .ok c) :
    c = ⟨Text.lower (render left), comparison, value (render right)⟩ := by
  simp only [makeCondition] at h
  split at h
  · simp at h
  · exact (Except.ok.inj h).symm

theorem not_like_of_readCondition {c : Condition}
    (hlike : splitFirst (Token.isKeyword .LIKE) ts = none) (h : readCondition ts = .ok c) :
    c.comparison ≠ .like := by
  rw [readCondition, hlike] at h
  simp only at h
  split at h
  · simp at h
  · split at h
    · simp at h
    · rename_i comparison hcomparison
      rw [eq_of_makeCondition h]
      exact comparison?_ne_like hcomparison

/-- Conditions on literals with different ink are different. -/
theorem ne_of_makeCondition {comparison : Comparison} {value : String → String}
    (hvalue : ∀ s, Text.ink (value s).toList = Text.ink s.toList) {left right : List Token}
    {c d : Condition} (hu : 0 < inkOf [u])
    (hc : makeCondition comparison value left right = .ok c)
    (hd : makeCondition comparison value left (right ++ u :: rest) = .ok d) : c ≠ d := by
  rw [eq_of_makeCondition hc, eq_of_makeCondition hd]
  intro heq
  have hink := congrArg (fun c => Text.ink c.value.toList) heq
  have hbehind : inkOf (right ++ u :: rest) = inkOf right + (inkOf [u] + inkOf rest) := by
    rw [inkOf_append, inkOf_cons]
  simp only [hvalue, ink_render, hbehind] at hink
  omega

/-- **What stands behind a condition changes it**: its literal, or else its comparison. -/
theorem ne_of_readCondition_append {c d : Condition} (hu : 0 < inkOf [u])
    (hc : readCondition ts = .ok c) (hd : readCondition (ts ++ u :: rest) = .ok d) : c ≠ d := by
  have hbare : ∀ s, Text.ink (bareLiteral s).toList = Text.ink s.toList := by
    intro s
    rw [bareLiteral, String.toList_ofList, Text.ink_unquote]
  cases hlike : splitFirst (Token.isKeyword .LIKE) ts with
  | some parts =>
    obtain ⟨left, t, right⟩ := parts
    rw [readCondition, hlike] at hc
    rw [readCondition, splitFirst_eq_some_append hlike] at hd
    exact ne_of_makeCondition hbare hu hc hd
  | none =>
    cases hlike' : splitFirst (Token.isKeyword .LIKE) (ts ++ u :: rest) with
    | some parts =>
      have hnot := not_like_of_readCondition hlike hc
      rw [readCondition, hlike'] at hd
      rintro rfl
      rw [eq_of_makeCondition hd] at hnot
      exact hnot rfl
    | none =>
      rw [readCondition, hlike] at hc
      rw [readCondition, hlike'] at hd
      simp only at hc hd
      cases hoperator : splitFirst (fun t => (comparison? t).isSome || isUnsupported t) ts with
      | none => simp [hoperator] at hc
      | some parts =>
        obtain ⟨left, operator, right⟩ := parts
        rw [hoperator] at hc
        rw [splitFirst_eq_some_append hoperator] at hd
        simp only at hc hd
        cases hcomparison : comparison? operator with
        | none => simp [hcomparison] at hc
        | some comparison =>
          simp only [hcomparison] at hc hd
          exact ne_of_makeCondition (fun _ => rfl) hu hc hd

/-- What stands behind a list of parts belongs to the last one, up to the next separator. -/
theorem exists_splitTopLevel_append {isSeparator : Token → Bool} (hu : isSeparator u = false)
    (depth : Nat) (ts rest : List Token) : ∃ parts last next more,
      splitTopLevel isSeparator depth ts = parts ++ [last] ∧
      splitTopLevel isSeparator depth (ts ++ u :: rest) = parts ++ (last ++ u :: next) :: more := by
  induction ts generalizing depth with
  | nil =>
    obtain ⟨next, more, hrest⟩ := List.exists_cons_of_ne_nil
      (splitTopLevel_ne_nil isSeparator (depthAfter depth u) rest)
    exact ⟨[], [], next, more, rfl, by simp [splitTopLevel, hu, hrest]⟩
  | cons t ts ih =>
    by_cases hsep : depth = 0 ∧ isSeparator t = true
    · obtain ⟨parts, last, next, more, hparts, happend⟩ := ih depth
      refine ⟨[] :: parts, last, next, more, ?_, ?_⟩
      · rw [splitTopLevel, if_pos hsep, hparts, List.cons_append]
      · rw [List.cons_append, splitTopLevel, if_pos hsep, happend, List.cons_append]
    · obtain ⟨parts, last, next, more, hparts, happend⟩ := ih (depthAfter depth t)
      cases parts with
      | nil =>
        refine ⟨[], t :: last, next, more, ?_, ?_⟩
        · rw [splitTopLevel, if_neg hsep, hparts]
          rfl
        · rw [List.cons_append, splitTopLevel, if_neg hsep, happend]
          rfl
      | cons part parts =>
        refine ⟨(t :: part) :: parts, last, next, more, ?_, ?_⟩
        · rw [splitTopLevel, if_neg hsep, hparts]
          rfl
        · rw [List.cons_append, splitTopLevel, if_neg hsep, happend]
          rfl

/-- **What stands behind the conditions changes them.** -/
theorem ne_of_readConditions_append {cs ds : List Condition} (hu : 0 < inkOf [u])
    (hconnective : isConnective u = false) (hcs : readConditions ts = .ok cs)
    (hds : readConditions (ts ++ u :: rest) = .ok ds) : cs ≠ ds := by
  obtain ⟨parts, last, next, more, hparts, happend⟩ :=
    exists_splitTopLevel_append hconnective 0 ts rest
  rw [readConditions, hparts, List.mapM_append] at hcs
  rw [readConditions, happend, List.mapM_append] at hds
  obtain ⟨front, hfront, hcs⟩ := exists_of_bind_eq_ok hcs
  obtain ⟨front', hfront', hds⟩ := exists_of_bind_eq_ok hds
  obtain rfl : front = front' := Except.ok.inj (hfront.symm.trans hfront')
  obtain ⟨lasts, hlast, hcs⟩ := exists_of_bind_eq_ok hcs
  obtain ⟨nexts, hnext, hds⟩ := exists_of_bind_eq_ok hds
  rw [List.mapM_cons] at hlast hnext
  obtain ⟨c, hc, hlast⟩ := exists_of_bind_eq_ok hlast
  obtain ⟨d, hd, hnext⟩ := exists_of_bind_eq_ok hnext
  obtain ⟨nexts', -, hnext⟩ := exists_of_bind_eq_ok hnext
  obtain rfl := Except.ok.inj hcs
  obtain rfl := Except.ok.inj hds
  obtain rfl := Except.ok.inj hlast
  obtain rfl := Except.ok.inj hnext
  intro heq
  have hhead := List.append_cancel_left heq
  exact ne_of_readCondition_append hu hc hd (List.cons.inj hhead).1

/-! ## 3. The body of `WHERE` -/

variable {c : Clause} {ks : List Keyword} {front body : List Token}

/-- No clause but `WHERE` is opened outside parentheses. -/
def OnlyWhere (ts : List Token) : Prop := ∀ c ∈ clausesFrom 0 ts, c = .where

theorem onlyWhere_blanks_append (n : Nat) : OnlyWhere (blanks n ++ ts) ↔ OnlyWhere ts := by
  rw [OnlyWhere, ← clausesFrom_skipBlanks, skipBlanks_blanks, clausesFrom_skipBlanks, OnlyWhere]

theorem onlyWhere_cons (hu : u.isKeyword .WHERE = true) : OnlyWhere (u :: ts) ↔ OnlyWhere ts := by
  have hopened : opened? u ts = some .where := (opened?_eq_some_iff .where).mpr ⟨hu, rfl⟩
  rw [OnlyWhere, clausesFrom, depthAfter_of_isKeyword hu, if_pos rfl, hopened, OnlyWhere]
  simp

/-- What is left of a body when the clauses behind `WHERE` are split off. -/
def cutBody (ts : List Token) : List Token :=
  (splitClause .GROUP [.BY] (splitClause .ORDER [.BY] (splitClause .LIMIT [] ts).1).1).1

/-- The list, or what stands in it before the keyword of a clause. -/
def Cut (front ts : List Token) : Prop :=
  front = ts ∨ ∃ c k ks u rest, Opens c k ks ∧ u.isKeyword k = true ∧ ts = front ++ u :: rest

theorem Cut.trans {us : List Token} (h : Cut front us) (h' : Cut us ts) : Cut front ts := by
  rcases h with rfl | ⟨c, k, ks, u, rest, hopens, hu, rfl⟩
  · exact h'
  · rcases h' with rfl | ⟨-, -, -, u', rest', -, -, rfl⟩
    · exact Or.inr ⟨c, k, ks, u, rest, hopens, hu, rfl⟩
    · exact Or.inr ⟨c, k, ks, u, rest ++ u' :: rest', hopens, hu, by simp⟩

theorem cut_splitClause (h : Opens c k ks) (ts : List Token) :
    Cut (splitClause k ks ts).1 ts := by
  unfold splitClause
  split
  · rename_i before body hsplit
    obtain ⟨u, rest, hts, hu, -⟩ := exists_append_of_splitAtKeywords h.ne_by hsplit
    exact Or.inr ⟨c, k, ks, u, rest, h, hu, hts⟩
  · exact Or.inl rfl

theorem cut_cutBody (ts : List Token) : Cut (cutBody ts) ts :=
  (cut_splitClause .groupBy _).trans ((cut_splitClause .orderBy _).trans (cut_splitClause .limit _))

theorem splitClause_of_not_mem (h : Opens c k ks) (hc : c ∉ clausesFrom 0 ts) :
    splitClause k ks ts = (ts, none) := by
  unfold splitClause
  split
  · rename_i before body hsplit
    rw [clausesFrom_of_splitAtKeywords h hsplit] at hc
    exact absurd (by simp) hc
  · rfl

theorem OnlyWhere.splitClause (hts : OnlyWhere ts) (h : Opens c k ks) (hc : c ≠ .where) :
    splitClause k ks ts = (ts, none) :=
  splitClause_of_not_mem h fun hm => hc (hts c hm)

/-- A body without other clauses is not cut. -/
theorem OnlyWhere.cutBody (hts : OnlyWhere ts) : cutBody ts = ts := by
  rw [Sql.cutBody, hts.splitClause .limit (by decide), hts.splitClause .orderBy (by decide),
    hts.splitClause .groupBy (by decide)]

/-- A body is not cut iff no other clause is opened in it. -/
theorem cutBody_eq_self_iff : cutBody ts = ts ↔ OnlyWhere ts := by
  refine ⟨fun h => ?_, OnlyWhere.cutBody⟩
  have hprefix := splitClause_isPrefix .LIMIT [] (by decide) ts
  have hprefix' := splitClause_isPrefix .ORDER [.BY] (by decide) (splitClause .LIMIT [] ts).1
  have hprefix'' := splitClause_isPrefix .GROUP [.BY] (by decide)
    (splitClause .ORDER [.BY] (splitClause .LIMIT [] ts).1).1
  have hlength := congrArg List.length h
  have hle := hprefix.length_le
  have hle' := hprefix'.length_le
  have hle'' := hprefix''.length_le
  rw [cutBody] at hlength
  -- Each of the three searches leaves the whole list.
  have hlimit : (splitClause .LIMIT [] ts).1 = ts := hprefix.eq_of_length (by omega)
  rw [hlimit] at hprefix' hle hle' hle'' hlength
  have horder : (splitClause .ORDER [.BY] ts).1 = ts := hprefix'.eq_of_length (by omega)
  have hgroup : (splitClause .GROUP [.BY] ts).1 = ts := by
    rw [cutBody, hlimit, horder] at h
    exact h
  intro c hc
  obtain ⟨k, ks, hopens⟩ := exists_opens_of_mem hc
  cases hopens with
  | «where» => rfl
  | groupBy => exact absurd (hgroup.symm ▸ hc) (clausesFrom_splitClause .groupBy ts).2
  | orderBy => exact absurd (horder.symm ▸ hc) (clausesFrom_splitClause .orderBy ts).2
  | limit => exact absurd (hlimit.symm ▸ hc) (clausesFrom_splitClause .limit ts).2

/-- **The conditions of a body and of what is left of it** are the same iff nothing is cut off. -/
theorem conditions_eq_iff {cs ds : List Condition} (hcs : readConditions (cutBody body) = .ok cs)
    (hds : readConditions body = .ok ds) : cs = ds ↔ OnlyWhere body := by
  constructor
  · intro heq
    rcases cut_cutBody body with hcut | ⟨c, k, ks, u, rest, hopens, hu, hcut⟩
    · exact cutBody_eq_self_iff.mp hcut
    · have hword : u.keyword? = some k := by simpa [Token.isKeyword] using hu
      have hconnective : isConnective u = false := by
        cases hopens <;> simp [isConnective, Token.isKeyword, hword]
      rw [hcut] at hds
      exact absurd heq
        (ne_of_readConditions_append (inkOf_pos_of_isKeyword hu) hconnective hcs hds)
  · intro hplain
    rw [hplain.cutBody] at hcs
    exact Except.ok.inj (hcs.symm.trans hds)

/-- A search passes over a part that does not open its clause. -/
theorem splitAtKeywords_append_of_not_mem (h : Opens c k ks) {k' : Keyword} (hk' : k' ≠ .BY)
    (hu : u.isKeyword k' = true) {depth : Nat} (hc : c ∉ clausesFrom depth front)
    (rest : List Token) : splitAtKeywords k ks depth (front ++ u :: rest) =
      (splitAtKeywords k ks (front.foldl depthAfter depth) (u :: rest)).map fun p =>
        (front ++ p.1, p.2) := by
  induction front generalizing depth with
  | nil => simp
  | cons t front ih =>
    rw [mem_clausesFrom_cons, not_or, not_and] at hc
    have hmatch : (if depthAfter depth t = 0 ∧ t.isKeyword k = true then
        matchKeywords ks (front ++ u :: rest) else none) = none := by
      split_ifs with hkey
      · have hopened := hc.1 hkey.1
        rw [← opened?_append hk' hu t front rest, opened?_eq_some_iff h] at hopened
        simpa [hkey.2] using hopened
      · rfl
    rw [List.cons_append, splitAtKeywords, hmatch, ih hc.2]
    simp [Option.map_map, Function.comp_def]

theorem splitClause_where (h : Opens c k ks) (hc : c ≠ .where) (hu : u.isKeyword .WHERE = true)
    (hlevel : front.foldl depthAfter 0 = 0) (hfront : clausesFrom 0 front = [])
    (body : List Token) : splitClause k ks (front ++ u :: body) =
      (front ++ u :: (splitClause k ks body).1, (splitClause k ks body).2) := by
  have hword : u.keyword? = some .WHERE := by simpa [Token.isKeyword] using hu
  have hnot : u.isKeyword k = false := by
    cases h <;> simp [Token.isKeyword, hword] at hc ⊢
  have hsplit : splitAtKeywords k ks 0 (front ++ u :: body) =
      (splitAtKeywords k ks 0 body).map fun p => (front ++ u :: p.1, p.2) := by
    rw [splitAtKeywords_append_of_not_mem h (by decide) hu (by simp [hfront]), hlevel,
      splitAtKeywords, if_neg (by simp [hnot]), depthAfter_of_isKeyword hu]
    simp [Option.map_map, Function.comp_def]
  rw [splitClause, splitClause, hsplit]
  cases splitAtKeywords k ks 0 body <;> rfl

/-- **Behind a front without clauses** the body of `WHERE` is cut, and the clauses that are split
off are those of the body. -/
theorem bodies_where (hu : u.isKeyword .WHERE = true) (hlevel : front.foldl depthAfter 0 = 0)
    (hfront : clausesFrom 0 front = []) (body : List Token) : bodies (front ++ u :: body) =
      { bodies body with head := front, conditions := some (cutBody body) } := by
  have hwhere : ∀ rest, splitClause .WHERE [] (front ++ u :: rest) = (front, some rest) := by
    intro rest
    have hsplit : splitAtKeywords .WHERE [] 0 (front ++ u :: rest) = some (front, rest) := by
      rw [splitAtKeywords_append_of_not_mem .where (by decide) hu (by simp [hfront]), hlevel,
        splitAtKeywords, if_pos ⟨depthAfter_of_isKeyword hu 0, hu⟩]
      simp [matchKeywords]
    rw [splitClause, hsplit]
  rw [bodies, splitClause_where .limit (by decide) hu hlevel hfront,
    splitClause_where .orderBy (by decide) hu hlevel hfront,
    splitClause_where .groupBy (by decide) hu hlevel hfront, hwhere]
  rfl

/-- Where no other clause is opened, only `WHERE` is split off. -/
theorem OnlyWhere.bodies_where (hbody : OnlyWhere body) (hu : u.isKeyword .WHERE = true)
    (hlevel : front.foldl depthAfter 0 = 0) (hfront : clausesFrom 0 front = []) :
    bodies (front ++ u :: body) = ⟨front, some body, none, none, none⟩ := by
  rw [Sql.bodies_where hu hlevel hfront, hbody.cutBody, bodies,
    hbody.splitClause .limit (by decide), hbody.splitClause .orderBy (by decide),
    hbody.splitClause .groupBy (by decide)]

theorem bodies_of_clausesFrom_eq_nil (h : clausesFrom 0 ts = []) :
    bodies ts = ⟨ts, none, none, none, none⟩ := by
  have hnone : ∀ {c k ks}, Opens c k ks → splitClause k ks ts = (ts, none) :=
    fun hopens => splitClause_of_not_mem hopens (by simp [h])
  simp only [bodies, hnone .limit, hnone .orderBy, hnone .groupBy, hnone .where]

end Sql
end Tabular
