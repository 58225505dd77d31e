/-
# The order of the clauses

The grammar of a query for rows has its optional clauses in one order, each at most once:
`WHERE`, `GROUP BY`, `ORDER BY`, `LIMIT`.  The reader does not follow the grammar from the front.
It splits the clauses off from the end, each at the first occurrence of its keywords, and never
looks into a body for the keywords of another clause.

This file compares the two.  `clausesFrom` lists the clauses whose keywords stand outside
parentheses, by one pass over the tokens that knows nothing of the splits, and `bodies` are the
bodies that the reader splits off.

* `clausesFrom_eq`: the list is made of the split off clauses, each with what is inside its body;
* `clauses_of_readSelect`: for an accepted query, all clauses stand behind `FROM`, `LIMIT` stands
  last, and the rest are in order iff no body holds the keywords of a clause.

A body can hold them: everything but the body of `LIMIT` is kept as text, so that a misplaced
clause becomes a part of a sort key, a group field or a literal (`order_key_holds_where`).
-/
import Tabular.Proofs.Results
import Tabular.Sql.Statement
import Mathlib.Data.List.Basic

namespace Tabular
namespace Sql

/-! ## 1. The clauses in a list of tokens -/

/-- The optional clauses with the keywords that open them. -/
inductive Opens : Clause → Keyword → List Keyword → Prop where
  | «where» : Opens .where .WHERE []
  | groupBy : Opens .groupBy .GROUP [.BY]
  | orderBy : Opens .orderBy .ORDER [.BY]
  | limit : Opens .limit .LIMIT []

/-- The clause that a token opens, given the tokens behind it. -/
def opened? (t : Token) (ts : List Token) : Option Clause :=
  match t.keyword? with
  | some .WHERE => some .where
  | some .GROUP => if (matchKeywords [.BY] ts).isSome then some .groupBy else none
  | some .ORDER => if (matchKeywords [.BY] ts).isSome then some .orderBy else none
  | some .LIMIT => some .limit
  | _ => none

/-- The clauses that are opened outside parentheses, in the order of their keywords. -/
def clausesFrom : Nat → List Token → List Clause
  | _, [] => []
  | depth, t :: ts =>
    (if depthAfter depth t = 0 then (opened? t ts).toList else []) ++
      clausesFrom (depthAfter depth t) ts

/-- The order of the grammar. -/
def clauseOrder : List Clause := [.where, .groupBy, .orderBy, .limit]

variable {c : Clause} {k : Keyword} {ks : List Keyword} {t : Token} {ts : List Token}

theorem opened?_eq_some_iff (h : Opens c k ks) :
    opened? t ts = some c ↔ t.isKeyword k = true ∧ (matchKeywords ks ts).isSome = true := by
  unfold opened? Token.isKeyword
  cases hk : t.keyword? with
  | none => simp
  | some k' =>
    have hnil : matchKeywords [] ts = some ts := rfl
    cases hby : matchKeywords [.BY] ts <;> cases h <;> cases k' <;> simp [hnil, hby]

theorem exists_opens_of_opened? (h : opened? t ts = some c) : ∃ k ks, Opens c k ks := by
  unfold opened? at h
  split at h
  · obtain rfl := Option.some.inj h
    exact ⟨_, _, .where⟩
  · split_ifs at h
    obtain rfl := Option.some.inj h
    exact ⟨_, _, .groupBy⟩
  · split_ifs at h
    obtain rfl := Option.some.inj h
    exact ⟨_, _, .orderBy⟩
  · obtain rfl := Option.some.inj h
    exact ⟨_, _, .limit⟩
  · simp at h

theorem opened?_of_keyword?_eq_none (h : t.keyword? = none) (ts : List Token) :
    opened? t ts = none := by
  simp [opened?, h]

theorem mem_clausesFrom_cons {depth : Nat} : c ∈ clausesFrom depth (t :: ts) ↔
    (depthAfter depth t = 0 ∧ opened? t ts = some c) ∨ c ∈ clausesFrom (depthAfter depth t) ts := by
  rw [clausesFrom, List.mem_append]
  split
  · rename_i hd
    simp [hd]
  · rename_i hd
    simp [hd]

/-- Only the optional clauses are listed. -/
theorem exists_opens_of_mem {depth : Nat} (h : c ∈ clausesFrom depth ts) :
    ∃ k ks, Opens c k ks := by
  induction ts generalizing depth with
  | nil => simp [clausesFrom] at h
  | cons t ts ih =>
    rcases mem_clausesFrom_cons.mp h with ⟨-, hopened⟩ | hrest
    · exact exists_opens_of_opened? hopened
    · exact ih hrest

/-! ## 2. Keywords -/

theorem depthAfter_of_isKeyword (h : t.isKeyword k = true) (depth : Nat) :
    depthAfter depth t = depth := by
  cases t <;> simp_all [Token.isKeyword, Token.keyword?, depthAfter]

theorem not_isBlank_of_isKeyword (h : t.isKeyword k = true) : t.isBlank = false := by
  cases t <;> simp_all [Token.isKeyword, Token.keyword?, Token.isBlank]

theorem clausesFrom_skipBlanks (depth : Nat) (ts : List Token) :
    clausesFrom depth (skipBlanks ts) = clausesFrom depth ts := by
  induction ts with
  | nil => rfl
  | cons t ts ih =>
    cases t with
    | blank =>
      have hskip : skipBlanks (.blank :: ts) = skipBlanks ts := rfl
      have hopened : opened? .blank ts = none := rfl
      simp [hskip, ih, clausesFrom, hopened, depthAfter]
    | _ => rfl

/-- Behind the keywords of a clause its body is listed. -/
theorem clausesFrom_of_matchKeywords (h : Opens c k ks) {rest : List Token}
    (hmatch : matchKeywords ks ts = some rest) : clausesFrom 0 ts = clausesFrom 0 rest := by
  have hby : matchKeywords [.BY] ts = some rest → clausesFrom 0 ts = clausesFrom 0 rest := by
    intro hmatch
    rw [← clausesFrom_skipBlanks]
    rw [matchKeywords] at hmatch
    split at hmatch
    · simp at hmatch
    · rename_i t rest' hskip
      split_ifs at hmatch with hkey
      obtain rfl : rest' = rest := by simpa [matchKeywords] using hmatch
      have hopened : opened? t rest' = none := by
        have hk : t.keyword? = some .BY := by simpa [Token.isKeyword] using hkey
        simp [opened?, hk]
      simp [hskip, clausesFrom, depthAfter_of_isKeyword hkey, hopened]
  have hnil : matchKeywords [] ts = some rest → clausesFrom 0 ts = clausesFrom 0 rest := by
    intro hmatch
    rw [Option.some.inj hmatch]
  cases h with
  | «where» => exact hnil hmatch
  | groupBy => exact hby hmatch
  | orderBy => exact hby hmatch
  | limit => exact hnil hmatch

/-- A clause opens the same way whether or not another keyword stands behind the list. -/
theorem opened?_append (hk : k ≠ .BY) {u : Token} (hu : u.isKeyword k = true) (t : Token)
    (before rest : List Token) : opened? t (before ++ u :: rest) = opened? t before := by
  have hblank := not_isBlank_of_isKeyword hu
  have hnot : u.isKeyword .BY = false := by
    have hu : u.keyword? = some k := by simpa [Token.isKeyword] using hu
    simpa [Token.isKeyword, hu] using hk
  have hby : (matchKeywords [.BY] (before ++ u :: rest)).isSome =
      (matchKeywords [.BY] before).isSome := by
    induction before with
    | nil => simp [matchKeywords, skipBlanks, hblank, hnot]
    | cons s before ih =>
      cases hs : s.isBlank with
      | true => simpa [matchKeywords, skipBlanks, hs] using ih
      | false => simp [matchKeywords, skipBlanks, hs]; split <;> simp
  simp only [opened?, hby]

theorem Opens.ne_by (h : Opens c k ks) : k ≠ .BY := by
  cases h <;> decide

/-! ## 3. What a split finds -/

/-- A split leaves the clauses before it and those from its keyword on. -/
theorem exists_append_of_splitAtKeywords (hk : k ≠ .BY) {depth : Nat} {before body : List Token}
    (h : splitAtKeywords k ks depth ts = some (before, body)) :
    ∃ u rest, ts = before ++ u :: rest ∧ u.isKeyword k = true ∧
      matchKeywords ks rest = some body ∧
      clausesFrom depth ts = clausesFrom depth before ++ clausesFrom 0 (u :: rest) := by
  induction ts generalizing depth before with
  | nil => simp [splitAtKeywords] at h
  | cons t ts ih =>
    rw [splitAtKeywords] at h
    split at h
    · rename_i rest hmatch
      split_ifs at hmatch with hkey
      simp only [Option.some.injEq, Prod.mk.injEq] at h
      obtain ⟨rfl, rfl⟩ := h
      have hdepth : depth = 0 := by
        rw [← depthAfter_of_isKeyword hkey.2 depth]
        exact hkey.1
      exact ⟨t, ts, rfl, hkey.2, hmatch, by simp [hdepth, clausesFrom]⟩
    · obtain ⟨⟨before', body'⟩, hsplit, heq⟩ := Option.map_eq_some_iff.mp h
      simp only [Prod.mk.injEq] at heq
      obtain ⟨rfl, rfl⟩ := heq
      obtain ⟨u, rest, hts, hu, hmatch, hlist⟩ := ih hsplit
      have hopened : opened? t ts = opened? t before' := by
        rw [hts, opened?_append hk hu]
      refine ⟨u, rest, by simp [hts], hu, hmatch, ?_⟩
      rw [clausesFrom, clausesFrom, hlist, hopened, List.append_assoc]

theorem not_mem_of_splitAtKeywords (h : Opens c k ks) {depth : Nat} {before body : List Token}
    (hsplit : splitAtKeywords k ks depth ts = some (before, body)) :
    c ∉ clausesFrom depth before := by
  induction ts generalizing depth before with
  | nil => simp [splitAtKeywords] at hsplit
  | cons t ts ih =>
    rw [splitAtKeywords] at hsplit
    split at hsplit
    · simp only [Option.some.injEq, Prod.mk.injEq] at hsplit
      simp [← hsplit.1, clausesFrom]
    · rename_i hmatch
      obtain ⟨⟨before', body'⟩, hrest, heq⟩ := Option.map_eq_some_iff.mp hsplit
      simp only [Prod.mk.injEq] at heq
      obtain ⟨rfl, rfl⟩ := heq
      obtain ⟨u, rest, hts, hu, -, -⟩ := exists_append_of_splitAtKeywords h.ne_by hrest
      rw [mem_clausesFrom_cons, not_or]
      refine ⟨?_, ih hrest⟩
      rintro ⟨hdepth, hc⟩
      rw [← opened?_append h.ne_by hu t before' rest, ← hts, opened?_eq_some_iff h] at hc
      rw [if_pos ⟨hdepth, hc.1⟩] at hmatch
      simp [hmatch] at hc

/-- **A split takes the first clause of its kind**, and all others stay in order. -/
theorem clausesFrom_of_splitAtKeywords (h : Opens c k ks) {depth : Nat} {before body : List Token}
    (hsplit : splitAtKeywords k ks depth ts = some (before, body)) :
    clausesFrom depth ts = clausesFrom depth before ++ c :: clausesFrom 0 body := by
  obtain ⟨u, rest, -, hu, hmatch, hlist⟩ := exists_append_of_splitAtKeywords h.ne_by hsplit
  have hopened : opened? u rest = some c :=
    (opened?_eq_some_iff h).mpr ⟨hu, by simp [hmatch]⟩
  rw [hlist, clausesFrom, depthAfter_of_isKeyword hu, hopened,
    clausesFrom_of_matchKeywords h hmatch]
  rfl

theorem not_mem_of_splitAtKeywords_eq_none (h : Opens c k ks) {depth : Nat}
    (hsplit : splitAtKeywords k ks depth ts = none) : c ∉ clausesFrom depth ts := by
  induction ts generalizing depth with
  | nil => simp [clausesFrom]
  | cons t ts ih =>
    rw [splitAtKeywords] at hsplit
    split at hsplit
    · simp at hsplit
    · rename_i hmatch
      rw [mem_clausesFrom_cons, not_or]
      refine ⟨?_, ih (Option.map_eq_none_iff.mp hsplit)⟩
      rintro ⟨hdepth, hc⟩
      rw [opened?_eq_some_iff h] at hc
      rw [if_pos ⟨hdepth, hc.1⟩] at hmatch
      simp [hmatch] at hc

/-- The clauses of a part that may be missing: the clause itself and those in its body. -/
def clausesOf (c : Clause) : Option (List Token) → List Clause
  | none => []
  | some body => c :: clausesFrom 0 body

theorem clausesFrom_splitClause (h : Opens c k ks) (ts : List Token) :
    clausesFrom 0 ts =
        clausesFrom 0 (splitClause k ks ts).1 ++ clausesOf c (splitClause k ks ts).2 ∧
      c ∉ clausesFrom 0 (splitClause k ks ts).1 := by
  unfold splitClause
  split
  · rename_i before body hsplit
    exact ⟨clausesFrom_of_splitAtKeywords h hsplit, not_mem_of_splitAtKeywords h hsplit⟩
  · rename_i hsplit
    exact ⟨by simp [clausesOf], not_mem_of_splitAtKeywords_eq_none h hsplit⟩

/-! ## 4. The bodies of a query for rows -/

/-- The parts of a query for rows, as the reader splits them off. -/
structure Bodies where
  /-- What is left when all clauses are split off. -/
  head : List Token
  conditions : Option (List Token)
  groupBy : Option (List Token)
  orderBy : Option (List Token)
  limit : Option (List Token)

/-- Splits off the clauses, the last one first. -/
def bodies (ts : List Token) : Bodies :=
  let limit := splitClause .LIMIT [] ts
  let orderBy := splitClause .ORDER [.BY] limit.1
  let groupBy := splitClause .GROUP [.BY] orderBy.1
  let conditions := splitClause .WHERE [] groupBy.1
  ⟨conditions.1, conditions.2, groupBy.2, orderBy.2, limit.2⟩

/-- The clauses behind the head, body after body. -/
def Bodies.clauses (b : Bodies) : List Clause :=
  clausesOf .where b.conditions ++ (clausesOf .groupBy b.groupBy ++
    (clausesOf .orderBy b.orderBy ++ clausesOf .limit b.limit))

/-- **The clauses of a query** are the ones that are split off, each with those in its body.  No
body holds a clause that was split off before it. -/
theorem clausesFrom_eq (ts : List Token) :
    clausesFrom 0 (bodies ts).head = [] ∧ clausesFrom 0 ts = (bodies ts).clauses ∧
      .limit ∉ clausesOf .where (bodies ts).conditions ++ (clausesOf .groupBy (bodies ts).groupBy ++
        clausesOf .orderBy (bodies ts).orderBy) ∧
      .orderBy ∉ clausesOf .where (bodies ts).conditions ++ clausesOf .groupBy (bodies ts).groupBy ∧
      .groupBy ∉ clausesOf .where (bodies ts).conditions := by
  obtain ⟨hlimit, hlimit'⟩ := clausesFrom_splitClause .limit ts
  obtain ⟨horder, horder'⟩ := clausesFrom_splitClause .orderBy (splitClause .LIMIT [] ts).1
  obtain ⟨hgroup, hgroup'⟩ := clausesFrom_splitClause .groupBy
    (splitClause .ORDER [.BY] (splitClause .LIMIT [] ts).1).1
  obtain ⟨hwhere, hwhere'⟩ := clausesFrom_splitClause .where
    (splitClause .GROUP [.BY] (splitClause .ORDER [.BY] (splitClause .LIMIT [] ts).1).1).1
  rw [hwhere] at hgroup hgroup'
  rw [hgroup] at horder horder'
  rw [horder] at hlimit hlimit'
  have hhead : clausesFrom 0 (bodies ts).head = [] := by
    refine List.eq_nil_iff_forall_not_mem.mpr ?_
    intro c hc
    change c ∈ clausesFrom 0 (splitClause .WHERE [] (splitClause .GROUP [.BY]
      (splitClause .ORDER [.BY] (splitClause .LIMIT [] ts).1).1).1).1 at hc
    obtain ⟨k, ks, hopens⟩ := exists_opens_of_mem hc
    cases hopens with
    | «where» => exact hwhere' hc
    | groupBy => exact hgroup' (by simp [hc])
    | orderBy => exact horder' (by simp [hc])
    | limit => exact hlimit' (by simp [hc])
  have hhead' := hhead
  simp only [bodies] at hhead'
  rw [hhead'] at hlimit hlimit' horder' hgroup'
  simp only [List.nil_append, List.append_assoc] at hlimit hlimit' horder' hgroup'
  exact ⟨hhead, hlimit, hlimit', horder', hgroup'⟩

/-- No body holds the keywords of a clause. -/
def Bodies.Plain (b : Bodies) : Prop :=
  ∀ body ∈ b.conditions.toList ++ b.groupBy.toList ++ b.orderBy.toList ++ b.limit.toList,
    clausesFrom 0 body = []

theorem clausesOf_sublist {c : Clause} {body : Option (List Token)}
    (h : ∀ b ∈ body.toList, clausesFrom 0 b = []) : (clausesOf c body).Sublist [c] := by
  cases body with
  | none => exact List.nil_sublist _
  | some b => simp [clausesOf, h b (by simp)]

theorem Bodies.Plain.sublist {b : Bodies} (h : b.Plain) : b.clauses.Sublist clauseOrder := by
  have hbody : ∀ o : Option (List Token), (∀ x ∈ o.toList, x ∈ b.conditions.toList ++
      b.groupBy.toList ++ b.orderBy.toList ++ b.limit.toList) →
      ∀ x ∈ o.toList, clausesFrom 0 x = [] := fun o ho x hx => h x (ho x hx)
  have hwhere := clausesOf_sublist (c := .where) (hbody b.conditions (by simp +contextual))
  have hgroup := clausesOf_sublist (c := .groupBy) (hbody b.groupBy (by simp +contextual))
  have horder := clausesOf_sublist (c := .orderBy) (hbody b.orderBy (by simp +contextual))
  have hlimit := clausesOf_sublist (c := .limit) (hbody b.limit (by simp +contextual))
  exact hwhere.append (hgroup.append (horder.append hlimit))

/-- In a list with one `c`, only what is behind it follows it. -/
theorem mem_of_pair_sublist {x : Clause} {front later : List Clause} (hfront : c ∉ front)
    (h : [c, x].Sublist (front ++ c :: later)) : x ∈ later := by
  induction front with
  | nil => exact List.singleton_sublist.mp (List.cons_sublist_cons.mp h)
  | cons y front ih =>
    rw [List.mem_cons, not_or] at hfront
    rw [List.cons_append, List.sublist_cons_iff] at h
    rcases h with h | ⟨rest, hrest, -⟩
    · exact ih hfront.2 h
    · rw [List.cons.injEq] at hrest
      exact absurd hrest.1 hfront.1

/-- Where a part is in order and holds no later clause, its body holds none. -/
theorem clausesFrom_eq_nil_of_sublist (front later : List Clause) {o : Option (List Token)}
    {body : List Token} (hbody : body ∈ o.toList)
    (hsub : (clausesOf c o).Sublist (front ++ c :: later)) (hfront : c ∉ front)
    (hlater : ∀ x ∈ later, x ∉ clausesOf c o) : clausesFrom 0 body = [] := by
  obtain rfl : o = some body := by simpa using hbody
  refine List.eq_nil_iff_forall_not_mem.mpr ?_
  intro x hx
  have hpair : [c, x].Sublist (c :: clausesFrom 0 body) :=
    List.Sublist.cons_cons c (List.singleton_sublist.mpr hx)
  have hmem := mem_of_pair_sublist hfront (hpair.trans hsub)
  exact hlater x hmem (List.mem_cons_of_mem _ hx)

/-- **The clauses are in order iff no body holds one.** -/
theorem clausesFrom_sublist_iff (ts : List Token) :
    (clausesFrom 0 ts).Sublist clauseOrder ↔ (bodies ts).Plain := by
  obtain ⟨-, hall, hlimit, horder, hgroup⟩ := clausesFrom_eq ts
  simp only [List.mem_append, not_or] at hlimit horder
  rw [hall]
  constructor
  · intro h body hbody
    rw [Bodies.clauses] at h
    have hrest := (List.sublist_append_right _ _).trans h
    have hrest' := (List.sublist_append_right _ _).trans hrest
    simp only [List.mem_append] at hbody
    rcases hbody with ((hbody | hbody) | hbody) | hbody
    · exact clausesFrom_eq_nil_of_sublist [] [.groupBy, .orderBy, .limit]
        hbody ((List.sublist_append_left _ _).trans h) (by decide)
        (by simp [hgroup, horder.1, hlimit.1])
    · exact clausesFrom_eq_nil_of_sublist [.where] [.orderBy, .limit]
        hbody ((List.sublist_append_left _ _).trans hrest) (by decide)
        (by simp [horder.2, hlimit.2.1])
    · exact clausesFrom_eq_nil_of_sublist [.where, .groupBy] [.limit]
        hbody ((List.sublist_append_left _ _).trans hrest') (by decide) (by simp [hlimit.2.2])
    · exact clausesFrom_eq_nil_of_sublist [.where, .groupBy, .orderBy] []
        hbody ((List.sublist_append_right _ _).trans hrest') (by decide) (by simp)
  · exact Bodies.Plain.sublist

/-! ## 5. The table behind `FROM` -/

theorem splitAtKeywords_append {depth : Nat} {before rest : List Token}
    (h : splitAtKeywords k [] depth ts = some (before, rest)) (more : List Token) :
    splitAtKeywords k [] depth (ts ++ more) = some (before, rest ++ more) := by
  induction ts generalizing depth before with
  | nil => simp [splitAtKeywords] at h
  | cons t ts ih =>
    rw [splitAtKeywords] at h
    rw [List.cons_append, splitAtKeywords]
    by_cases hkey : depthAfter depth t = 0 ∧ t.isKeyword k = true
    · simp only [if_pos hkey, matchKeywords, Option.some.injEq, Prod.mk.injEq] at h ⊢
      exact ⟨h.1, by rw [h.2]⟩
    · simp only [if_neg hkey] at h ⊢
      obtain ⟨⟨before', rest'⟩, hsplit, heq⟩ := Option.map_eq_some_iff.mp h
      simp only [Prod.mk.injEq] at heq
      obtain ⟨rfl, rfl⟩ := heq
      rw [ih hsplit]
      rfl

/-- A keyword in front does not hide another one. -/
theorem exists_splitAtKeywords_of_eatKeyword {k' : Keyword} (hne : k' ≠ k)
    {ts' before rest : List Token} (heat : eatKeyword k' ts = some ts')
    (h : splitAtKeywords k [] 0 ts' = some (before, rest)) :
    ∃ before', splitAtKeywords k [] 0 ts = some (before', rest) := by
  induction ts with
  | nil => simp [eatKeyword, matchKeywords, skipBlanks] at heat
  | cons t ts ih =>
    cases hblank : t.isBlank with
    | true =>
      obtain rfl : t = .blank := by cases t <;> simp_all [Token.isBlank]
      obtain ⟨before', hsplit⟩ := ih heat
      refine ⟨.blank :: before', ?_⟩
      have hdepth : depthAfter 0 .blank = 0 := rfl
      have hnot : Token.blank.isKeyword k = false := rfl
      simp [splitAtKeywords, hdepth, hnot, hsplit]
    | false =>
      simp only [eatKeyword, matchKeywords, skipBlanks, List.dropWhile_cons, hblank,
        Bool.false_eq_true, if_false] at heat
      split_ifs at heat with hkey
      obtain rfl := Option.some.inj heat
      have hnot : t.isKeyword k = false := by
        have hk : t.keyword? = some k' := by simpa [Token.isKeyword] using hkey
        simpa [Token.isKeyword, hk] using hne
      refine ⟨t :: before, ?_⟩
      simp [splitAtKeywords, hnot, depthAfter_of_isKeyword hkey, h]

theorem splitClause_isPrefix (k : Keyword) (ks : List Keyword) (hk : k ≠ .BY) (ts : List Token) :
    (splitClause k ks ts).1 <+: ts := by
  unfold splitClause
  split
  · rename_i before body hsplit
    obtain ⟨u, rest, hts, -⟩ := exists_append_of_splitAtKeywords hk hsplit
    exact ⟨u :: rest, hts.symm⟩
  · exact List.prefix_rfl

theorem head_isPrefix (ts : List Token) : (bodies ts).head <+: ts := by
  have hlimit := splitClause_isPrefix .LIMIT [] (by decide) ts
  have horder := splitClause_isPrefix .ORDER [.BY] (by decide) (splitClause .LIMIT [] ts).1
  have hgroup := splitClause_isPrefix .GROUP [.BY] (by decide)
    (splitClause .ORDER [.BY] (splitClause .LIMIT [] ts).1).1
  exact (splitClause_isPrefix .WHERE [] (by decide) _).trans
    (hgroup.trans (horder.trans hlimit))

/-! ## 6. Accepted queries -/

/-- The query is what its parts are read as, one after the other. -/
structure Bodies.IsReadAs (b : Bodies) (q : Select) (limit : Option (Option Nat))
    (conditions : Option (List Condition)) (head : List Token) (parts : List Token × List Token)
    (afterTable afterJoin : List Token) : Prop where
  limit_eq : readOptional readLimit b.limit = .ok limit
  orderBy_eq : readOptional readOrderBy b.orderBy = .ok q.orderBy
  groupBy_eq : readOptional readGroupBy b.groupBy = .ok q.groupBy
  where_eq : readOptional readConditions b.conditions = .ok conditions
  select_eq : expectKeyword .select .SELECT b.head = .ok head
  parts_eq : splitFields ((eatKeyword .DISTINCT head).getD head) = .ok parts
  fields_eq : readFields parts.1 = .ok q.fields
  table_eq : readName .from parts.2 = .ok (q.table, afterTable)
  join_eq : readJoin afterTable = .ok (q.join, afterJoin)
  conditions_eq : q.conditions = conditions.getD []
  distinct_eq : q.distinct = (eatKeyword .DISTINCT head).isSome
  distinctFields_eq : q.distinctFields = distinctFields q.distinct q.fields
  aggregated_eq : q.aggregated = (q.fields.any (·.aggregate.isSome) && q.groupBy.isNone)

/-- What it takes that a query for rows is accepted: its parts can be read. -/
theorem exists_isReadAs {ts : List Token} {q : Select} (h : readSelect ts = .ok q) :
    ∃ limit conditions head parts afterTable afterJoin,
      (bodies ts).IsReadAs q limit conditions head parts afterTable afterJoin := by
  rcases hl : splitClause .LIMIT [] ts with ⟨ts₁, limitBody⟩
  rcases ho : splitClause .ORDER [.BY] ts₁ with ⟨ts₂, orderBody⟩
  rcases hg : splitClause .GROUP [.BY] ts₂ with ⟨ts₃, groupBody⟩
  rcases hw : splitClause .WHERE [] ts₃ with ⟨ts₄, whereBody⟩
  have hbodies : bodies ts = ⟨ts₄, whereBody, groupBody, orderBody, limitBody⟩ := by
    simp only [bodies, hl, ho, hg, hw]
  simp only [readSelect, hl, ho, hg, hw] at h
  rw [hbodies]
  obtain ⟨limit, hlimit, h⟩ := exists_of_bind_eq_ok h
  obtain ⟨orderBy, horder, h⟩ := exists_of_bind_eq_ok h
  obtain ⟨groupBy, hgroup, h⟩ := exists_of_bind_eq_ok h
  obtain ⟨conditions, hwhere, h⟩ := exists_of_bind_eq_ok h
  obtain ⟨head, hhead, h⟩ := exists_of_bind_eq_ok h
  rcases hd : eatKeyword .DISTINCT head with _ | rest
  all_goals
    simp only [hd] at h
    obtain ⟨parts, hparts, h⟩ := exists_of_bind_eq_ok h
    obtain ⟨fields, hfields, h⟩ := exists_of_bind_eq_ok h
    obtain ⟨⟨table, afterTable⟩, htable, h⟩ := exists_of_bind_eq_ok h
    obtain ⟨⟨join, afterJoin⟩, hjoin, h⟩ := exists_of_bind_eq_ok h
    obtain ⟨-, -, h⟩ := exists_of_bind_eq_ok h
    obtain rfl := Except.ok.inj h
    exact ⟨limit, conditions, head, parts, afterTable, afterJoin, hlimit, horder, hgroup, hwhere,
      hhead, by simpa [hd] using hparts, hfields, htable, hjoin, rfl, by simp [hd], rfl, rfl⟩

/-- What it takes that a query for rows is accepted, apart from its fields, its groups and its sort
keys. -/
theorem exists_of_readSelect {ts : List Token} {q : Select} (h : readSelect ts = .ok q) :
    ∃ limit conditions head parts afterTable afterJoin,
      readOptional readLimit (bodies ts).limit = .ok limit ∧
      readOptional readConditions (bodies ts).conditions = .ok conditions ∧
      q.conditions = conditions.getD [] ∧
      expectKeyword .select .SELECT (bodies ts).head = .ok head ∧
      splitFields ((eatKeyword .DISTINCT head).getD head) = .ok parts ∧
      readName .from parts.2 = .ok (q.table, afterTable) ∧
      readJoin afterTable = .ok (q.join, afterJoin) := by
  obtain ⟨limit, conditions, head, parts, afterTable, afterJoin, hread⟩ := exists_isReadAs h
  exact ⟨limit, conditions, head, parts, afterTable, afterJoin, hread.limit_eq, hread.where_eq,
    hread.conditions_eq, hread.select_eq, hread.parts_eq, hread.table_eq, hread.join_eq⟩

theorem clausesFrom_eq_nil {depth : Nat} (h : ∀ t ∈ ts, t.keyword? = none) :
    clausesFrom depth ts = [] := by
  induction ts generalizing depth with
  | nil => rfl
  | cons t ts ih =>
    have hopened := opened?_of_keyword?_eq_none (h t List.mem_cons_self) ts
    simp [clausesFrom, hopened, ih fun s hs => h s (List.mem_cons_of_mem _ hs)]

/-- The body of `LIMIT` is a number, and so holds no clause. -/
theorem clausesFrom_of_readLimit {body : List Token} {limit : Option Nat}
    (h : readLimit body = .ok limit) : clausesFrom 0 body = [] := by
  have hnumber : ∀ t ∈ significant body, t.keyword? = none := by
    unfold readLimit at h
    split at h
    · rename_i hbody
      simp [hbody, Token.keyword?]
    · rename_i hbody
      simp [hbody, Token.keyword?]
    · simp at h
  refine clausesFrom_eq_nil fun t ht => ?_
  cases hblank : t.isBlank with
  | true => cases t <;> simp_all [Token.isBlank, Token.keyword?]
  | false => exact hnumber t (List.mem_filter.mpr ⟨ht, by simp [hblank]⟩)

theorem splitTopLevel_ne_nil (isSeparator : Token → Bool) (depth : Nat) (ts : List Token) :
    splitTopLevel isSeparator depth ts ≠ [] := by
  cases ts with
  | nil => simp [splitTopLevel]
  | cons t ts =>
    rw [splitTopLevel]
    split
    · simp
    · split <;> simp

/-- The body of `WHERE` holds a condition. -/
theorem ne_nil_of_readConditions {body : List Token} {conditions : List Condition}
    (h : readConditions body = .ok conditions) : conditions ≠ [] :=
  ne_nil_of_mapM h (splitTopLevel_ne_nil isConnective 0 body)

theorem eatKeyword_of_expectKeyword {clause : Clause} {rest : List Token}
    (h : expectKeyword clause k ts = .ok rest) : eatKeyword k ts = some rest := by
  unfold expectKeyword at h
  split at h
  · rename_i rest' heat
    rw [heat, Except.ok.inj h]
  · simp at h

theorem splitAtKeywords_of_splitFields {parts : List Token × List Token}
    (h : splitFields ts = .ok parts) : splitAtKeywords .FROM [] 0 ts = some parts := by
  unfold splitFields at h
  split at h
  · rename_i parts' hsplit
    rw [hsplit, Except.ok.inj h]
  · simp at h

/-- All clauses of an accepted query stand behind its first `FROM`. -/
theorem exists_from_of_readSelect {ts : List Token} {q : Select} (h : readSelect ts = .ok q) :
    ∃ fields rest, splitAtKeywords .FROM [] 0 ts = some (fields, rest) ∧
      clausesFrom 0 fields = [] ∧ clausesFrom 0 rest = clausesFrom 0 ts := by
  obtain ⟨-, -, head, parts, -, -, -, -, -, hselect, hfields, -, -⟩ := exists_of_readSelect h
  obtain ⟨hhead, -⟩ := clausesFrom_eq ts
  have hsplit := splitAtKeywords_of_splitFields hfields
  obtain ⟨before, hbefore⟩ : ∃ before,
      splitAtKeywords .FROM [] 0 head = some (before, parts.2) := by
    cases heat : eatKeyword .DISTINCT head with
    | none => exact ⟨parts.1, by simpa [heat] using hsplit⟩
    | some rest =>
      have hrest : splitAtKeywords .FROM [] 0 rest = some (parts.1, parts.2) := by
        simpa [heat] using hsplit
      exact exists_splitAtKeywords_of_eatKeyword (by decide) heat hrest
  obtain ⟨fields, hfrom⟩ := exists_splitAtKeywords_of_eatKeyword (by decide)
    (eatKeyword_of_expectKeyword hselect) hbefore
  obtain ⟨more, hmore⟩ := head_isPrefix ts
  have hts := splitAtKeywords_append hfrom more
  rw [hmore] at hts
  obtain ⟨_, _, -, -, -, hlist⟩ := exists_append_of_splitAtKeywords (by decide) hfrom
  have hnil : clausesFrom 0 fields = [] := by
    rw [hhead] at hlist
    exact (List.append_eq_nil_iff.mp hlist.symm).1
  obtain ⟨u, rest, -, hu, hmatch, hlist'⟩ := exists_append_of_splitAtKeywords (by decide) hts
  have hopened : opened? u rest = none := by
    have hk : u.keyword? = some .FROM := by simpa [Token.isKeyword] using hu
    simp [opened?, hk]
  obtain rfl : rest = parts.2 ++ more := by simpa [matchKeywords] using hmatch
  refine ⟨fields, parts.2 ++ more, hts, hnil, ?_⟩
  rw [hlist', hnil, clausesFrom, depthAfter_of_isKeyword hu, hopened]
  simp

/-- An accepted query has conditions iff `WHERE` is the first of its clauses. -/
theorem conditions_ne_nil_iff {ts : List Token} {q : Select} (h : readSelect ts = .ok q) :
    q.conditions ≠ [] ↔ (clausesFrom 0 ts).head? = some .where := by
  obtain ⟨-, conditions, -, -, -, -, -, hread, hq, -⟩ := exists_of_readSelect h
  obtain ⟨-, hall, -⟩ := clausesFrom_eq ts
  rw [hq, hall, Bodies.clauses]
  cases hbody : (bodies ts).conditions with
  | none =>
    rw [hbody] at hread
    obtain rfl : conditions = none := (Except.ok.inj hread).symm
    cases (bodies ts).groupBy <;> cases (bodies ts).orderBy <;> cases (bodies ts).limit <;>
      simp [clausesOf]
  | some body =>
    rw [hbody, readOptional] at hread
    cases hconditions : readConditions body with
    | error e => simp [hconditions, Except.map] at hread
    | ok read =>
      rw [hconditions] at hread
      obtain rfl : conditions = some read := (Except.ok.inj hread).symm
      simp [clausesOf, ne_nil_of_readConditions hconditions]

/-- In an accepted query no clause stands behind `LIMIT`. -/
theorem limit_not_mem_dropLast {ts : List Token} {q : Select} (h : readSelect ts = .ok q) :
    .limit ∉ (clausesFrom 0 ts).dropLast := by
  obtain ⟨limit, -, -, -, -, -, hread, -⟩ := exists_of_readSelect h
  obtain ⟨-, hall, hlimit, -⟩ := clausesFrom_eq ts
  rw [hall, Bodies.clauses, ← List.append_assoc, ← List.append_assoc,
    List.append_assoc _ _ (clausesOf .orderBy _)]
  cases hbody : (bodies ts).limit with
  | none =>
    rw [clausesOf, List.append_nil]
    exact fun hm => hlimit ((List.dropLast_sublist _).subset hm)
  | some body =>
    rw [hbody, readOptional] at hread
    have hnil : clausesFrom 0 body = [] := by
      cases hlimit : readLimit body with
      | error e => simp [hlimit, Except.map] at hread
      | ok n => exact clausesFrom_of_readLimit hlimit
    rw [clausesOf, hnil, List.dropLast_concat]
    exact hlimit

/-- **The clauses of an accepted query.**  They all stand behind `FROM`, none behind `LIMIT`, and
`WHERE` counts only as the first one.  They are in order, and no `WHERE` without conditions, iff
no body holds the keywords of a clause. -/
theorem clauses_of_readSelect {ts : List Token} {q : Select} (h : readSelect ts = .ok q) :
    (∃ fields rest, splitAtKeywords .FROM [] 0 ts = some (fields, rest) ∧
      clausesFrom 0 fields = [] ∧ clausesFrom 0 rest = clausesFrom 0 ts) ∧
    .limit ∉ (clausesFrom 0 ts).dropLast ∧
    (q.conditions ≠ [] ↔ (clausesFrom 0 ts).head? = some .where) ∧
    ((clausesFrom 0 ts).Sublist clauseOrder ∧
        (.where ∈ clausesFrom 0 ts → q.conditions ≠ []) ↔ (bodies ts).Plain) := by
  have hconditions := conditions_ne_nil_iff h
  refine ⟨exists_from_of_readSelect h, limit_not_mem_dropLast h, hconditions, ?_⟩
  rw [← clausesFrom_sublist_iff, and_iff_left_iff_imp]
  intro hsub hwhere
  rw [hconditions]
  cases hlist : clausesFrom 0 ts with
  | nil => simp [hlist] at hwhere
  | cons c cs =>
    rw [hlist] at hsub hwhere
    rcases List.mem_cons.mp hwhere with rfl | hm
    · rfl
    · have hpair : [c, .where].Sublist clauseOrder :=
        (List.Sublist.cons_cons c (List.singleton_sublist.mpr hm)).trans hsub
      cases c <;> exact absurd hpair (by decide)

/-- The tokens of words with blanks between them. -/
def spaced (words : List Token) : List Token := words.intersperse .blank

/-- The tokens of `SELECT a FROM t`, with more behind. -/
def selectTokens (more : List Token) : List Token :=
  spaced ([.word "SELECT" none, .word "a" none, .word "FROM" none, .word "t" none] ++ more)

/-- The tokens of `WHERE c = 1`. -/
def whereTokens : List Token :=
  [.word "WHERE" none, .word "c" none, .symbol .equal, .number "1" false]

/-- The tokens of `ORDER BY b`. -/
def orderTokens : List Token := [.word "ORDER" none, .word "BY" none, .word "b" none]

/-- Two clauses in order both count. -/
theorem where_before_order : ∃ q, readSelect (selectTokens (whereTokens ++ orderTokens)) = .ok q ∧
    clausesFrom 0 (selectTokens (whereTokens ++ orderTokens)) = [.where, .orderBy] ∧
    q.conditions ≠ [] ∧ (bodies (selectTokens (whereTokens ++ orderTokens))).Plain := by
  have h : readSelect (selectTokens (whereTokens ++ orderTokens)) = .ok
      { fields := [⟨"a", none⟩], table := "t", distinct := false, distinctFields := [],
        conditions := [⟨"c", .equal, "1"⟩], join := none, groupBy := none, aggregated := false,
        orderBy := some [⟨"b", .ascending⟩], limit := none } := by
    rfl
  have hlist : clausesFrom 0 (selectTokens (whereTokens ++ orderTokens)) = [.where, .orderBy] := by
    rfl
  obtain ⟨-, -, -, hplain⟩ := clauses_of_readSelect h
  refine ⟨_, h, hlist, by simp, hplain.mp ⟨?_, by simp⟩⟩
  rw [hlist]
  decide

/-- A condition behind `ORDER BY` is swallowed by the sort key. -/
theorem order_key_holds_where : ∃ q,
    readSelect (selectTokens (orderTokens ++ whereTokens)) = .ok q ∧
      clausesFrom 0 (selectTokens (orderTokens ++ whereTokens)) = [.orderBy, .where] ∧
      q.conditions = [] ∧ q.orderBy = some [⟨"b where c = 1", .ascending⟩] :=
  ⟨{ fields := [⟨"a", none⟩], table := "t", distinct := false, distinctFields := [],
     conditions := [], join := none, groupBy := none, aggregated := false,
     orderBy := some [⟨"b where c = 1", .ascending⟩], limit := none },
    by rfl, by rfl, rfl, rfl⟩

end Sql
end Tabular
