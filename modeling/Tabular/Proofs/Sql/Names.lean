/-
# Names in statements

The stores compare names of tables as they are, so it matters which names a statement can hold.
A table is named by the word behind `FROM`, `INTO` or `JOIN` (`exists_namedBehind`), and its name is
that word in lower case (`lower_of_mem_tables`).  A new row has as many values as columns
(`length_columns_of_parse`), so that the row it adds has exactly those columns
(`Insert.cells_row`).
-/
import Tabular.Proofs.Row
import Tabular.Proofs.Sql.ClauseOrder
import Tabular.Proofs.Text.Lowercase
import Tabular.Session
import Mathlib.Data.List.TakeWhile

namespace Tabular

namespace Sql

variable {clause : Clause} {k : Keyword} {t : Token} {ts us rest : List Token} {name : String}

/-! ## 1. Words behind keywords -/

/-- The token stands behind a keyword, with nothing but blanks between the two. -/
def StandsBehind (k : Keyword) (t : Token) (ts : List Token) : Prop :=
  ∃ front u gap rest, ts = front ++ u :: (gap ++ t :: rest) ∧ u.isKeyword k = true ∧
    ∀ s ∈ gap, s.isBlank = true

/-- The name is a word behind a keyword, in lower case. -/
def NamedBehind (k : Keyword) (ts : List Token) (name : String) : Prop :=
  ∃ text quotedBy, StandsBehind k (.word text quotedBy) ts ∧ name = Text.lower text

theorem StandsBehind.mem (h : StandsBehind k t ts) : t ∈ ts := by
  obtain ⟨front, u, gap, rest, rfl, -, -⟩ := h
  simp

theorem NamedBehind.mono (h : NamedBehind k ts name) (hsub : ts <:+: us) : NamedBehind k us name := by
  obtain ⟨text, quotedBy, ⟨front, u, gap, rest, rfl, hu, hgap⟩, hname⟩ := h
  obtain ⟨before, behind, rfl⟩ := hsub
  exact ⟨text, quotedBy, ⟨before ++ front, u, gap, rest ++ behind, by simp, hu, hgap⟩, hname⟩

theorem exists_append_skipBlanks (ts : List Token) :
    ∃ gap, ts = gap ++ skipBlanks ts ∧ ∀ s ∈ gap, s.isBlank = true :=
  ⟨ts.takeWhile Token.isBlank, List.takeWhile_append_dropWhile.symm,
    fun _ hs => List.mem_takeWhile_imp hs⟩

theorem exists_of_eatKeyword (h : eatKeyword k ts = some rest) :
    ∃ front u, ts = front ++ u :: rest ∧ u.isKeyword k = true := by
  obtain ⟨gap, hgap, -⟩ := exists_append_skipBlanks ts
  rw [eatKeyword, matchKeywords] at h
  split at h
  · simp at h
  · rename_i u rest' hskip
    split_ifs at h with hu
    obtain rfl : rest' = rest := by simpa [matchKeywords] using h
    exact ⟨gap, u, by rw [← hskip, ← hgap], hu⟩

theorem suffix_of_eatKeyword (h : eatKeyword k ts = some rest) : rest <:+ ts := by
  obtain ⟨front, u, rfl, -⟩ := exists_of_eatKeyword h
  exact ⟨front ++ [u], by simp⟩

theorem suffix_of_expectKeyword (h : expectKeyword clause k ts = .ok rest) : rest <:+ ts :=
  suffix_of_eatKeyword (eatKeyword_of_expectKeyword h)

theorem suffix_getD_eatKeyword (k : Keyword) (ts : List Token) :
    (eatKeyword k ts).getD ts <:+ ts := by
  cases h : eatKeyword k ts with
  | none => exact List.suffix_rfl
  | some rest => exact suffix_of_eatKeyword h

/-- A name that is read is the first word, in lower case. -/
theorem exists_of_readName (h : readName clause ts = .ok (name, rest)) :
    ∃ gap text quotedBy, ts = gap ++ .word text quotedBy :: rest ∧
      (∀ s ∈ gap, s.isBlank = true) ∧ name = Text.lower text := by
  obtain ⟨gap, hgap, hblank⟩ := exists_append_skipBlanks ts
  unfold readName at h
  split at h
  · rename_i text quotedBy rest' hskip
    obtain ⟨rfl, rfl⟩ := Prod.mk.inj (Except.ok.inj h)
    exact ⟨gap, text, quotedBy, by rw [← hskip, ← hgap], hblank, rfl⟩
  · simp at h

theorem suffix_of_readName (h : readName clause ts = .ok (name, rest)) : rest <:+ ts := by
  obtain ⟨gap, text, quotedBy, rfl, -, -⟩ := exists_of_readName h
  exact (List.suffix_cons _ _).trans (List.suffix_append _ _)

/-- **A name that is read behind a keyword** is the word that stands there. -/
theorem namedBehind_of_readName {front : List Token} {u : Token} (hu : u.isKeyword k = true)
    (h : readName clause ts = .ok (name, rest)) : NamedBehind k (front ++ u :: ts) name := by
  obtain ⟨gap, text, quotedBy, rfl, hblank, hname⟩ := exists_of_readName h
  exact ⟨text, quotedBy, ⟨front, u, gap, rest, rfl, hu, hblank⟩, hname⟩

theorem namedBehind_of_expectKeyword {clause' : Clause} (hkey : expectKeyword clause k ts = .ok us)
    (hname : readName clause' us = .ok (name, rest)) : NamedBehind k ts name := by
  obtain ⟨front, u, rfl, hu⟩ := exists_of_eatKeyword (eatKeyword_of_expectKeyword hkey)
  exact namedBehind_of_readName hu hname

/-! ## 2. Tables -/

theorem suffix_of_readJoinKind? {kind : JoinKind} (h : readJoinKind? ts = some (kind, rest)) :
    rest <:+ ts := by
  unfold readJoinKind? at h
  dsimp only at h
  split at h
  · rename_i hinner
    obtain ⟨-, rfl⟩ := Prod.mk.inj (Option.some.inj h)
    exact suffix_of_eatKeyword hinner
  · split at h
    · rename_i hleft
      obtain ⟨-, rfl⟩ := Prod.mk.inj (Option.some.inj h)
      exact (suffix_getD_eatKeyword _ _).trans (suffix_of_eatKeyword hleft)
    · split at h
      · rename_i hright
        obtain ⟨-, rfl⟩ := Prod.mk.inj (Option.some.inj h)
        exact (suffix_getD_eatKeyword _ _).trans (suffix_of_eatKeyword hright)
      · split_ifs at h
        obtain ⟨-, rfl⟩ := Prod.mk.inj (Option.some.inj h)
        exact List.suffix_rfl

theorem namedBehind_of_readJoin {join : Option Join} (h : readJoin ts = .ok (join, rest)) :
    ∀ j ∈ join, NamedBehind .JOIN ts j.table := by
  unfold readJoin at h
  split at h
  · obtain ⟨rfl, -⟩ := Prod.mk.inj (Except.ok.inj h)
    simp
  · rename_i kind afterKind hkind
    obtain ⟨afterJoin, hjoin, h⟩ := exists_of_bind_eq_ok h
    obtain ⟨⟨table, afterTable⟩, htable, h⟩ := exists_of_bind_eq_ok h
    obtain ⟨afterOn, -, h⟩ := exists_of_bind_eq_ok h
    obtain ⟨⟨left, afterLeft⟩, -, h⟩ := exists_of_bind_eq_ok h
    obtain ⟨afterEquality, -, h⟩ := exists_of_bind_eq_ok h
    obtain ⟨⟨right, afterRight⟩, -, h⟩ := exists_of_bind_eq_ok h
    obtain ⟨rfl, -⟩ := Prod.mk.inj (Except.ok.inj h)
    intro j hj
    rw [← Option.mem_some_iff.mp hj]
    exact (namedBehind_of_expectKeyword hjoin htable).mono (suffix_of_readJoinKind? hkind).isInfix

/-- The tables of a query for rows. -/
theorem namedBehind_of_readSelect {q : Select} (h : readSelect ts = .ok q) :
    NamedBehind .FROM ts q.table ∧ ∀ j ∈ q.join, NamedBehind .JOIN ts j.table := by
  obtain ⟨-, -, head, parts, afterTable, afterJoin, -, -, -, hselect, hparts, htable, hjoin⟩ :=
    exists_of_readSelect h
  obtain ⟨before, body⟩ := parts
  obtain ⟨u, rest, hfields, hu, hmatch, -⟩ :=
    exists_append_of_splitAtKeywords (by decide) (splitAtKeywords_of_splitFields hparts)
  obtain rfl : rest = body := Option.some.inj hmatch
  -- All of it is a part of the statement, from `SELECT` up to the first optional clause.
  have hwhole : before ++ u :: rest <:+: ts := by
    rw [← hfields]
    exact ((suffix_getD_eatKeyword _ _).trans (suffix_of_expectKeyword hselect)).isInfix.trans
      (head_isPrefix ts).isInfix
  have hbody : afterTable <:+ before ++ u :: rest :=
    (suffix_of_readName htable).trans ((List.suffix_cons _ _).trans (List.suffix_append _ _))
  exact ⟨(namedBehind_of_readName hu htable).mono hwhole,
    fun j hj => (namedBehind_of_readJoin hjoin j hj).mono (hbody.isInfix.trans hwhole)⟩

/-- What it takes that a new row is accepted: its parts can be read, and there is a value for every
column. -/
theorem exists_of_readInsert {q : Insert} (h : readInsert ts = .ok q) :
    ∃ columnTokens valueTokens columns, NamedBehind .INTO ts q.table ∧
      readList .insert "column" columnTokens = .ok columns ∧
      readList .values "value" valueTokens = .ok q.values ∧
      q.columns = columns.map Text.lower ∧ q.columns.length = q.values.length := by
  unfold readInsert at h
  obtain ⟨afterInsert, hinsert, h⟩ := exists_of_bind_eq_ok h
  obtain ⟨afterInto, hinto, h⟩ := exists_of_bind_eq_ok h
  obtain ⟨⟨table, afterTable⟩, htable, h⟩ := exists_of_bind_eq_ok h
  obtain ⟨⟨columnTokens, afterColumns⟩, -, h⟩ := exists_of_bind_eq_ok h
  obtain ⟨afterKeyword, -, h⟩ := exists_of_bind_eq_ok h
  obtain ⟨⟨valueTokens, afterValues⟩, -, h⟩ := exists_of_bind_eq_ok h
  obtain ⟨-, -, h⟩ := exists_of_bind_eq_ok h
  obtain ⟨columns, hcolumns, h⟩ := exists_of_bind_eq_ok h
  obtain ⟨values, hvalues, h⟩ := exists_of_bind_eq_ok h
  split at h
  · exact absurd h (by simp [throw, throwThe, MonadExceptOf.throw, bind, Except.bind])
  · rename_i hlen
    obtain rfl := Except.ok.inj h
    exact ⟨columnTokens, valueTokens, columns, (namedBehind_of_expectKeyword hinto htable).mono
      (suffix_of_expectKeyword hinsert).isInfix, hcolumns, hvalues, rfl, by simpa using hlen⟩

theorem of_readInsert {q : Insert} (h : readInsert ts = .ok q) :
    NamedBehind .INTO ts q.table ∧ q.columns.length = q.values.length := by
  obtain ⟨-, -, -, htable, -, -, -, hlen⟩ := exists_of_readInsert h
  exact ⟨htable, hlen⟩

/-- What it takes that a removal is accepted: its table and its conditions can be read. -/
theorem exists_of_readDelete {q : Delete} (h : readDelete ts = .ok q) :
    ∃ conditions, NamedBehind .FROM ts q.table ∧
      readOptional readConditions (splitClause .WHERE [] ts).2 = .ok conditions ∧
      q.conditions = conditions.getD [] := by
  have hprefix := splitClause_isPrefix .WHERE [] (by decide) ts
  rcases hw : splitClause .WHERE [] ts with ⟨ts₁, whereBody⟩
  simp only [readDelete, hw] at h
  rw [hw] at hprefix
  obtain ⟨afterDelete, hdelete, h⟩ := exists_of_bind_eq_ok h
  obtain ⟨afterFrom, hfrom, h⟩ := exists_of_bind_eq_ok h
  obtain ⟨⟨table, afterTable⟩, htable, h⟩ := exists_of_bind_eq_ok h
  obtain ⟨-, -, h⟩ := exists_of_bind_eq_ok h
  obtain ⟨conditions, hconditions, h⟩ := exists_of_bind_eq_ok h
  obtain rfl := Except.ok.inj h
  exact ⟨conditions, (namedBehind_of_expectKeyword hfrom htable).mono
    ((suffix_of_expectKeyword hdelete).isInfix.trans hprefix.isInfix), hconditions, rfl⟩

theorem namedBehind_of_readDelete {q : Delete} (h : readDelete ts = .ok q) :
    NamedBehind .FROM ts q.table := by
  obtain ⟨-, htable, -⟩ := exists_of_readDelete h
  exact htable

/-- A statement is read by the reader of its kind. -/
theorem readQuery_cases {q : Query} (h : readQuery ts = .ok q) :
    (∃ s, q = .select s ∧ readSelect ts = .ok s) ∨ (∃ i, q = .insert i ∧ readInsert ts = .ok i) ∨
      ∃ d, q = .delete d ∧ readDelete ts = .ok d := by
  unfold readQuery at h
  split at h
  · cases hs : readSelect ts with
    | error e => simp [hs, asSelectError, Except.map] at h
    | ok s =>
      rw [hs] at h
      exact Or.inl ⟨s, (Except.ok.inj h).symm, rfl⟩
  · cases hi : readInsert ts with
    | error e => simp [hi, Except.map] at h
    | ok i =>
      rw [hi] at h
      exact Or.inr (Or.inl ⟨i, (Except.ok.inj h).symm, rfl⟩)
  · cases hd : readDelete ts with
    | error e => simp [hd, Except.map] at h
    | ok d =>
      rw [hd] at h
      exact Or.inr (Or.inr ⟨d, (Except.ok.inj h).symm, rfl⟩)
  · simp at h

/-- **A table is named by the word behind a keyword.** -/
theorem exists_namedBehind {q : Query} (h : readQuery ts = .ok q) :
    ∀ name ∈ q.tables, ∃ k ∈ [Keyword.FROM, .INTO, .JOIN], NamedBehind k ts name := by
  intro name hname
  rcases readQuery_cases h with ⟨s, rfl, hs⟩ | ⟨i, rfl, hi⟩ | ⟨d, rfl, hd⟩
  · obtain ⟨htable, hjoin⟩ := namedBehind_of_readSelect hs
    rcases List.mem_cons.mp hname with rfl | hname
    · exact ⟨.FROM, by simp, htable⟩
    · rw [Option.mem_toList, Option.map_eq_some_iff] at hname
      obtain ⟨j, hj, rfl⟩ := hname
      exact ⟨.JOIN, by simp, hjoin j hj⟩
  · rw [List.mem_singleton.mp hname]
    exact ⟨.INTO, by simp, (of_readInsert hi).1⟩
  · rw [List.mem_singleton.mp hname]
    exact ⟨.FROM, by simp, namedBehind_of_readDelete hd⟩

/-- **Every table of a statement is in lower case.** -/
theorem lower_of_mem_tables {sql : String} {q : Query} (h : parse sql = .ok q) :
    ∀ name ∈ q.tables, Text.lower name = name := by
  obtain ⟨ts, -, hread⟩ := exists_of_bind_eq_ok h
  intro name hname
  obtain ⟨-, -, text, -, -, rfl⟩ := exists_namedBehind hread name hname
  exact Text.lower_lower text

/-! ## 3. New rows -/

theorem length_columns_of_parse {sql : String} {i : Insert} (h : parse sql = .ok (.insert i)) :
    i.columns.length = i.values.length := by
  obtain ⟨ts, -, hread⟩ := exists_of_bind_eq_ok h
  rcases readQuery_cases hread with ⟨s, hs, -⟩ | ⟨i', hi, hread⟩ | ⟨d, hd, -⟩
  · simp at hs
  · obtain rfl := Query.insert.inj hi
    exact (of_readInsert hread).2
  · simp at hd

end Sql

/-- The row that is added has the columns that were listed, and cells of text. -/
theorem Insert.cells_row {i : Insert} (hnd : i.columns.Nodup)
    (hlen : i.columns.length = i.values.length) :
    i.row.columns = i.columns ∧ ∀ c v, i.row.get? c = some v → ∃ s, v = .text s := by
  have hnames : Entries.names (i.columns.zip (i.values.map fun value =>
      Value.text (String.ofList (Text.unquote (Text.trim value.toList))))) = i.columns :=
    List.map_fst_zip (by simp [hlen])
  have hcells := Row.cells_ofList (hnames.symm ▸ hnd)
  constructor
  · rw [Row.columns, Insert.row, hcells, hnames]
  · intro c v hv
    rw [Row.get?, Insert.row, hcells] at hv
    obtain ⟨-, hm⟩ := List.of_mem_zip (Entries.mem_of_get?_eq_some hv)
    obtain ⟨value, -, rfl⟩ := List.mem_map.mp hm
    exact ⟨_, rfl⟩

end Tabular
