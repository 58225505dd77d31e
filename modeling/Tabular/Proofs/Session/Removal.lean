/-
# A removal and the query for the same rows

`SELECT * FROM t` shows what `DELETE FROM t` with the same text behind it is going to remove.  This
holds as far as the text has no clause but `WHERE`: then both statements have the same conditions
(`conditions_of_same_tail`), and each row goes the same way in both (`select_then_delete`).
Otherwise the removal has other conditions than the query.
-/
import Tabular.Proofs.Relation.Restrict
import Tabular.Proofs.Row
import Tabular.Proofs.Session.Run
import Tabular.Proofs.Sql.Parts
import Tabular.Proofs.Sql.Tails
import Mathlib.Data.List.TakeWhile

namespace Tabular

/-! ## 1. The tokens of the statements -/

namespace Sql

/-- `SELECT * FROM` and a space. -/
def selectFront : List Lexeme :=
  [.word (keyword .SELECT), .space, .sign .star, .space, .word (keyword .FROM), .space]

/-- `DELETE FROM` and a space. -/
def deleteFront : List Lexeme :=
  [.word (keyword .DELETE), .space, .word (keyword .FROM), .space]

/-- The tokens of a text that stands behind a space at the end of a statement. -/
def behindSpace (ts : List Token) : List Token := if ts = [] then [] else .blank :: ts

theorem clausesFrom_behindSpace (ts : List Token) :
    clausesFrom 0 (behindSpace ts) = clausesFrom 0 ts := by
  unfold behindSpace
  split
  · rename_i h
    rw [h]
  · rfl

/-- A text that is dropped from the end of a statement is dropped with the space before it. -/
theorem dropTrailing_append_blank {ts : List Token}
    (hlast : ∀ t ∈ ts.getLast?, isTrailing t = false) (us : List Token) :
    ((ts ++ .blank :: us).reverse.dropWhile isTrailing).reverse =
      ts ++ behindSpace (us.reverse.dropWhile isTrailing).reverse := by
  have hts := dropWhile_reverse_of_getLast hlast
  rw [List.reverse_append, List.reverse_cons, List.append_assoc, List.dropWhile_append]
  cases hus : us.reverse.dropWhile isTrailing with
  | nil =>
    have hblank : isTrailing .blank = true := rfl
    simp [behindSpace, hblank, hts]
  | cons u us' => simp [behindSpace]

/-- **A statement with a text behind it** has the tokens of both. -/
theorem statementTokens_append {front : List Lexeme} {word : Spelling} {sql tail : String}
    (hspaced : isSpaced (front ++ [.word word, .space]) = true)
    (hsql : sql.toList = write (front ++ [.word word, .space]) ++ tail.toList) :
    statementTokens sql = (statementTokens tail).map fun us =>
      front.map Lexeme.token ++ word.token :: behindSpace us := by
  have hends : ∀ l ∈ (front ++ [Lexeme.word word, .space]).getLast?, l.endsItself = true := by
    intro l hl
    obtain rfl : Lexeme.space = l := by simpa using hl
    rfl
  have htokens : tokens (write (front ++ [.word word, .space]) ++ tail.toList) =
      (tokens tail.toList).map ((front ++ [Lexeme.word word, .space]).map Lexeme.token ++ ·) :=
    tokens_write hspaced (Or.inr hends)
  rw [statementTokens, hsql, htokens, statementTokens]
  cases tokens tail.toList with
  | error e => rfl
  | ok us =>
    have hlast : ∀ t ∈ (front.map Lexeme.token ++ [word.token]).getLast?, isTrailing t = false := by
      intro t ht
      obtain rfl : word.token = t := by simpa using ht
      rfl
    have hdrop := dropTrailing_append_blank hlast us
    have hlist : (front ++ [Lexeme.word word, .space]).map Lexeme.token ++ us =
        (front.map Lexeme.token ++ [word.token]) ++ .blank :: us := by
      simp [Lexeme.token]
    simp only [Except.map, hlist, hdrop]
    simp

theorem tokenize_append {front : List Lexeme} {word : Spelling} {sql tail : String}
    {us : List Token} (hspaced : isSpaced (front ++ [.word word, .space]) = true)
    (hsql : sql.toList = write (front ++ [.word word, .space]) ++ tail.toList)
    (h : tokenize tail = .ok us) :
    tokenize sql = .ok (front.map Lexeme.token ++ word.token :: behindSpace us) := by
  rw [tokenize] at h ⊢
  rw [statementTokens_append hspaced hsql]
  cases htail : statementTokens tail with
  | error e => simp [htail] at h
  | ok us' =>
    rw [htail] at h
    obtain rfl := Except.ok.inj h
    rfl

theorem tokens_of_tokenize {front : List Lexeme} {table : Spelling} {sql tail : String}
    {ts : List Token} (hspaced : isSpaced (front ++ [.word table, .space]) = true)
    (hsql : sql.toList = write (front ++ [.word table, .space]) ++ tail.toList)
    (h : tokenize sql = .ok ts) : ∃ us, tokenize tail = .ok us ∧
      ts = front.map Lexeme.token ++ table.token :: behindSpace us := by
  rw [tokenize, statementTokens_append hspaced hsql] at h
  rw [tokenize]
  cases htail : statementTokens tail with
  | error e => simp [htail, Except.map] at h
  | ok us =>
    rw [htail] at h
    exact ⟨us, rfl, (Except.ok.inj h).symm⟩

/-! ## 2. What the statements are read as -/

variable {text : String} {quotedBy : Option Char} {ts : List Token}

/-- What can stand behind the table of a removal: nothing, or `WHERE` and conditions. -/
inductive RemovalTail : List Token → List Condition → Prop where
  | nothing (n : Nat) : RemovalTail (blanks n) []
  | «where» (n : Nat) {u : Token} {body : List Token} {conditions : List Condition}
      (hu : u.isKeyword .WHERE = true) (hbody : readConditions body = .ok conditions) :
      RemovalTail (blanks n ++ u :: body) conditions

theorem exists_blanks_of_skipBlanks (h : skipBlanks ts = []) : ∃ n, ts = blanks n := by
  refine ⟨ts.length, List.eq_replicate_of_mem fun t ht => ?_⟩
  have hblank := List.dropWhile_eq_nil_iff.mp h t ht
  cases t <;> simp_all [Token.isBlank]

theorem exists_blanks_of_expectEnd {clause : Clause} {part : String}
    (h : expectEnd clause part ts = .ok ()) : ∃ n, ts = blanks n := by
  rw [expectEnd] at h
  split at h
  · rename_i hskip
    exact exists_blanks_of_skipBlanks hskip
  · simp at h

theorem exists_of_readOptional_some {α : Type} {read : List Token → Except QueryError α}
    {body : List Token} {result : Option α} (h : readOptional read (some body) = .ok result) :
    ∃ a, read body = .ok a ∧ result = some a := by
  rw [readOptional] at h
  obtain ⟨a, hread, hresult⟩ := exists_of_map_eq_ok h
  exact ⟨a, hread, hresult.symm⟩

/-- The body of `WHERE` is split off behind the table, unless the table is `WHERE` itself. -/
theorem splitClause_deleteFront (hword : (Token.word text quotedBy).isKeyword .WHERE = false)
    (ts : List Token) :
    splitClause .WHERE [] (deleteFront.map Lexeme.token ++ .word text quotedBy :: ts) =
      (deleteFront.map Lexeme.token ++ .word text quotedBy :: (splitClause .WHERE [] ts).1,
        (splitClause .WHERE [] ts).2) := by
  have hfront : ∀ t ∈ deleteFront.map Lexeme.token ++ [.word text quotedBy],
      t.isKeyword .WHERE = false := by
    simp only [List.mem_append, List.mem_singleton]
    rintro t (ht | rfl)
    · revert t
      decide
    · exact hword
  simpa using splitClause_append_of_forall (k := .WHERE) hfront rfl ts

/-- What it takes that a removal is accepted: nothing is left between its table and `WHERE`. -/
theorem exists_of_readDelete_front {d : Delete}
    (hword : (Token.word text quotedBy).isKeyword .WHERE = false)
    (h : readDelete (deleteFront.map Lexeme.token ++ .word text quotedBy :: ts) = .ok d) :
    ∃ n conditions, (splitClause .WHERE [] ts).1 = blanks n ∧
      readOptional readConditions (splitClause .WHERE [] ts).2 = .ok conditions ∧
      d = ⟨Text.lower text, conditions.getD []⟩ := by
  have hdelete : ∀ rest, expectKeyword .delete .DELETE (deleteFront.map Lexeme.token ++ rest) =
      .ok (.blank :: (keyword .FROM).token :: .blank :: rest) := fun _ => rfl
  have hfrom : ∀ rest, expectKeyword .delete .FROM
      (.blank :: (keyword .FROM).token :: .blank :: rest) = .ok (.blank :: rest) := fun _ => rfl
  have hname : ∀ rest, readName .delete (.blank :: .word text quotedBy :: rest) =
      .ok (Text.lower text, rest) := fun _ => rfl
  rw [readDelete, splitClause_deleteFront hword] at h
  simp only [hdelete] at h
  obtain ⟨_, ⟨rfl⟩, h⟩ := exists_of_bind_eq_ok h
  rw [hfrom] at h
  obtain ⟨_, ⟨rfl⟩, h⟩ := exists_of_bind_eq_ok h
  rw [hname] at h
  obtain ⟨_, ⟨rfl⟩, h⟩ := exists_of_bind_eq_ok h
  obtain ⟨_, hend, h⟩ := exists_of_bind_eq_ok h
  obtain ⟨n, hblanks⟩ := exists_blanks_of_expectEnd hend
  obtain ⟨conditions, hread, h⟩ := exists_of_bind_eq_ok h
  exact ⟨n, conditions, hblanks, hread, (Except.ok.inj h).symm⟩

/-- **A removal** has conditions behind its table, and nothing else. -/
theorem removalTail_of_readDelete {d : Delete}
    (hword : (Token.word text quotedBy).isKeyword .WHERE = false)
    (h : readDelete (deleteFront.map Lexeme.token ++ .word text quotedBy :: ts) = .ok d) :
    d.table = Text.lower text ∧ RemovalTail ts d.conditions := by
  obtain ⟨n, conditions, hblanks, hread, rfl⟩ := exists_of_readDelete_front hword h
  refine ⟨rfl, ?_⟩
  cases hts : splitAtKeywords .WHERE [] 0 ts with
  | none =>
    rw [splitClause, hts] at hblanks hread
    obtain rfl : ts = blanks n := hblanks
    obtain rfl : none = conditions := Except.ok.inj hread
    exact .nothing n
  | some parts =>
    obtain ⟨before, body⟩ := parts
    obtain ⟨u, rest, rfl, hu, hmatch, -⟩ := exists_append_of_splitAtKeywords (by decide) hts
    obtain rfl : rest = body := Option.some.inj hmatch
    rw [splitClause, hts] at hblanks hread
    obtain rfl : before = blanks n := hblanks
    obtain ⟨cs, hbody, rfl⟩ := exists_of_readOptional_some hread
    exact .where n hu hbody

/-- The table that the head of a query names, and what follows it. -/
def readTable (head : List Token) : Except QueryError (String × List Token) := do
  let ts ← expectKeyword .select .SELECT head
  let parts ← splitFields ((eatKeyword .DISTINCT ts).getD ts)
  readName .from parts.2

/-- The head of a query goes up to its table at least. -/
theorem exists_head {q : Select}
    (h : readSelect (selectFront.map Lexeme.token ++ .word text quotedBy :: ts) = .ok q) :
    ∃ more, (bodies (selectFront.map Lexeme.token ++ .word text quotedBy :: ts)).head =
      selectFront.map Lexeme.token ++ .word text quotedBy :: more := by
  obtain ⟨-, -, head, parts, afterTable, -, -, -, -, hselect, hparts, hname, -⟩ :=
    exists_of_readSelect h
  have htable : readTable (bodies (selectFront.map Lexeme.token ++ .word text quotedBy :: ts)).head =
      .ok (q.table, afterTable) := by
    rw [readTable, hselect]
    simp only [bind, Except.bind, hparts, hname]
  obtain ⟨rest, hrest⟩ := head_isPrefix (selectFront.map Lexeme.token ++ .word text quotedBy :: ts)
  generalize (bodies (selectFront.map Lexeme.token ++ .word text quotedBy :: ts)).head = front at *
  -- No part of the front names a table.
  have hshort : ∀ n < 7, (readTable ((selectFront.map Lexeme.token).take n)).toOption = none := by
    decide
  have hnot : ¬front <+: selectFront.map Lexeme.token := by
    intro hprefix
    have hnone := hshort front.length (Nat.lt_succ_of_le hprefix.length_le)
    rw [← List.prefix_iff_eq_take.mp hprefix, htable] at hnone
    simp [Except.toOption] at hnone
  rcases List.append_eq_append_iff.mp hrest with ⟨more, hfront, -⟩ | ⟨more, hhead, htail⟩
  · exact absurd ⟨more, hfront.symm⟩ hnot
  · cases more with
    | nil =>
      rw [List.append_nil] at hhead
      exact absurd (hhead ▸ List.prefix_rfl) hnot
    | cons t more =>
      obtain ⟨rfl, -⟩ := List.cons.inj htail
      exact ⟨more, hhead⟩

theorem clausesFrom_selectFront (rest : List Token) :
    clausesFrom 0 (selectFront.map Lexeme.token ++ rest) = clausesFrom 0 rest := rfl

/-- The table of an accepted query opens no clause, though it may be a keyword. -/
theorem opened?_table {q : Select} (n : Nat)
    (h : readSelect (selectFront.map Lexeme.token ++ .word text quotedBy :: ts) = .ok q) :
    opened? (.word text quotedBy) (blanks n) = none := by
  obtain ⟨more, hhead⟩ := exists_head h
  obtain ⟨hnil, -⟩ := clausesFrom_eq (selectFront.map Lexeme.token ++ .word text quotedBy :: ts)
  have hlevel : depthAfter 0 (.word text quotedBy) = 0 := rfl
  rw [hhead, clausesFrom_selectFront, clausesFrom, if_pos hlevel, List.append_eq_nil_iff] at hnil
  have hmore : opened? (.word text quotedBy) more = none := by simpa using hnil.1
  have hby : matchKeywords [.BY] (blanks n) = none := eatKeyword_blanks n
  unfold opened? at hmore ⊢
  split <;> simp_all

theorem table_ne_where {q : Select}
    (h : readSelect (selectFront.map Lexeme.token ++ .word text quotedBy :: ts) = .ok q) :
    (Token.word text quotedBy).isKeyword .WHERE = false := by
  have hopened := opened?_table 0 h
  rw [← Bool.not_eq_true]
  intro hwhere
  have hsome : opened? (.word text quotedBy) (blanks 0) = some .where :=
    (opened?_eq_some_iff .where).mpr ⟨hwhere, rfl⟩
  simp [hopened] at hsome

/-- The searches for clauses pass over the table, even where it is a word like `ORDER`. -/
theorem clausesFrom_table {q : Select} (n : Nat)
    (h : readSelect (selectFront.map Lexeme.token ++ .word text quotedBy :: ts) = .ok q) :
    clausesFrom 0 (selectFront.map Lexeme.token ++ .word text quotedBy :: blanks n) = [] := by
  have hlevel : depthAfter 0 (.word text quotedBy) = 0 := rfl
  rw [clausesFrom_selectFront, clausesFrom, if_pos hlevel, opened?_table n h, hlevel,
    ← clausesFrom_skipBlanks, skipBlanks_blanks_nil]
  rfl

/-- The query for all cells of the rows that the conditions hold on. -/
def wholeRows (table : String) (conditions : List Condition) : Select :=
  Session.plainSelect [⟨"*", none⟩] table conditions

/-- A query without other clauses than `WHERE` is for whole rows. -/
theorem readSelect_of_bodies {n : Nat} {body : Option (List Token)}
    {conditions : Option (List Condition)}
    (hbodies : bodies ts = ⟨selectFront.map Lexeme.token ++ .word text quotedBy :: blanks n, body,
      none, none, none⟩) (hbody : readOptional readConditions body = .ok conditions) :
    readSelect ts = .ok (wholeRows (Text.lower text) (conditions.getD [])) := by
  have hselect : ∀ rest, expectKeyword .select .SELECT (selectFront.map Lexeme.token ++ rest) =
      .ok (.blank :: .symbol .star :: .blank :: (keyword .FROM).token :: .blank :: rest) :=
    fun _ => rfl
  have hdistinct : ∀ rest, eatKeyword .DISTINCT (.blank :: .symbol .star :: .blank ::
      (keyword .FROM).token :: .blank :: rest) = none := fun _ => rfl
  have hfrom : ∀ rest, splitFields (.blank :: .symbol .star :: .blank ::
      (keyword .FROM).token :: .blank :: rest) =
        .ok ([.blank, .symbol .star, .blank], .blank :: rest) := fun _ => rfl
  have hfields : readFields [.blank, .symbol .star, .blank] = .ok [⟨"*", none⟩] := rfl
  have hname : ∀ rest, readName .from (.blank :: .word text quotedBy :: rest) =
      .ok (Text.lower text, rest) := fun _ => rfl
  have hlimit : readOptional readLimit none = .ok none := rfl
  have horder : readOptional readOrderBy none = .ok none := rfl
  have hgroup : readOptional readGroupBy none = .ok none := rfl
  rcases hl : splitClause .LIMIT [] ts with ⟨ts₁, limitBody⟩
  rcases ho : splitClause .ORDER [.BY] ts₁ with ⟨ts₂, orderBody⟩
  rcases hg : splitClause .GROUP [.BY] ts₂ with ⟨ts₃, groupBody⟩
  rcases hw : splitClause .WHERE [] ts₃ with ⟨ts₄, whereBody⟩
  simp only [bodies, hl, ho, hg, hw, Bodies.mk.injEq] at hbodies
  obtain ⟨rfl, rfl, rfl, rfl, rfl⟩ := hbodies
  rw [readSelect]
  simp only [hl, ho, hg, hw, hlimit, horder, hgroup, hbody, hselect, hdistinct, hfrom, hfields, hname,
    readJoin_blanks, expectEnd_blanks, bind, Except.bind]
  rfl

/-- **Both statements with the same text behind their table.**  The removal is about the table of
that name, and the query is for the same rows iff no clause but `WHERE` is opened behind it. -/
theorem conditions_of_same_tail {q : Select} {d : Delete}
    (hq : readSelect (selectFront.map Lexeme.token ++ .word text quotedBy :: ts) = .ok q)
    (hd : readDelete (deleteFront.map Lexeme.token ++ .word text quotedBy :: ts) = .ok d) :
    d.table = Text.lower text ∧ (OnlyWhere ts → q = wholeRows (Text.lower text) d.conditions) ∧
      (q.conditions = d.conditions → OnlyWhere ts) := by
  obtain ⟨htable, htail⟩ := removalTail_of_readDelete (table_ne_where hq) hd
  have hfront := fun n => clausesFrom_table n hq
  refine ⟨htable, ?_⟩
  generalize hconditions : d.conditions = conditions at htail
  cases htail with
  | nothing n =>
    have honly : OnlyWhere (blanks n) := by
      rw [OnlyWhere, ← clausesFrom_skipBlanks, skipBlanks_blanks_nil]
      simp [clausesFrom]
    have hread := readSelect_of_bodies (bodies_of_clausesFrom_eq_nil (hfront n)) rfl
    exact ⟨fun _ => Except.ok.inj (hq.symm.trans hread), fun _ => honly⟩
  | «where» n hu hbody =>
    rename_i u body
    have hblanks : Shows [] (blanks n) := Shows.blanks n
    have hlevel : (selectFront.map Lexeme.token ++ .word text quotedBy :: blanks n).foldl
        depthAfter 0 = 0 := hblanks.level 0
    have hlist : selectFront.map Lexeme.token ++ .word text quotedBy :: (blanks n ++ u :: body) =
        (selectFront.map Lexeme.token ++ .word text quotedBy :: blanks n) ++ u :: body := by simp
    rw [hlist] at hq
    rw [onlyWhere_blanks_append, onlyWhere_cons hu]
    constructor
    · intro honly
      have hbodies := honly.bodies_where hu hlevel (hfront n)
      have hread := readSelect_of_bodies hbodies (congrArg (Except.map some) hbody)
      exact Except.ok.inj (hq.symm.trans hread)
    · intro heq
      obtain ⟨-, read, -, -, -, -, -, hread, hconditions, -⟩ := exists_of_readSelect hq
      rw [bodies_where hu hlevel (hfront n)] at hread
      obtain ⟨cs, hcut, rfl⟩ := exists_of_readOptional_some hread
      exact (conditions_eq_iff hcut hbody).mp (hconditions.symm.trans heq)

/-- No clause but `WHERE` is opened in a text. -/
def OnlyWhereIn (text : String) : Prop := ∀ ts, tokenize text = .ok ts → OnlyWhere ts

theorem exists_of_readQuery_select {Q : Query}
    (h : readQuery (selectFront.map Lexeme.token ++ ts) = .ok Q) :
    ∃ q, Q = .select q ∧ readSelect (selectFront.map Lexeme.token ++ ts) = .ok q := by
  have hkeyword : leadingKeyword? (selectFront.map Lexeme.token ++ ts) = some .SELECT := rfl
  rw [readQuery, hkeyword] at h
  cases hread : readSelect (selectFront.map Lexeme.token ++ ts) with
  | error e => simp [hread, asSelectError, Except.map] at h
  | ok q =>
    rw [hread] at h
    exact ⟨q, (Except.ok.inj h).symm, rfl⟩

theorem exists_of_readQuery_delete {Q : Query}
    (h : readQuery (deleteFront.map Lexeme.token ++ ts) = .ok Q) :
    ∃ d, Q = .delete d ∧ readDelete (deleteFront.map Lexeme.token ++ ts) = .ok d := by
  have hkeyword : leadingKeyword? (deleteFront.map Lexeme.token ++ ts) = some .DELETE := rfl
  rw [readQuery, hkeyword] at h
  obtain ⟨d, hread, hQ⟩ := exists_of_map_eq_ok h
  exact ⟨d, hQ.symm, hread⟩

/-- What both statements are read as, from their texts. -/
theorem conditions_of_parse {table : Spelling} {tail : String} {Q R : Query}
    (hQ : parse ("SELECT * FROM " ++ table.toString ++ " " ++ tail) = .ok Q)
    (hR : parse ("DELETE FROM " ++ table.toString ++ " " ++ tail) = .ok R) :
    ∃ q d, Q = .select q ∧ R = .delete d ∧ d.table = Text.lower table.text ∧
      (OnlyWhereIn tail → q = wholeRows (Text.lower table.text) d.conditions) ∧
      (q.conditions = d.conditions → OnlyWhereIn tail) := by
  obtain ⟨ts, htokens, hQ⟩ := exists_of_parse hQ
  obtain ⟨ts', htokens', hR⟩ := exists_of_parse hR
  have hselect : ("SELECT * FROM " ++ table.toString ++ " " ++ tail).toList =
      write (selectFront ++ [.word table, .space]) ++ tail.toList := by
    simp [selectFront, write, Lexeme.chars, Spelling.toString, Spelling.bare, Spelling.chars,
      keyword, Keyword.spelling, Sign.char]
  have hdelete : ("DELETE FROM " ++ table.toString ++ " " ++ tail).toList =
      write (deleteFront ++ [.word table, .space]) ++ tail.toList := by
    simp [deleteFront, write, Lexeme.chars, Spelling.toString, Spelling.bare, Spelling.chars,
      keyword, Keyword.spelling]
  obtain ⟨us, htail, rfl⟩ := tokens_of_tokenize rfl hselect htokens
  obtain ⟨us', htail', rfl⟩ := tokens_of_tokenize rfl hdelete htokens'
  obtain rfl : us = us' := Except.ok.inj (htail.symm.trans htail')
  obtain ⟨q, rfl, hq⟩ := exists_of_readQuery_select hQ
  obtain ⟨d, rfl, hd⟩ := exists_of_readQuery_delete hR
  obtain ⟨htable, hsame, honly⟩ := conditions_of_same_tail hq hd
  have hiff : OnlyWhereIn tail ↔ OnlyWhere (behindSpace us) := by
    rw [OnlyWhere, clausesFrom_behindSpace]
    refine ⟨fun h => h us htail, fun h ts hts => ?_⟩
    rw [← Except.ok.inj (htail.symm.trans hts)]
    exact h
  exact ⟨q, d, rfl, rfl, htable, fun h => hsame (hiff.mp h), fun h => hiff.mpr (honly h)⟩

end Sql

/-! ## 3. What the statements do -/

namespace Session

open Sql

variable {store : MemoryStore} {rows : List Row} {p : Row → Bool}

/-- Whole rows are shown as they are, but for those without cells. -/
theorem project_star_eq_filter (name : String) (rows : List Row) :
    Relation.project [⟨"*", none⟩] name rows = rows.filter fun row => !row.isEmpty := by
  have hrow : ∀ row ∈ rows, Relation.projectRow [⟨"*", none⟩] name row = row := by
    intro row _
    refine Row.ext_cells ?_
    simp [Relation.projectRow, Relation.fieldCells, Row.cells_ofList row.nodup]
  rw [Relation.project, List.map_congr_left hrow, List.map_id']

theorem project_star (hcells : ∀ row ∈ rows, row.cells ≠ []) (name : String) :
    Relation.project [⟨"*", none⟩] name rows = rows := by
  rw [project_star_eq_filter, List.filter_eq_self]
  intro row hmem
  simp [Row.isEmpty, hcells row hmem]

/-- The query for whole rows gives the rows that the conditions hold on. -/
theorem run_wholeRows {name : String} {conditions : List Condition}
    (hfetch : store.fetch name = .ok rows) (hcells : ∀ row ∈ rows, row.cells ≠ [])
    (htest : ∀ row ∈ rows, row.satisfiesAll name conditions = .ok (p row)) :
    (wholeRows name conditions).run store = .ok (rows.filter p) := by
  have hkept : ∀ row ∈ rows.filter p, row.cells ≠ [] :=
    fun row hrow => hcells row (List.mem_of_mem_filter hrow)
  rw [wholeRows, run_plainSelect hfetch (Relation.filterOk_of_ok htest), project_star hkept]

/-- A removal that succeeds takes the rows that its conditions hold on. -/
theorem exists_of_run_delete {d : Delete} {r : String × MemoryStore}
    (hfetch : store.fetch d.table = .ok rows) (h : d.run store = .ok r) :
    ∃ p : Row → Bool, (∀ row ∈ rows, row.satisfiesAll d.table d.conditions = .ok (p row)) ∧
      r = ((rows.countP p).repr ++ " row(s) deleted from '" ++ d.table ++ "'",
        ⟨store.tables.set d.table (rows.filter (!p ·))⟩) := by
  have hremove : Store.remove store d.table (fun row => row.satisfiesAll d.table d.conditions) =
      (Relation.discard (fun row => row.satisfiesAll d.table d.conditions) rows).map fun parts =>
        (parts.1, (⟨store.tables.set d.table parts.2⟩ : MemoryStore)) := by
    show MemoryStore.remove store _ _ = _
    rw [MemoryStore.remove, hfetch]
    rfl
  rw [Delete.run, hremove] at h
  obtain ⟨_, hremoved, hr⟩ := exists_of_map_eq_ok h
  obtain ⟨parts, hdiscard, rfl⟩ := exists_of_map_eq_ok hremoved
  obtain ⟨p, hp⟩ := Relation.exists_of_discard hdiscard
  rw [Relation.discard_of_ok hp] at hdiscard
  obtain rfl := Except.ok.inj hdiscard
  exact ⟨p, hp, hr.symm⟩

/-- **A query and a removal with the same text behind their table.**  The removal takes the rows
that its conditions hold on and says how many.  The query shows just these rows if no clause but
`WHERE` is opened in the text, and only then it has the same conditions. -/
theorem select_then_delete {table : Spelling} {tail : String} {shown answer : Answer}
    {same changed : MemoryStore} (hfetch : store.fetch (Text.lower table.text) = .ok rows)
    (hcells : ∀ row ∈ rows, row.cells ≠ [])
    (hselect : run store ("SELECT * FROM " ++ table.toString ++ " " ++ tail) = .ok (shown, same))
    (hdelete : run store ("DELETE FROM " ++ table.toString ++ " " ++ tail) =
      .ok (answer, changed)) :
    ∃ (q : Select) (d : Delete) (p : Row → Bool),
      parse ("SELECT * FROM " ++ table.toString ++ " " ++ tail) = .ok (.select q) ∧
      parse ("DELETE FROM " ++ table.toString ++ " " ++ tail) = .ok (.delete d) ∧
      (∀ row ∈ rows, row.satisfiesAll (Text.lower table.text) d.conditions = .ok (p row)) ∧
      changed.fetch (Text.lower table.text) = .ok (rows.filter (!p ·)) ∧
      answer = .message ((rows.countP p).repr ++ " row(s) deleted from '" ++
        Text.lower table.text ++ "'") ∧
      (OnlyWhereIn tail ↔ q.conditions = d.conditions) ∧
      (OnlyWhereIn tail → shown = .rows (rows.filter p)) := by
  obtain ⟨Q, hQ, hselect⟩ := exists_of_run hselect
  obtain ⟨R, hR, hdelete⟩ := exists_of_run hdelete
  obtain ⟨q, d, rfl, rfl, htable, hsame, honly⟩ := conditions_of_parse hQ hR
  rw [← htable] at hfetch hsame
  simp only [Query.run] at hselect hdelete
  cases hdel : d.run store with
  | error e => simp [hdel, Except.map] at hdelete
  | ok r =>
    rw [hdel] at hdelete
    obtain ⟨p, hp, rfl⟩ := exists_of_run_delete hfetch hdel
    obtain ⟨rfl, rfl⟩ := Prod.mk.inj (Except.ok.inj hdelete)
    rw [← htable]
    refine ⟨q, d, p, hQ, hR, hp, fetch_set store d.table _, rfl,
      ⟨fun h => by rw [hsame h]; rfl, honly⟩, fun h => ?_⟩
    rw [hsame h, run_wholeRows hfetch hcells hp] at hselect
    exact (Prod.mk.inj (Except.ok.inj hselect)).1.symm

/-- Three rows with one column. -/
def numbers : List Row :=
  [Row.ofList [("a", .text "1")], Row.ofList [("a", .text "2")], Row.ofList [("a", .text "3")]]

/-- A store whose one table has these rows. -/
def oneToThree : MemoryStore := MemoryStore.empty.create "t" numbers

theorem run_delete_oneToThree {sql : String} {d : Delete} {text : String}
    {tables : Entries (List Row)} (hparse : (parse sql).toOption = some (.delete d))
    (hrun : ((d.run oneToThree).map fun r => (r.1, r.2.tables)).toOption = some (text, tables)) :
    run oneToThree sql = .ok (.message text, ⟨tables⟩) := by
  rw [run_of_parse (eq_ok_of_toOption hparse)]
  cases hd : d.run oneToThree with
  | error e => simp [hd, Except.map, Except.toOption] at hrun
  | ok r =>
    have hr : (r.1, r.2.tables) = (text, tables) := by
      simpa [hd, Except.map, Except.toOption] using hrun
    obtain ⟨rfl, rfl⟩ := Prod.mk.inj hr
    simp only [Query.run, hd]
    rfl

/-- Two conditions on one column: two rows are shown, and these are removed. -/
theorem select_then_delete_two_rows : ∃ (p : Row → Bool) (changed : MemoryStore),
    numbers.filter p = [Row.ofList [("a", .text "2")], Row.ofList [("a", .text "3")]] ∧
    run oneToThree "SELECT * FROM t WHERE a != 1 AND a < 9" =
      .ok (.rows (numbers.filter p), oneToThree) ∧
    run oneToThree "DELETE FROM t WHERE a != 1 AND a < 9" =
      .ok (.message "2 row(s) deleted from 't'", changed) ∧
    changed.fetch "t" = .ok (numbers.filter (!p ·)) := by
  have hquery : (parse "SELECT * FROM t WHERE a != 1 AND a < 9").toOption =
      some (.select (wholeRows "t" [⟨"a", .notEqual, "1"⟩, ⟨"a", .less, "9"⟩])) := by
    decide +kernel
  have hremoval : (parse "DELETE FROM t WHERE a != 1 AND a < 9").toOption =
      some (.delete ⟨"t", [⟨"a", .notEqual, "1"⟩, ⟨"a", .less, "9"⟩]⟩) := by
    decide +kernel
  have hrun : (Select.run (wholeRows "t" [⟨"a", .notEqual, "1"⟩, ⟨"a", .less, "9"⟩])
      oneToThree).toOption = some [Row.ofList [("a", .text "2")], Row.ofList [("a", .text "3")]] := by
    decide +kernel
  have hrun' : ((Delete.run ⟨"t", [⟨"a", .notEqual, "1"⟩, ⟨"a", .less, "9"⟩]⟩ oneToThree).map
      fun r => (r.1, r.2.tables)).toOption =
        some ("2 row(s) deleted from 't'", [("t", [Row.ofList [("a", .text "1")]])]) := by
    decide +kernel
  have hselect := run_select_of_parse (eq_ok_of_toOption hquery) (eq_ok_of_toOption hrun)
  have hdelete := run_delete_oneToThree hremoval hrun'
  have honly : OnlyWhereIn "WHERE a != 1 AND a < 9" := by
    have htokens : (tokenize "WHERE a != 1 AND a < 9").toOption.map (clausesFrom 0) =
      some [.where] := by decide +kernel
    intro ts hts
    rw [hts] at htokens
    have hlist : clausesFrom 0 ts = [.where] := Option.some.inj htokens
    rw [OnlyWhere, hlist]
    simp
  have hfetch : oneToThree.fetch (Text.lower (Spelling.bare "t" (by decide)).text) =
    .ok numbers := rfl
  have hcells : ∀ row ∈ numbers, row.cells ≠ [] := by decide
  have htext : "SELECT * FROM " ++ (Spelling.bare "t" (by decide)).toString ++ " " ++
      "WHERE a != 1 AND a < 9" = "SELECT * FROM t WHERE a != 1 AND a < 9" := by decide
  have htext' : "DELETE FROM " ++ (Spelling.bare "t" (by decide)).toString ++ " " ++
      "WHERE a != 1 AND a < 9" = "DELETE FROM t WHERE a != 1 AND a < 9" := by decide
  rw [← htext] at hselect
  rw [← htext'] at hdelete
  obtain ⟨-, -, p, -, -, -, hfetched, -, -, hshown⟩ :=
    select_then_delete hfetch hcells hselect hdelete
  rw [htext] at hselect
  rw [htext'] at hdelete
  have hp := Answer.rows.inj (hshown honly)
  rw [hp] at hselect
  exact ⟨p, _, hp.symm, hselect, hdelete, hfetched⟩

/-- **A removal ignores a limit**: the query shows one row, and the removal takes all three, since
it compares with the literal `1 LIMIT 1`. -/
theorem delete_ignores_limit : ∃ changed,
    run oneToThree "SELECT * FROM t WHERE a != 1 LIMIT 1" =
      .ok (.rows [Row.ofList [("a", .text "2")]], oneToThree) ∧
    run oneToThree "DELETE FROM t WHERE a != 1 LIMIT 1" =
      .ok (.message "3 row(s) deleted from 't'", changed) ∧
    changed.fetch "t" = .ok [] := by
  have hselect : (parse "SELECT * FROM t WHERE a != 1 LIMIT 1").toOption =
      some (.select { wholeRows "t" [⟨"a", .notEqual, "1"⟩] with limit := some 1 }) := by
    decide +kernel
  have hdelete : (parse "DELETE FROM t WHERE a != 1 LIMIT 1").toOption =
      some (.delete ⟨"t", [⟨"a", .notEqual, "1 LIMIT 1"⟩]⟩) := by
    decide +kernel
  have hshown : (Select.run { wholeRows "t" [⟨"a", .notEqual, "1"⟩] with limit := some 1 }
      oneToThree).toOption = some [Row.ofList [("a", .text "2")]] := by decide +kernel
  have hremoved : ((Delete.run ⟨"t", [⟨"a", .notEqual, "1 LIMIT 1"⟩]⟩ oneToThree).map fun r =>
      (r.1, r.2.tables)).toOption = some ("3 row(s) deleted from 't'", [("t", [])]) := by
    decide +kernel
  exact ⟨_, run_select_of_parse (eq_ok_of_toOption hselect) (eq_ok_of_toOption hshown),
    run_delete_oneToThree hdelete hremoved, rfl⟩

end Session
end Tabular
