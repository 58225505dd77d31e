/-
# A new row and the query for it

A row is added with a literal, and asked for with the same literal.  The two go different ways:
the cell holds the text between the quotes as it is, and a condition compares what is left of both
sides when blanks and one pair of quotes are dropped (`Value.coerce`).  So the row is found exactly
if its text has no blank ends and no quotes of its own around it (`insert_then_select`); then it
comes last in the result.
-/
import Tabular.Proofs.Relation.Reading
import Tabular.Proofs.Relation.Restrict
import Tabular.Proofs.Row
import Tabular.Proofs.Session.Run
import Tabular.Proofs.Sql.Acceptance
import Tabular.Proofs.Value

namespace Tabular

/-! ## 1. The statements -/

namespace Sql

/-- `INSERT INTO table (column) VALUES ('s')`. -/
def insertLexemes (table : Spelling) (column : Identifier) (s : String) : List Lexeme :=
  [.word (keyword .INSERT), .space, .word (keyword .INTO), .space, .word table, .space,
    .sign .leftParen, .word column.spelling, .sign .rightParen, .space, .word (keyword .VALUES),
    .space, .sign .leftParen, .string s, .sign .rightParen]

/-- `SELECT column FROM table WHERE column = 's'`. -/
def selectLexemes (table : Spelling) (column : Identifier) (s : String) : List Lexeme :=
  [.word (keyword .SELECT), .space, .word column.spelling, .space, .word (keyword .FROM), .space,
    .word table, .space, .word (keyword .WHERE), .space, .word column.spelling, .space,
    .sign .equal, .space, .string s]

/-- The query `SELECT column FROM table WHERE column = 's'` by its parts. -/
def selectPhrase (table : TableName) (column : Identifier) (s : String) : SelectPhrase where
  select := capitals .SELECT 0
  distinct := none
  fields := ⟨⟨1, .reference ⟨none, column.name⟩⟩, []⟩
  «from» := capitals .FROM 1
  table := ⟨1, table⟩
  join := none
  conditions := some (capitals .WHERE 1,
    ⟨⟨⟨1, ⟨none, column.name⟩⟩, ⟨1, .equal false⟩, ⟨1, .string s⟩⟩, []⟩)
  groupBy := none
  orderBy := none
  limit := none
  gap := 0

theorem parse_select {table : Spelling}
    (h : table.token.keyword?.all (· ∈ changeKeywords) = true) (column : Identifier)
    (s : String) : parse ("SELECT " ++ column.text ++ " FROM " ++ table.toString ++ " WHERE " ++
      column.text ++ " = " ++ literal s) =
        .ok (.select (selectPhrase ⟨table.text, table.quotedBy, h⟩ column s).query) := by
  have htokens : tokenize ("SELECT " ++ column.text ++ " FROM " ++ table.toString ++ " WHERE " ++
      column.text ++ " = " ++ literal s) =
        .ok ((selectLexemes table column s).map Lexeme.token) := by
    refine tokenize_of_write ?_ rfl ?_
    · simp [selectLexemes, write, Lexeme.chars, Spelling.toString, Identifier.spelling,
        Spelling.bare, Spelling.chars, keyword, Keyword.spelling, literal, Sign.char]
    · simp [selectLexemes, Lexeme.token, isTrailing]
  rw [parse_of_tokenize htokens]
  exact readQuery_phrase (selectPhrase ⟨table.text, table.quotedBy, h⟩ column s)

theorem readList_singleton {clause : Clause} {entry : String} {t : Token} {text : String}
    (h : Prints [t] text) (hcomma : isComma t = false) :
    readList clause entry [t] = .ok [text] := by
  have hrender : render [t] = text := h.render_blanks 0 0
  have hsplit : splitTopLevel isComma 0 [t] = [[t]] :=
    splitTopLevel_of_forall (List.forall_mem_singleton.mpr hcomma) 0
  rw [readList, hsplit, List.mapM_cons, hrender, if_neg h.ne_empty]
  rfl

theorem readInsert_lexemes (table : Spelling) (column : Identifier) (s : String) :
    readInsert ((insertLexemes table column s).map Lexeme.token) =
      .ok ⟨Text.lower table.text, [Text.lower column.text], ["'" ++ s ++ "'"]⟩ := by
  have hcolumn : readList .insert "column" [column.spelling.token] = .ok [column.text] :=
    readList_singleton column.name.prints rfl
  have hvalue : readList .values "value" [.string s] = .ok ["'" ++ s ++ "'"] :=
    readList_singleton (LiteralPhrase.string s).prints rfl
  have hparts : readInsert ((insertLexemes table column s).map Lexeme.token) =
      (readList .insert "column" [column.spelling.token] >>= fun columns =>
        readList .values "value" [.string s] >>= fun values =>
          if columns.length ≠ values.length then
            throw (.malformed .values (.countMismatch columns.length values.length))
          else pure ⟨Text.lower table.text, columns.map Text.lower, values⟩) := rfl
  rw [hparts, hcolumn, hvalue]
  rfl

theorem parse_insert (table : Spelling) (column : Identifier) (s : String) :
    parse ("INSERT INTO " ++ table.toString ++ " (" ++ column.text ++ ") VALUES (" ++ literal s ++
      ")") = .ok (.insert ⟨Text.lower table.text, [Text.lower column.text], ["'" ++ s ++ "'"]⟩) := by
  have htokens : tokenize ("INSERT INTO " ++ table.toString ++ " (" ++ column.text ++
      ") VALUES (" ++ literal s ++ ")") = .ok ((insertLexemes table column s).map Lexeme.token) := by
    refine tokenize_of_write ?_ rfl ?_
    · simp [insertLexemes, write, Lexeme.chars, Spelling.toString, Identifier.spelling,
        Spelling.bare, Spelling.chars, keyword, Keyword.spelling, literal, Sign.char]
    · simp [insertLexemes, Lexeme.token, isTrailing, Sign.symbol]
  have hkeyword : leadingKeyword? ((insertLexemes table column s).map Lexeme.token) =
      some .INSERT := rfl
  rw [parse_of_tokenize htokens, readQuery, hkeyword, readInsert_lexemes]
  rfl

end Sql

namespace Session

/-! ## 2. The new row -/

open Sql

variable {store : MemoryStore} {rows : List Row} {table : Spelling} {column : Identifier}

/-- The row that is added. -/
def newRow (column : Identifier) (s : String) : Row := Row.ofList [(column.text, .text s)]

theorem get?_newRow (column : Identifier) (s : String) :
    (newRow column s).get? column.text = some (.text s) := by
  rw [newRow, Row.get?_ofList]
  simp [Entries.get?]

/-- **The cell holds the text of the literal**, whatever the text is. -/
theorem run_insert (hcolumn : Text.lower column.text = column.text)
    (hfetch : store.fetch (Text.lower table.text) = .ok rows) (s : String) :
    run store ("INSERT INTO " ++ table.toString ++ " (" ++ column.text ++ ") VALUES (" ++
      literal s ++ ")") =
        .ok (.message ("1 row inserted into '" ++ Text.lower table.text ++ "'"),
          ⟨store.tables.set (Text.lower table.text) (rows ++ [newRow column s])⟩) := by
  have hrow : Insert.row ⟨Text.lower table.text, [Text.lower column.text], ["'" ++ s ++ "'"]⟩ =
      newRow column s := by
    simp only [Insert.row, newRow, hcolumn, List.map_cons, List.map_nil,
      Value.unquote_trim_literal, String.ofList_toList]
    rfl
  have happend : Store.append store (Text.lower table.text) (newRow column s) =
      .ok (⟨store.tables.set (Text.lower table.text) (rows ++ [newRow column s])⟩ : MemoryStore) := by
    show MemoryStore.append store _ _ = _
    rw [MemoryStore.append, hfetch]
    rfl
  rw [run_of_parse (parse_insert table column s), Query.run]
  simp only [Insert.run, hrow, happend]
  rfl

/-! ## 3. The query for it -/

/-- The rows that a literal finds in a column. -/
def matching (column : Identifier) (s : String) (row : Row) : Bool :=
  (row.get? column.text).any fun v => v.looselyEquals (.text ("'" ++ s ++ "'"))

/-- The cell of a column as a row. -/
def cellRow (column : Identifier) (row : Row) : Row :=
  Row.ofList [(column.text, (row.get? column.text).getD .null)]

theorem exists_get?_of_contains {row : Row} (h : row.contains column.text = true) :
    ∃ v, row.get? column.text = some v := Option.isSome_iff_exists.mp h

/-- Only cells of the column are compared. -/
theorem restrict_column (hrows : ∀ row ∈ rows, row.contains column.text = true) (s name : String) :
    Relation.restrict name [⟨column.text, .equal, "'" ++ s ++ "'"⟩] rows =
      .ok (rows.filter (matching column s)) := by
  refine Relation.filterOk_of_ok fun row hrow => ?_
  obtain ⟨v, hv⟩ := exists_get?_of_contains (hrows row hrow)
  have hresolve : row.resolve column.text name = .ok v := by
    rw [Row.resolve, Row.resolve?, hv]
  simp only [Row.satisfiesAll, Row.satisfies, hresolve, Except.map, Comparison.holds, matching, hv,
    Option.any_some]
  cases v.looselyEquals (.text ("'" ++ s ++ "'")) <;> rfl

/-- Rows that have the column are cut to its cell, and none is dropped. -/
theorem project_column (hrows : ∀ row ∈ rows, row.contains column.text = true) (name : String) :
    Relation.project [⟨column.text, none⟩] name rows = rows.map (cellRow column) := by
  have hstar : column.text ≠ "*" := by
    intro h
    have hbare := column.bare
    rw [h] at hbare
    exact absurd hbare (by decide)
  have hcut : ∀ row ∈ rows,
      Relation.projectRow [⟨column.text, none⟩] name row = cellRow column row := by
    intro row hrow
    obtain ⟨v, hv⟩ := exists_get?_of_contains (hrows row hrow)
    simp [Relation.projectRow, Relation.fieldCells, hstar, Row.resolve?, hv, cellRow]
  exact Relation.project_eq_map hcut fun _ _ => rfl

/-- The query gives the cells that equal the literal. -/
theorem run_select (htable : table.token.keyword?.all (· ∈ changeKeywords) = true)
    (hcolumn : Text.lower column.text = column.text)
    (hfetch : store.fetch (Text.lower table.text) = .ok rows)
    (hrows : ∀ row ∈ rows, row.contains column.text = true) (s : String) :
    run store ("SELECT " ++ column.text ++ " FROM " ++ table.toString ++ " WHERE " ++
      column.text ++ " = " ++ literal s) =
        .ok (.rows ((rows.filter (matching column s)).map (cellRow column)), store) := by
  have hquery : (selectPhrase ⟨table.text, table.quotedBy, htable⟩ column s).query =
      plainSelect [⟨Text.lower column.text, none⟩] (Text.lower table.text)
        [⟨Text.lower column.text, .equal, "'" ++ s ++ "'"⟩] := rfl
  have hkept : ∀ row ∈ rows.filter (matching column s), row.contains column.text = true :=
    fun row hrow => hrows row (List.mem_of_mem_filter hrow)
  have hparse := parse_select htable column s
  rw [hquery, hcolumn] at hparse
  refine run_select_of_parse hparse ?_
  rw [run_plainSelect hfetch (restrict_column hrows s _), project_column hkept]

/-! ## 4. Is the row found? -/

theorem matching_newRow_iff (column : Identifier) (s : String) :
    matching column s (newRow column s) = true ↔
      Text.trim s.toList = s.toList ∧ Text.unquote s.toList = s.toList := by
  rw [matching, get?_newRow, Option.any_some]
  exact Value.looselyEquals_literal_iff s

theorem cellRow_newRow (column : Identifier) (s : String) :
    cellRow column (newRow column s) = newRow column s := by
  rw [cellRow, get?_newRow]
  rfl

/-- Where a new text is not found, no row with the same text is. -/
theorem get?_ne_of_not_matching {s : String} (h : matching column s (newRow column s) = false)
    {row : Row} (hrow : row ∈ (rows.filter (matching column s)).map (cellRow column)) :
    row.get? column.text ≠ some (.text s) := by
  intro hget
  obtain ⟨row', hmem, rfl⟩ := List.mem_map.mp hrow
  have hmatching := (List.mem_filter.mp hmem).2
  rw [matching] at h hmatching
  rw [get?_newRow] at h
  cases hv : row'.get? column.text with
  | none => simp [hv] at hmatching
  | some v =>
    have hcell : (cellRow column row').get? column.text = some v := by
      rw [cellRow, Row.get?_ofList]
      simp [Entries.get?, hv]
    rw [hcell] at hget
    rw [hv, hget, h] at hmatching
    simp at hmatching

/-- **A new row is found by its literal** iff its text has no blank ends and no quotes around it.
It comes behind the rows that the query has found before; where it is not found, no row with its
text is. -/
theorem insert_then_select (htable : table.token.keyword? = none)
    (hcolumn : Text.lower column.text = column.text)
    (hfetch : store.fetch (Text.lower table.text) = .ok rows)
    (hrows : ∀ row ∈ rows, row.contains column.text = true) (s : String) :
    ∃ changed earlier found,
      run store ("INSERT INTO " ++ table.toString ++ " (" ++ column.text ++ ") VALUES (" ++
        literal s ++ ")") =
          .ok (.message ("1 row inserted into '" ++ Text.lower table.text ++ "'"), changed) ∧
      changed.fetch (Text.lower table.text) = .ok (rows ++ [newRow column s]) ∧
      run store ("SELECT " ++ column.text ++ " FROM " ++ table.toString ++ " WHERE " ++
        column.text ++ " = " ++ literal s) = .ok (.rows earlier, store) ∧
      run changed ("SELECT " ++ column.text ++ " FROM " ++ table.toString ++ " WHERE " ++
        column.text ++ " = " ++ literal s) = .ok (.rows found, changed) ∧
      (Text.trim s.toList = s.toList ∧ Text.unquote s.toList = s.toList →
        found = earlier ++ [newRow column s]) ∧
      (¬(Text.trim s.toList = s.toList ∧ Text.unquote s.toList = s.toList) →
        found = earlier ∧ ∀ row ∈ found, row.get? column.text ≠ some (.text s)) := by
  have hname : table.token.keyword?.all (· ∈ changeKeywords) = true := by
    rw [htable]
    rfl
  have hfetched := fetch_set store (Text.lower table.text) (rows ++ [newRow column s])
  have hall : ∀ row ∈ rows ++ [newRow column s], row.contains column.text = true := by
    intro row hrow
    rcases List.mem_append.mp hrow with hrow | hrow
    · exact hrows row hrow
    · rw [List.mem_singleton.mp hrow, Row.contains, get?_newRow]
      rfl
  refine ⟨_, _, _, run_insert hcolumn hfetch s, hfetched, run_select hname hcolumn hfetch hrows s,
    run_select hname hcolumn hfetched hall s, ?_, ?_⟩
  · intro hplain
    have hfound := (matching_newRow_iff column s).mpr hplain
    simp [List.filter_append, hfound, cellRow_newRow]
  · intro hplain
    have hlost : matching column s (newRow column s) = false := by
      rw [← Bool.not_eq_true, matching_newRow_iff]
      exact hplain
    exact ⟨by simp [List.filter_append, hlost], fun row hrow => get?_ne_of_not_matching hlost hrow⟩

/-- A store with one table, whose one column holds an `x`. -/
def oneColumn : MemoryStore := MemoryStore.empty.create "t" [Row.ofList [("c", .text "x")]]

/-- A quote inside a text is written twice, and the row is found. -/
theorem insert_then_select_apostrophe : ∃ changed earlier,
    run oneColumn "INSERT INTO t (c) VALUES ('it''s')" =
      .ok (.message "1 row inserted into 't'", changed) ∧
    run changed "SELECT c FROM t WHERE c = 'it''s'" =
      .ok (.rows (earlier ++ [Row.ofList [("c", .text "it's")]]), changed) := by
  have htable : (Spelling.bare "t" (by decide)).token.keyword? = none := rfl
  have hcolumn : Text.lower (Identifier.mk "c" (by decide) (by decide)).text = "c" := by decide
  have hfetch : oneColumn.fetch (Text.lower (Spelling.bare "t" (by decide)).text) =
    .ok [Row.ofList [("c", .text "x")]] := rfl
  obtain ⟨changed, earlier, found, hinsert, -, -, hselect, hfound, -⟩ :=
    insert_then_select htable hcolumn hfetch (by decide) "it's"
  rw [hfound ⟨by decide, by decide⟩] at hselect
  exact ⟨changed, earlier, hinsert, hselect⟩

/-- **A text that starts with a blank is not found** by the literal that it was added with. -/
theorem padded_text_not_found : ∃ changed,
    run oneColumn "INSERT INTO t (c) VALUES (' a')" =
      .ok (.message "1 row inserted into 't'", changed) ∧
    changed.fetch "t" = .ok [Row.ofList [("c", .text "x")], Row.ofList [("c", .text " a")]] ∧
    run changed "SELECT c FROM t WHERE c = ' a'" = .ok (.rows [], changed) := by
  have htable : (Spelling.bare "t" (by decide)).token.keyword?.all (· ∈ changeKeywords) = true :=
    rfl
  have hcolumn : Text.lower (Identifier.mk "c" (by decide) (by decide)).text = "c" := by decide
  have hfetch : oneColumn.fetch (Text.lower (Spelling.bare "t" (by decide)).text) =
    .ok [Row.ofList [("c", .text "x")]] := rfl
  have hfetched := fetch_set oneColumn (Text.lower (Spelling.bare "t" (by decide)).text)
    ([Row.ofList [("c", .text "x")]] ++ [newRow ⟨"c", by decide, by decide⟩ " a"])
  have hselect := run_select htable hcolumn hfetched (by decide) " a"
  have hnone : (([Row.ofList [("c", .text "x")]] ++ [newRow ⟨"c", by decide, by decide⟩ " a"]).filter
      (matching ⟨"c", by decide, by decide⟩ " a")).map (cellRow ⟨"c", by decide, by decide⟩) = [] := by
    decide +kernel
  rw [hnone] at hselect
  exact ⟨_, run_insert hcolumn hfetch " a", hfetched, hselect⟩

end Session
end Tabular
