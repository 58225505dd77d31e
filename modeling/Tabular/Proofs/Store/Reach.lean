/-
# Where the names of tables lead

The name of a table becomes a part of a path as it stands in a statement, and nothing looks at it
before.  So it depends on the word whether the path is that of a file of the directory.

* `localName?_pathOf_iff`: it is, if and only if the name has no slash;
* `exists_parse_iff`: between quotes every text in lower case is a name of a table;
* **`tables_of_parse`**: the name is the word behind `FROM`, `INTO` or `JOIN` in lower case, and it
  is a name of a table if and only if the word is not empty and has no slash.  A word without quotes
  is never empty, and has a slash only behind a sign that it starts with;
* `tables_outside`: so a statement can name a table without a name, and one in another directory.
-/
import Tabular.Proofs.Session.Insertion
import Tabular.Proofs.Sql.Names
import Tabular.Proofs.Sql.Words
import Tabular.Proofs.Store.Listing

namespace Tabular

namespace Directory

/-! ## 1. Paths -/

/-- **A name leads to its own file in the directory** if and only if it has no slash. -/
theorem localName?_pathOf_iff {name : String} (h : Text.lower name = name) :
    localName? (pathOf name) = some (pathOf name) ↔ '/' ∉ name.toList := by
  rw [← not_congr (slash_mem_pathOf_iff h)]
  exact ⟨slash_notMem_of_localName?, fun hlocal =>
    localName?_of_notMem hlocal (pathOf_notDots name)⟩

end Directory

namespace Sql

open Directory

/-! ## 2. Names and the words they are written as -/

theorem slash_mem_lower_iff (text : String) :
    '/' ∈ (Text.lower text).toList ↔ '/' ∈ text.toList := by
  constructor
  · intro h
    exact Text.mem_of_mem_lower h (by decide)
  · intro h
    exact Text.mem_lower_of_settled h (Text.settled_ascii (c := '/') (by decide))

/-- What is known of the name of a table by the word that it was written as. -/
structure IsNameOf (text : String) (quotedBy : Option Char) (name : String) : Prop where
  name_eq : name = Text.lower text
  ne_empty_iff : name ≠ "" ↔ text ≠ ""
  path_iff : localName? (pathOf name) = some (pathOf name) ↔ '/' ∉ text.toList
  isTableName_iff : IsTableName name ↔ text ≠ "" ∧ '/' ∉ text.toList
  unquoted : quotedBy = none →
    text ≠ "" ∧ ('/' ∈ text.toList ↔ ∃ sigil ∈ sigils, sigil ++ ['/'] <+: text.toList)

theorem isNameOf_lower {text : String} {quotedBy : Option Char}
    (h : Spelled (.word text quotedBy)) : IsNameOf text quotedBy (Text.lower text) where
  name_eq := rfl
  ne_empty_iff := not_congr Text.lower_eq_empty_iff
  path_iff := by rw [localName?_pathOf_iff (Text.lower_lower text), slash_mem_lower_iff]
  isTableName_iff := by
    constructor
    · rintro ⟨-, hne, hlocal⟩
      exact ⟨mt Text.lower_eq_empty_iff.mpr hne, mt (slash_mem_lower_iff text).mpr hlocal⟩
    · rintro ⟨hne, hlocal⟩
      exact ⟨Text.lower_lower text, mt Text.lower_eq_empty_iff.mp hne,
        mt (slash_mem_lower_iff text).mp hlocal⟩
  unquoted := by
    rintro rfl
    have hword : IsUnquoted text.toList := h text rfl
    exact ⟨fun hempty => hword.ne_nil (String.toList_eq_nil_iff.mpr hempty), hword.slash_mem_iff⟩

/-- **Between quotes every text in lower case names a table.** -/
theorem exists_parse_iff (name : String) :
    (∃ sql q, parse sql = .ok q ∧ name ∈ q.tables) ↔ Text.lower name = name := by
  constructor
  · rintro ⟨sql, q, hparse, hname⟩
    exact lower_of_mem_tables hparse name hname
  · intro hlower
    let column : Identifier := ⟨"a", by decide, by decide⟩
    refine ⟨_, _, parse_insert ⟨name, some '\x22', Or.inl rfl⟩ column "", ?_⟩
    exact List.mem_singleton.mpr hlower.symm

/-! ## 3. The names of a statement -/

/-- **Where the names of tables lead.**  Every name is the word behind a keyword in lower case, so
that word decides whether the name is empty and whether its path is that of a file of the
directory.  There is no other limit to names: every text in lower case is one. -/
theorem tables_of_parse {sql : String} {ts : List Token} {q : Query}
    (htokens : tokenize sql = .ok ts) (hparse : parse sql = .ok q) :
    (∀ name ∈ q.tables, ∃ k ∈ [Keyword.FROM, .INTO, .JOIN], ∃ text quotedBy,
      StandsBehind k (.word text quotedBy) ts ∧ IsNameOf text quotedBy name) ∧
    ∀ name, (∃ sql' q', parse sql' = .ok q' ∧ name ∈ q'.tables) ↔ Text.lower name = name := by
  have hread : readQuery ts = .ok q := by
    rw [← hparse, parse, htokens]
    rfl
  refine ⟨fun name hname => ?_, exists_parse_iff⟩
  obtain ⟨k, hk, text, quotedBy, hbehind, rfl⟩ := exists_namedBehind hread name hname
  have hspelled := spelled_of_tokenize htokens _ hbehind.mem
  exact ⟨k, hk, text, quotedBy, hbehind, isNameOf_lower hspelled⟩

/-- `SELECT k FROM "" JOIN "../u" ON k = k`. -/
def outsideLexemes : List Lexeme :=
  [.word (keyword .SELECT), .space, .word (.bare "k" (by decide)), .space,
    .word (keyword .FROM), .space, .word ⟨"", some '\x22', Or.inl rfl⟩, .space,
    .word (keyword .JOIN), .space, .word ⟨"../u", some '\x22', Or.inl rfl⟩, .space,
    .word (keyword .ON), .space, .word (.bare "k" (by decide)), .space, .sign .equal, .space,
    .word (.bare "k" (by decide))]

/-- The query for rows that this is read as. -/
def outsideSelect : Select where
  fields := [⟨"k", none⟩]
  table := ""
  distinct := false
  distinctFields := []
  conditions := []
  join := some ⟨.inner, "../u", "k", "k"⟩
  groupBy := none
  aggregated := false
  orderBy := none
  limit := none

theorem tokenize_outside : tokenize "SELECT k FROM \x22\x22 JOIN \x22../u\x22 ON k = k" =
    .ok (outsideLexemes.map Lexeme.token) :=
  tokenize_of_write (by decide) (by decide) (by decide)

theorem parse_outside : parse "SELECT k FROM \x22\x22 JOIN \x22../u\x22 ON k = k" =
    .ok (.select outsideSelect) := by
  rw [parse, tokenize_outside]
  rfl

/-- The second name of this statement. -/
theorem tables_of_parse_outside :
    ∃ k ∈ [Keyword.FROM, .INTO, .JOIN], ∃ text quotedBy,
      StandsBehind k (.word text quotedBy) (outsideLexemes.map Lexeme.token) ∧
        IsNameOf text quotedBy "../u" := by
  have hmem : "../u" ∈ (Query.select outsideSelect).tables := by decide
  exact (tables_of_parse tokenize_outside parse_outside).1 "../u" hmem

/-- A table without a name, and one whose path leads out of the directory. -/
theorem tables_outside :
    ∃ q, parse "SELECT k FROM \x22\x22 JOIN \x22../u\x22 ON k = k" = .ok q ∧
      q.tables = ["", "../u"] ∧ pathOf "../u" = "../u.csv" ∧ localName? (pathOf "../u") = none :=
  ⟨.select outsideSelect, parse_outside, rfl, by decide, by decide⟩

end Sql
end Tabular
