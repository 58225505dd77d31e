/-
# Keywords

The words that have a meaning in a statement.  A word is a keyword by its uppercase form, so
that letter case never matters.
-/
import Tabular.Text.Casing

namespace Tabular

/-- The words that statements are built with. -/
inductive Keyword where
  | SELECT | INSERT | DELETE
  | DISTINCT | FROM | INTO | VALUES
  | INNER | LEFT | RIGHT | OUTER | JOIN | ON
  | WHERE | AND | OR | LIKE
  | GROUP | ORDER | BY | ASC | DESC | LIMIT
  deriving DecidableEq, Repr

namespace Keyword

/-- The word in capitals. -/
def spelling : Keyword → String
  | SELECT => "SELECT"
  | INSERT => "INSERT"
  | DELETE => "DELETE"
  | DISTINCT => "DISTINCT"
  | FROM => "FROM"
  | INTO => "INTO"
  | VALUES => "VALUES"
  | INNER => "INNER"
  | LEFT => "LEFT"
  | RIGHT => "RIGHT"
  | OUTER => "OUTER"
  | JOIN => "JOIN"
  | ON => "ON"
  | WHERE => "WHERE"
  | AND => "AND"
  | OR => "OR"
  | LIKE => "LIKE"
  | GROUP => "GROUP"
  | ORDER => "ORDER"
  | BY => "BY"
  | ASC => "ASC"
  | DESC => "DESC"
  | LIMIT => "LIMIT"

/-- Every keyword. -/
def all : List Keyword :=
  [SELECT, INSERT, DELETE, DISTINCT, FROM, INTO, VALUES, INNER, LEFT, RIGHT, OUTER, JOIN, ON,
   WHERE, AND, OR, LIKE, GROUP, ORDER, BY, ASC, DESC, LIMIT]

/-- The keyword that a word is, in any letter case. -/
def ofWord? (word : String) : Option Keyword :=
  match Text.asciiCapitals? word with
  | some capitals => all.find? fun k => k.spelling = capitals
  | none => none

end Keyword

end Tabular
