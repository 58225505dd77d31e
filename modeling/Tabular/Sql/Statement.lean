/-
# Statements

A query for rows is read from the outside in: its optional clauses are split off from the end,
`LIMIT` first, then `ORDER BY`, `GROUP BY` and `WHERE`, each at the first occurrence of its
keywords, and what is left must be `SELECT fields FROM table` with a join or without.  The other
statements are read from the front.

`Sql.parse` goes by the first keyword; `parseSelect`, `parseInsert` and `parseDelete` read one
kind of statement.  Whatever is wrong with a query for rows is reported as such, with the cause
inside.
-/
import Tabular.Sql.Clauses
import Tabular.Sql.Scan

namespace Tabular
namespace Sql

/-! ## 1. Queries for rows -/

/-- Reads the body of an optional clause. -/
def readOptional {α : Type} (read : List Token → Except QueryError α) :
    Option (List Token) → Except QueryError (Option α)
  | none => .ok none
  | some body => (read body).map some

/-- The tokens between `SELECT` and `FROM`, and those behind `FROM`. -/
def splitFields (ts : List Token) : Except QueryError (List Token × List Token) :=
  match splitAtKeywords .FROM [] 0 ts with
  | some parts => .ok parts
  | none => .error (.malformed .from .missingTable)

/-- The fields that a query keeps distinct. -/
def distinctFields (distinct : Bool) (fields : List Field) : List String :=
  if distinct then fields.map Field.name
  else (fields.filterMap Field.aggregate).filterMap fun call =>
    if call.distinct then call.column? else none

/-- A query for rows. -/
def readSelect (ts : List Token) : Except QueryError Select := do
  let (ts, limitBody) := splitClause .LIMIT [] ts
  let limit ← readOptional readLimit limitBody
  let (ts, orderBody) := splitClause .ORDER [.BY] ts
  let orderBy ← readOptional readOrderBy orderBody
  let (ts, groupBody) := splitClause .GROUP [.BY] ts
  let groupBy ← readOptional readGroupBy groupBody
  let (ts, whereBody) := splitClause .WHERE [] ts
  let conditions ← readOptional readConditions whereBody
  let ts ← expectKeyword .select .SELECT ts
  let (distinct, ts) := match eatKeyword .DISTINCT ts with
    | some rest => (true, rest)
    | none => (false, ts)
  let (fieldTokens, ts) ← splitFields ts
  let fields ← readFields fieldTokens
  let (table, ts) ← readName .from ts
  let (join, ts) ← readJoin ts
  expectEnd .select "FROM clause" ts
  return {
    fields, table, distinct
    distinctFields := distinctFields distinct fields
    conditions := conditions.getD []
    join, groupBy
    aggregated := fields.any (·.aggregate.isSome) && groupBy.isNone
    orderBy
    limit := limit.join }

/-! ## 2. New rows and removals -/

/-- A new row. -/
def readInsert (ts : List Token) : Except QueryError Insert := do
  let ts ← expectKeyword .insert .INSERT ts
  let ts ← expectKeyword .insert .INTO ts
  let (table, ts) ← readName .insert ts
  let (columnTokens, ts) ← readParenthesized .insert ts
  let ts ← expectKeyword .values .VALUES ts
  let (valueTokens, ts) ← readParenthesized .values ts
  expectEnd .values "VALUES list" ts
  let columns ← readList .insert "column" columnTokens
  let values ← readList .values "value" valueTokens
  if columns.length ≠ values.length then
    throw (.malformed .values (.countMismatch columns.length values.length))
  return ⟨table, columns.map Text.lower, values⟩

/-- The removal of rows. -/
def readDelete (ts : List Token) : Except QueryError Delete := do
  let (ts, whereBody) := splitClause .WHERE [] ts
  let ts ← expectKeyword .delete .DELETE ts
  let ts ← expectKeyword .delete .FROM ts
  let (table, ts) ← readName .delete ts
  expectEnd .delete "table name" ts
  let conditions ← readOptional readConditions whereBody
  return ⟨table, conditions.getD []⟩

/-! ## 3. Statements from text -/

/-- The tokens of a statement, with faults as errors. -/
def tokenize (sql : String) : Except QueryError (List Token) :=
  match statementTokens sql with
  | .ok ts => .ok ts
  | .error e =>
    .error (.malformed .statement (.scan e.fault (Position.before sql.toList e.rest)))

/-- Any error of a query for rows, as one. -/
def asSelectError {α : Type} : Except QueryError α → Except QueryError α
  | .ok a => .ok a
  | .error e => .error (.invalidSelect e)

/-- The keyword that a statement starts with. -/
def leadingKeyword? (ts : List Token) : Option Keyword :=
  (skipBlanks ts).head?.bind Token.keyword?

/-- A statement, from its tokens. -/
def readQuery (ts : List Token) : Except QueryError Query :=
  match leadingKeyword? ts with
  | some .SELECT => (asSelectError (readSelect ts)).map .select
  | some .INSERT => (readInsert ts).map .insert
  | some .DELETE => (readDelete ts).map .delete
  | _ => .error (.malformed .statement .unknownStatement)

/-- Reads a statement. -/
def parse (sql : String) : Except QueryError Query := tokenize sql >>= readQuery

/-- The tables that a text names; there are none if it is no statement. -/
def tablesOf (sql : String) : List String :=
  match parse sql with
  | .ok query => query.tables
  | .error _ => []

/-- Reads a query for rows. -/
def parseSelect (sql : String) : Except QueryError Select :=
  asSelectError (tokenize sql >>= readSelect)

/-- Reads a new row. -/
def parseInsert (sql : String) : Except QueryError Insert := tokenize sql >>= readInsert

/-- Reads the removal of rows. -/
def parseDelete (sql : String) : Except QueryError Delete := tokenize sql >>= readDelete

end Sql
end Tabular
