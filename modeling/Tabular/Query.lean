/-
# Queries

What a statement asks for, apart from how it was written.  Table and column names are in lower
case; literals are kept as text with their quotes, since a condition compares by the rules of
`Value.coerce` and not by the type of a literal.
-/
import Tabular.Text.Blank

namespace Tabular

/-! ## 1. Conditions -/

/-- How a condition compares. -/
inductive Comparison where
  | equal | notEqual | greater | less | atLeast | atMost
  /-- A pattern match. -/
  | like
  deriving DecidableEq, Repr

namespace Comparison

/-- The operator of a comparison. -/
def symbol : Comparison → String
  | equal => "="
  | notEqual => "!="
  | greater => ">"
  | less => "<"
  | atLeast => ">="
  | atMost => "<="
  | like => "LIKE"

/-- Reads an operator; `LIKE` may be in any ASCII case. -/
def ofSymbol? (symbol : String) : Option Comparison :=
  match symbol with
  | "=" => some equal
  | "!=" | "<>" => some notEqual
  | ">" => some greater
  | "<" => some less
  | ">=" => some atLeast
  | "<=" => some atMost
  | other => if other.toList.map Char.toUpper = "LIKE".toList then some like else none

end Comparison

/-- A field, a comparison and a literal, as in `age > 20`. -/
structure Condition where
  /-- A column, or `table.column`. -/
  field : String
  comparison : Comparison
  /-- The literal as written; for a pattern, without its quotes. -/
  value : String
  deriving DecidableEq, Repr

/-! ## 2. Fields -/

/-- The reductions of a column to one value. -/
inductive AggregateFunction where
  | count | sum | avg | min | max
  deriving DecidableEq, Repr

/-- Reads the name of an aggregate function, in any ASCII case. -/
def AggregateFunction.ofName? (name : String) : Option AggregateFunction :=
  match String.ofList (name.toList.map Char.toUpper) with
  | "COUNT" => some .count
  | "SUM" => some .sum
  | "AVG" => some .avg
  | "MIN" => some .min
  | "MAX" => some .max
  | _ => none

/-- What an aggregate function is applied to. -/
inductive AggregateArgument where
  /-- The rows themselves. -/
  | star
  /-- The cells of a column, given as a column or as `table.column`. -/
  | column (reference : String)
  deriving DecidableEq, Repr

/-- A call of an aggregate function. -/
structure AggregateCall where
  function : AggregateFunction
  argument : AggregateArgument
  distinct : Bool
  deriving DecidableEq, Repr

/-- The column a call reads, if it reads one. -/
def AggregateCall.column? (call : AggregateCall) : Option String :=
  match call.argument with
  | .star => none
  | .column reference => some reference

/-- A field of a result: its text is the name of the result's column. -/
structure Field where
  name : String
  aggregate : Option AggregateCall
  deriving DecidableEq, Repr

/-! ## 3. Joins and sort keys -/

/-- Which rows without partner a join keeps: none, those of the primary table, or those of the
joined table. -/
inductive JoinKind where
  | inner | left | right
  deriving DecidableEq, Repr

/-- A join with a second table: the columns at both references must be equal. -/
structure Join where
  kind : JoinKind
  table : String
  left : String
  right : String
  deriving DecidableEq, Repr

/-- The direction of a sort key. -/
inductive Direction where
  | ascending | descending
  deriving DecidableEq, Repr

/-- A column to sort by. -/
structure SortKey where
  field : String
  direction : Direction
  deriving DecidableEq, Repr

/-! ## 4. Queries -/

/-- A query for rows. -/
structure Select where
  fields : List Field
  table : String
  /-- Are repeated rows dropped? -/
  distinct : Bool
  /-- The fields that must be distinct, or the arguments of calls with `DISTINCT`. -/
  distinctFields : List String
  /-- All of them must hold. -/
  conditions : List Condition
  join : Option Join
  groupBy : Option (List String)
  /-- Is the whole input reduced to one row? -/
  aggregated : Bool
  orderBy : Option (List SortKey)
  limit : Option Nat
  deriving DecidableEq, Repr

/-- A new row.  Columns and values are paired by position. -/
structure Insert where
  table : String
  columns : List String
  values : List String
  deriving DecidableEq, Repr

/-- The removal of rows. -/
structure Delete where
  table : String
  conditions : List Condition
  deriving DecidableEq, Repr

/-- A statement. -/
inductive Query where
  | select (query : Select)
  | insert (query : Insert)
  | delete (query : Delete)
  deriving DecidableEq, Repr

/-- The tables that a statement names. -/
def Query.tables : Query → List String
  | .select query => query.table :: (query.join.map Join.table).toList
  | .insert query => [query.table]
  | .delete query => [query.table]

end Tabular
