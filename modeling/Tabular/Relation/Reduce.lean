/-
# Aggregates

An aggregate call reduces the cells of a column to one value.  Nulls and cells without a numeric
reading are skipped, but that counting goes by nulls alone; `COUNT(*)` counts the rows.  The
column must be there on every row.

`aggregateCells` gives the aggregates of a list of rows, `Relation.grouped` those of every group
behind the values that make the group.
-/
import Tabular.Relation.Distinct
import Tabular.Relation.Restrict

namespace Tabular

/-! ## 1. Reductions of a column -/

namespace AggregateFunction

/-- The number of a count. -/
def countValue (n : Nat) : Value := .number (Binary64.ofNat n)

/-- The sum of numbers, from the left. -/
def total (numbers : List Binary64) : Binary64 := numbers.foldl Binary64.add (Binary64.zero false)

/-- The mean of numbers; of none there is none. -/
def mean (numbers : List Binary64) : Value :=
  if numbers.isEmpty then .null else .number ((total numbers).divNat numbers.length)

/-- The extreme of numbers by a choice of two; of none there is none. -/
def extreme (choose : Binary64 → Binary64 → Binary64) : List Binary64 → Value
  | [] => .null
  | x :: rest => .number (rest.foldl choose x)

/-- The values that are not null. -/
def present (values : List Value) : List Value := values.filter fun v => !v.isNull

/-- The number of different values, compared as `Value.coerce` reads them. -/
def countDistinct (values : List Value) : Nat :=
  (Relation.firsts (fun v : Value => v.coerce.key) (present values)).length

/-- Reduces values to one; only counting heeds `DISTINCT`. -/
def reduce (function : AggregateFunction) (distinct : Bool) (values : List Value) : Value :=
  match function with
  | count => countValue (if distinct then countDistinct values else (present values).length)
  | sum => .number (total (values.filterMap Value.asNumber))
  | avg => mean (values.filterMap Value.asNumber)
  | min => extreme Binary64.min (values.filterMap Value.asNumber)
  | max => extreme Binary64.max (values.filterMap Value.asNumber)

end AggregateFunction

/-! ## 2. Calls on rows -/

/-- The value of a call on a list of rows. -/
def AggregateCall.value (call : AggregateCall) (primary : String) (rows : List Row) :
    Except QueryError Value :=
  match call.argument with
  | .star =>
    if call.function = .count then .ok (AggregateFunction.countValue rows.length)
    else .error (.unknownField "*")
  | .column reference =>
    (rows.mapM (Row.resolve · reference primary)).map
      (call.function.reduce call.distinct)

namespace Relation

/-- The aggregates among the fields, as cells. -/
def aggregateCells (fields : List Field) (primary : String) (rows : List Row) :
    Except QueryError Cells :=
  (fields.filterMap fun field => field.aggregate.map (field.name, ·)).mapM fun named =>
    (named.2.value primary rows).map (named.1, ·)

/-- The whole input as one row of aggregates. -/
def aggregated (fields : List Field) (primary : String) (rows : List Row) :
    Except QueryError Row :=
  (aggregateCells fields primary rows).map Row.ofList

/-! ## 3. Groups -/

/-- A row with its values of the group fields. -/
def withGroupValues (groupBy : List String) (primary : String) (row : Row) :
    Except QueryError (List Value × Row) :=
  (groupBy.mapM (row.resolve · primary)).map (·, row)

/-- The row of a group: its values, then its aggregates. -/
def groupRow (groupBy : List String) (fields : List Field) (primary : String)
    (values : List Value) (members : List Row) : Except QueryError Row :=
  (aggregateCells fields primary members).map fun cells => Row.ofList (groupBy.zip values ++ cells)

/-- A row for every group, in the order in which the groups first appear. -/
def grouped (groupBy : List String) (fields : List Field) (primary : String) (rows : List Row) :
    Except QueryError (List Row) := do
  let tagged ← rows.mapM (withGroupValues groupBy primary)
  (groups Prod.fst tagged).mapM fun group =>
    groupRow groupBy fields primary group.1.1 (group.2.map Prod.snd)

end Relation
end Tabular
