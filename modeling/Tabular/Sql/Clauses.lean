/-
# Clauses

Each function below reads the body of one clause.  Fields, sort keys and group fields are kept
as the text of their tokens; conditions are parted into field, comparison and literal.
-/
import Tabular.Query
import Tabular.Sql.Tokens

namespace Tabular
namespace Sql

/-! ## 1. Limits -/

/-- The number that a text of digits writes, if it fits into 64 bits. -/
def readLimitNumber? (text : String) : Option Nat :=
  let cs := text.toList
  if cs ≠ [] ∧ cs.all Char.isDigit then
    (readDigits? 10 cs).filter (· < UInt64.size)
  else none

/-- The body of `LIMIT`: a number, or a negative number, which is no limit. -/
def readLimit (ts : List Token) : Except QueryError (Option Nat) :=
  match significant ts with
  | [.number digits _] =>
    match readLimitNumber? digits with
    | some n => .ok (some n)
    | none => .error (.malformed .limit .badLimit)
  | [.symbol .minus, .number digits _] =>
    if (readLimitNumber? digits).isSome then .ok none else .error (.malformed .limit .badLimit)
  | _ => .error (.malformed .limit .badLimit)

/-! ## 2. Sorting and grouping -/

/-- The direction that ends a sort key, and the tokens before it. -/
def splitDirection (ts : List Token) : List Token × Direction :=
  match ts.getLast? with
  | none => (ts, .ascending)
  | some last =>
    if last.isKeyword .DESC then (ts.dropLast, .descending)
    else if last.isKeyword .ASC then (ts.dropLast, .ascending)
    else (ts, .ascending)

/-- A sort key: a field, and a direction if one is given. -/
def readSortKey (ts : List Token) : Except QueryError SortKey :=
  let (field, direction) := splitDirection (trimTokens ts)
  let name := Text.lower (render field)
  if name = "" then .error (.malformed .orderBy .emptySortKey) else .ok ⟨name, direction⟩

/-- The body of `ORDER BY`. -/
def readOrderBy (ts : List Token) : Except QueryError (List SortKey) :=
  (splitTopLevel isComma 0 ts).mapM readSortKey

/-- The body of `GROUP BY`. -/
def readGroupBy (ts : List Token) : Except QueryError (List String) :=
  (readList .groupBy "GROUP BY field" ts).map (·.map Text.lower)

/-! ## 3. Conditions -/

/-- The comparison that an operator stands for. -/
def comparison? : Token → Option Comparison
  | .symbol .equal => some .equal
  | .symbol .doubleEqual => some .equal
  | .symbol .notEqual => some .notEqual
  | .symbol .greater => some .greater
  | .symbol .less => some .less
  | .symbol .atLeast => some .atLeast
  | .symbol .atMost => some .atMost
  | _ => none

/-- Is the token an operator that looks like a comparison and is none? -/
def isUnsupported (t : Token) : Bool :=
  t = .symbol .spaceship || t = .symbol .tilde || t = .symbol .bang

/-- A condition from the tokens on both sides; neither may be empty. -/
def makeCondition (comparison : Comparison) (value : String → String) (left right : List Token) :
    Except QueryError Condition :=
  let field := Text.lower (render left)
  let literal := render right
  if field = "" ∨ literal = "" then .error (.malformed .where .badCondition)
  else .ok ⟨field, comparison, value literal⟩

/-- The pattern of a `LIKE`, without its quotes. -/
def bareLiteral (literal : String) : String := String.ofList (Text.unquote literal.toList)

/-- A condition: the first `LIKE` parts it, or else the first operator. -/
def readCondition (ts : List Token) : Except QueryError Condition :=
  match splitFirst (Token.isKeyword .LIKE) ts with
  | some (left, _, right) => makeCondition .like bareLiteral left right
  | none =>
    match splitFirst (fun t => (comparison? t).isSome || isUnsupported t) ts with
    | none => .error (.malformed .where .badCondition)
    | some (left, operator, right) =>
      match comparison? operator with
      | none => .error (.unsupportedOperator operator.print)
      | some comparison => makeCondition comparison id left right

/-- Does the token part two conditions?  `AND` and `OR` do, and all conditions must hold. -/
def isConnective (t : Token) : Bool := t.isKeyword .AND || t.isKeyword .OR

/-- The body of `WHERE`. -/
def readConditions (ts : List Token) : Except QueryError (List Condition) :=
  (splitTopLevel isConnective 0 ts).mapM readCondition

/-- Reads the operator of a condition; blanks around it do not matter. -/
def readComparison (text : String) : Except QueryError Comparison :=
  let symbol := String.ofList (Text.trim text.toList)
  match Comparison.ofSymbol? symbol with
  | some comparison => .ok comparison
  | none => .error (.unsupportedOperator symbol)

/-! ## 4. Fields -/

/-- The aggregate function that an unquoted word names. -/
def functionName? : Token → Option AggregateFunction
  | .word text none => AggregateFunction.ofName? text
  | _ => none

/-- Are the tokens a column, or a table and a column? -/
def isReference : List Token → Bool
  | [.word _ _] => true
  | [.word _ _, .symbol .period, .word _ _] => true
  | _ => false

/-- The argument of a call, from the tokens between its parentheses. -/
def argument? (distinct : Bool) (ts : List Token) : Option AggregateArgument :=
  if ts = [.symbol .star] ∧ !distinct then some .star
  else if isReference ts then some (.column (Text.lower (String.join (ts.map Token.print))))
  else none

/-- The call of a function, from the tokens between its parentheses. -/
def aggregateCall? (function : AggregateFunction) (ts : List Token) : Option AggregateCall :=
  match ts with
  | [] => (argument? false []).map fun a => ⟨function, a, false⟩
  | t :: rest =>
    if t.isKeyword .DISTINCT then (argument? true rest).map fun a => ⟨function, a, true⟩
    else (argument? false (t :: rest)).map fun a => ⟨function, a, false⟩

/-- The first call of an aggregate function among tokens that are not blank.  Where a call is
opened and never closed the search ends. -/
def findAggregate : List Token → Option AggregateCall
  | [] => none
  | t :: ts =>
    match functionName? t, ts with
    | some function, .symbol .leftParen :: args =>
      if Token.symbol .rightParen ∈ args then
        match aggregateCall? function (args.takeWhile (· ≠ .symbol .rightParen)) with
        | some call => some call
        | none => findAggregate ts
      else none
    | _, _ => findAggregate ts

/-- A field of a result. -/
def readField (ts : List Token) : Except QueryError Field :=
  let name := Text.lower (render ts)
  if name = "" then .error (.malformed .fields .emptyField)
  else .ok ⟨name, findAggregate (significant ts)⟩

/-- The fields between `SELECT` and `FROM`. -/
def readFields (ts : List Token) : Except QueryError (List Field) :=
  (splitTopLevel isComma 0 ts).mapM readField

/-! ## 5. Joins -/

/-- The kind of join that the tokens start with, and what follows it; a plain `JOIN` is an inner
one and is left to be read. -/
def readJoinKind? (ts : List Token) : Option (JoinKind × List Token) :=
  let outer := fun (rest : List Token) => (eatKeyword .OUTER rest).getD rest
  match eatKeyword .INNER ts with
  | some rest => some (.inner, rest)
  | none =>
    match eatKeyword .LEFT ts with
    | some rest => some (.left, outer rest)
    | none =>
      match eatKeyword .RIGHT ts with
      | some rest => some (.right, outer rest)
      | none => if (eatKeyword .JOIN ts).isSome then some (.inner, ts) else none

/-- The equality sign of a join. -/
def expectEquality (ts : List Token) : Except QueryError (List Token) :=
  match skipBlanks ts with
  | .symbol .equal :: rest => .ok rest
  | .symbol .doubleEqual :: rest => .ok rest
  | _ => .error (.malformed .join .missingEquality)

/-- A join, if there is one, and what follows it. -/
def readJoin (ts : List Token) : Except QueryError (Option Join × List Token) :=
  match readJoinKind? ts with
  | none => .ok (none, ts)
  | some (kind, ts) => do
    let ts ← expectKeyword .join .JOIN ts
    let (table, ts) ← readName .join ts
    let ts ← expectKeyword .join .ON ts
    let (left, ts) ← readReference .join ts
    let ts ← expectEquality ts
    let (right, ts) ← readReference .join ts
    return (some ⟨kind, table, left, right⟩, ts)

end Sql
end Tabular
