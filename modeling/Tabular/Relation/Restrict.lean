/-
# Restriction

A condition compares a field of a row with a literal.  A field that the row does not have is an
error and not a mismatch.  Several conditions must all hold; they are looked at in order and the
first that fails ends the search, so a missing field counts only where it is reached.
-/
import Tabular.Error
import Tabular.Query
import Tabular.Relation.Pattern
import Tabular.Row

namespace Tabular

namespace Comparison

/-- The text of a value that patterns are matched with; a null has none. -/
def patternText? : Value → Option String
  | .null => none
  | .number x => some (Value.displayNumber x)
  | .text s => some (String.ofList (Text.unquote (Text.trim s.toList)))

/-- Does a comparison hold between a value and a literal? -/
def holds (comparison : Comparison) (value : Value) (literal : String) : Bool :=
  match comparison with
  | equal => value.looselyEquals (.text literal)
  | notEqual => !value.looselyEquals (.text literal)
  | greater => value.compare? (.text literal) = some .gt
  | less => value.compare? (.text literal) = some .lt
  | atLeast => (value.compare? (.text literal)).any Ordering.isGE
  | atMost => (value.compare? (.text literal)).any Ordering.isLE
  | like => (patternText? value).any fun text => Pattern.like text literal

end Comparison

/-! ## 1. Conditions on a row -/

namespace Row

/-- The value of a reference that must be there. -/
def resolve (row : Row) (reference primary : String) : Except QueryError Value :=
  match row.resolve? reference primary with
  | some value => .ok value
  | none => .error (.unknownField reference)

/-- Does a condition hold on the row? -/
def satisfies (row : Row) (condition : Condition) (primary : String) : Except QueryError Bool :=
  (row.resolve condition.field primary).map fun value =>
    condition.comparison.holds value condition.value

/-- Do all conditions hold on the row? -/
def satisfiesAll (row : Row) (primary : String) : List Condition → Except QueryError Bool
  | [] => .ok true
  | condition :: rest =>
    match row.satisfies condition primary with
    | .error e => .error e
    | .ok true => row.satisfiesAll primary rest
    | .ok false => .ok false

end Row

/-! ## 2. Conditions on a list of rows -/

namespace Relation

/-- The rows that a test accepts, in their order.  The first row on which the test fails makes
the whole fail. -/
def filterOk {ε : Type} (test : Row → Except ε Bool) : List Row → Except ε (List Row)
  | [] => .ok []
  | row :: rows =>
    match test row with
    | .error e => .error e
    | .ok keep => (filterOk test rows).map fun kept => if keep then row :: kept else kept

/-- The rows on which all conditions hold. -/
def restrict (primary : String) (conditions : List Condition) (rows : List Row) :
    Except QueryError (List Row) :=
  filterOk (fun row => row.satisfiesAll primary conditions) rows

end Relation
end Tabular
