/-
# Cell values

A cell holds text exactly as it was read; numbers arise as aggregate results only, and null
marks a joined cell without partner.  Whether a text is "really" a number is decided anew for
every comparison, by `Value.coerce`, and never by rewriting the cell.

Three relations on values are built on it: `looselyEquals` and `compare?` serve conditions, and
`sortOrder` serves sorting.  `Value.key` is their strict counterpart: it tells variants and exact
texts apart.
-/
import Tabular.Binary64.Layout
import Tabular.Text.Blank

namespace Tabular

/-- The content of a cell. -/
inductive Value where
  | null
  | number (x : Binary64)
  | text (s : String)
  deriving DecidableEq, Inhabited

namespace Value

/-! ## 1. The numeric reading -/

/-- The number that a text is, if it is one from end to end and finite. -/
def readNumber (cs : List Char) : Option Binary64 :=
  (Binary64.ofChars? cs).filter Binary64.isFinite

/-- The value that a text is compared as: blanks around it and one pair of quotes are dropped,
and what is left is a number if it reads as one. -/
def ofLiteral (cs : List Char) : Value :=
  let bare := Text.unquote (Text.trim cs)
  match readNumber bare with
  | some x => .number x
  | none => .text (String.ofList bare)

/-- The shape in which a value is compared. -/
def coerce : Value → Value
  | .text s => ofLiteral s.toList
  | v => v

/-- The numeric reading of a value, if it has one. -/
def asNumber (v : Value) : Option Binary64 :=
  match v.coerce with
  | .number x => some x
  | _ => none

/-- Is the cell null? -/
def isNull : Value → Bool
  | .null => true
  | _ => false

/-! ## 2. Text forms -/

/-- Whole numbers below this magnitude are written as integers. -/
def integerLimit : Nat := 10 ^ (15 : Nat)

/-- The integer that a number is written as: it has no fraction and is below the limit. -/
def asInteger (x : Binary64) : Option Int :=
  x.toInt?.filter fun i => i.natAbs < integerLimit

/-- A number as shown in a table. -/
def displayNumber (x : Binary64) : String :=
  match asInteger x with
  | some i => i.repr
  | none => x.write .plain

/-- A value as shown in a table and stored in a file. -/
def display : Value → String
  | .null => "NULL"
  | .number x => displayNumber x
  | .text s => s

/-- A text form that keeps the variants apart, for grouping and for distinct values. -/
def key : Value → String
  | .null => "null"
  | .number x => "n:" ++ x.write .plain
  | .text s => "t:" ++ s

/-! ## 3. Comparison -/

/-- Equality of coerced values: numbers by their value, texts by their characters. -/
def looselyEquals (v w : Value) : Bool :=
  match v.coerce, w.coerce with
  | .null, .null => true
  | .number x, .number y => x.equals y
  | .text s, .text t => s = t
  | _, _ => false

/-- The order of coerced values that conditions use.  A number and a text have none, nor have a
null and a text; against a number, null counts as zero. -/
def compare? (v w : Value) : Option Ordering :=
  match v.coerce, w.coerce with
  | .number x, .number y => x.compare? y
  | .text s, .text t => some (compare s t)
  | .null, .null => some .eq
  | .null, .number y => (Binary64.zero false).compare? y
  | .number x, .null => x.compare? (Binary64.zero false)
  | _, _ => none

/-- The order that sorting uses: nulls first, then numbers by value where both sides are
numbers, and otherwise the text forms. -/
def sortOrder (v w : Value) : Ordering :=
  match v.coerce, w.coerce with
  | .null, .null => .eq
  | .null, _ => .lt
  | _, .null => .gt
  | .number x, .number y => (x.compare? y).getD .eq
  | a, b => compare a.display b.display

end Value

end Tabular
