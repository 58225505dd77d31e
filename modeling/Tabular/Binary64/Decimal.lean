/-
# Reading decimals

A decimal is a whole number of powers of ten.  `Decimal.ofChars?` reads the written form
(digits with at most one point among them, and an exponent), and `Binary64.ofDecimal` rounds it
once to the nearest binary64 number.

The text of a number is an optional sign and one of: a decimal; `inf` or `infinity`; `nan`.  The
words are read in any ASCII case.  Nothing may stand before or after.
-/
import Tabular.Binary64.Basic

namespace Tabular

/-- The number `digits * 10 ^ exponent`. -/
structure Decimal where
  digits : Nat
  exponent : Int
  deriving DecidableEq, Repr

namespace Decimal

/-! ## 1. The written form -/

/-- The value of a list of digits, the first one weighing most. -/
def valueOf (digits : List Char) : Nat :=
  digits.foldl (fun n c => 10 * n + (c.toNat - '0'.toNat)) 0

/-- A sign, if one is written, and what follows it; `true` is a minus. -/
def takeSign : List Char → Bool × List Char
  | '-' :: cs => (true, cs)
  | '+' :: cs => (false, cs)
  | cs => (false, cs)

/-- The exponent that ends a decimal: none is zero, otherwise `e`, a sign or none, and digits. -/
def exponent? : List Char → Option Int
  | [] => some 0
  | c :: cs =>
    let (negative, digits) := takeSign cs
    if (c = 'e' ∨ c = 'E') ∧ digits ≠ [] ∧ digits.all Char.isDigit then
      some (if negative then -(valueOf digits : Int) else valueOf digits)
    else none

/-- A decimal without sign: digits, a point and digits, an exponent.  One of the two runs of
digits may be empty, and with the second one the point may be missing. -/
def ofChars? (cs : List Char) : Option Decimal :=
  let whole := cs.takeWhile Char.isDigit
  let (fraction, rest) := match cs.dropWhile Char.isDigit with
    | '.' :: r => (r.takeWhile Char.isDigit, r.dropWhile Char.isDigit)
    | r => ([], r)
  if whole = [] ∧ fraction = [] then none
  else (exponent? rest).map fun e => ⟨valueOf (whole ++ fraction), e - fraction.length⟩

end Decimal

/-! ## 2. The nearest number -/

namespace Binary64

/-- The number nearest to a decimal.  Past `10^400` everything overflows, and a decimal below
`10^-400` is nearer to zero than to any other number, so that no power beyond those is formed. -/
def ofDecimal (negative : Bool) (d : Decimal) : Binary64 :=
  if d.digits = 0 then zero negative
  else if 400 < d.exponent then .infinity negative
  else if d.exponent + d.digits.log2 + 1 < -400 then zero negative
  else if 0 ≤ d.exponent then ofQuotient negative (d.digits * 10 ^ d.exponent.toNat * one) 1
  else ofQuotient negative (d.digits * one) (10 ^ (-d.exponent).toNat)


/-- Reads the text of a number; the whole text must be used. -/
def ofChars? (cs : List Char) : Option Binary64 :=
  let (negative, body) := Decimal.takeSign cs
  match String.ofList (body.map Char.toLower) with
  | "inf" | "infinity" => some (.infinity negative)
  | "nan" => some .nan
  | _ => (Decimal.ofChars? body).map (ofDecimal negative)

end Binary64

end Tabular
