/-
# Writing numbers

A layout is the set of decisions a format makes about a shortest decimal: which way a tie goes,
where positional notation ends, and whether a whole number keeps its point.  The two formats of
this library are `Layout.plain`, used for keys and displayed cells, and `Layout.json`.
-/
import Tabular.Binary64.Shortest

namespace Tabular
namespace Binary64

/-- How a format writes finite numbers. -/
structure Layout where
  /-- The choice between two equally near shortest decimals. -/
  tie : Tie
  /-- The exponents of the leading digit that are written positionally; all, if not given. -/
  positional : Option (Int × Int)
  /-- Is a whole number in positional notation written with `.0`? -/
  point : Bool
  deriving DecidableEq, Repr

namespace Layout

/-- Positional notation throughout, and no point in whole numbers; a tie goes up. -/
def plain : Layout := ⟨.up, none, false⟩

/-- Positional notation from `10^-5` up to `10^15`, with a point; a tie goes to even. -/
def json : Layout := ⟨.toEven, some (-5, 15), true⟩

end Layout

/-- Digits in positional notation. -/
def writePositional (point : Bool) (digits : List Char) (exponent : Int) : List Char :=
  if 0 ≤ exponent then
    digits ++ List.replicate exponent.toNat '0' ++ if point then ['.', '0'] else []
  else
    let places := (-exponent).toNat
    let padded := List.replicate (places + 1 - digits.length) '0' ++ digits
    padded.take (padded.length - places) ++ '.' :: padded.drop (padded.length - places)

/-- Digits with a point after the first, and the exponent of the first with its sign. -/
def writeScientific (digits : List Char) (leading : Int) : List Char :=
  let mantissa := match digits with
    | d :: e :: rest => d :: '.' :: e :: rest
    | ds => ds
  mantissa ++ ['e', if leading < 0 then '-' else '+'] ++ Nat.toDigits 10 leading.natAbs

/-- The digits of a magnitude in a layout. -/
def Layout.digits (layout : Layout) (u : Nat) : List Char :=
  if u = 0 then writePositional layout.point ['0'] 0
  else
    let d := shortest layout.tie u
    let ds := Nat.toDigits 10 d.digits
    let leading := d.exponent + ds.length - 1
    match layout.positional with
    | some (low, high) =>
      if low ≤ leading ∧ leading ≤ high then writePositional layout.point ds d.exponent
      else writeScientific ds leading
    | none => writePositional layout.point ds d.exponent


/-- The text of a number; those that are not finite are `NaN`, `inf` and `-inf`. -/
def write (layout : Layout) (x : Binary64) : String :=
  match x with
  | .nan => "NaN"
  | .infinity negative => if negative then "-inf" else "inf"
  | .finite negative u _ =>
    String.ofList (if negative then '-' :: layout.digits u else layout.digits u)

end Binary64
end Tabular
