/-
# The shortest decimal that reads back

The reals that round to a magnitude form an interval around it.  `shortest` looks on the grids
`10^k`, coarsest first, for a decimal in that interval: on each grid only the two neighbours of
the magnitude need be tried, and the first grid with a hit gives the fewest digits.  When both
neighbours lie in the interval the nearer one is taken; an exact tie is left to the caller.

Lengths are compared in quarter units, so that the middle between two adjacent magnitudes is a
whole number.
-/
import Tabular.Binary64.Decimal

namespace Tabular
namespace Binary64

/-- Which of two equally near decimals is taken. -/
inductive Tie where
  | toEven
  | up
  deriving DecidableEq, Repr

/-! ## 1. The interval of a magnitude -/

/-- Half the distance to the next magnitude, in quarter units. -/
def gapAbove (u : Nat) : Nat := 2 * 2 ^ spareBits u

/-- Half the distance to the magnitude before, in quarter units: below a power of two the
magnitudes lie twice as dense. -/
def gapBelow (u : Nat) : Nat :=
  if spareBits u ≠ 0 ∧ u = 2 ^ u.log2 then 2 ^ spareBits u else 2 * 2 ^ spareBits u

/-- Do the ends of the interval themselves round to the magnitude?  They do when it is even. -/
def ownsEnds (u : Nat) : Bool := u / 2 ^ spareBits u % 2 = 0

/-- A decimal as a quotient of quarter units: `d * 10^k` is `quarters / scale`. -/
def quarters (d : Nat) (k : Int) : Nat := 4 * d * one * 10 ^ k.toNat

/-- The denominator that goes with `quarters`. -/
def scale (k : Int) : Nat := 10 ^ (-k).toNat

/-- Does the decimal `d * 10^k` round to the magnitude `u`? -/
def roundsTo (u d : Nat) (k : Int) : Bool :=
  let x := quarters d k
  let low := (4 * u - gapBelow u) * scale k
  let high := (4 * u + gapAbove u) * scale k
  if ownsEnds u then low ≤ x && x ≤ high else low < x && x < high

/-! ## 2. The search -/

/-- The last multiple of `10^k` that is not past the magnitude, as a multiple. -/
def floorOn (u : Nat) (k : Int) : Nat := u * scale k / (one * 10 ^ k.toNat)

/-- Which of two neighbours to take, from where the middle between them lies. -/
def Tie.choose (tie : Tie) (d : Nat) (middle : Ordering) : Nat :=
  match middle with
  | .lt => d + 1
  | .gt => d
  | .eq => match tie with
    | .up => d + 1
    | .toEven => if d % 2 = 0 then d else d + 1

/-- Which neighbour on the grid to take when both are in the interval. -/
def nearer (tie : Tie) (u d : Nat) (k : Int) : Nat :=
  tie.choose d (compare (quarters d k + quarters (d + 1) k) (2 * (4 * u * scale k)))

/-- The neighbour on the grid `10^k` that rounds to the magnitude, if one does. -/
def onGrid (tie : Tie) (u : Nat) (k : Int) : Option Nat :=
  let d := floorOn u k
  match roundsTo u d k, roundsTo u (d + 1) k with
  | true, true => some (nearer tie u d k)
  | true, false => some d
  | false, true => some (d + 1)
  | false, false => none

/-- The hit on the first of `count` grids, from `10^k` on to finer ones. -/
def search (tie : Tie) (u : Nat) : Nat → Int → Decimal
  | 0, k => ⟨floorOn u k, k⟩
  | count + 1, k =>
    match onGrid tie u k with
    | some d => ⟨d, k⟩
    | none => search tie u count (k - 1)


/-- The decimal of fewest digits that reads back as `u` units, and the nearest of those.  The
search starts above the leading digit and may go down to `10^-324`, where the grid is finer
than the distance of any two magnitudes. -/
def shortest (tie : Tie) (u : Nat) : Decimal :=
  let start := (Nat.toDigits 10 (u / one)).length
  search tie u (start + 325) start

end Binary64
end Tabular
