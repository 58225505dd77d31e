/-
# Binary64 numbers on an exact grid

Every finite binary64 number is a whole number of *units* of `2^-1074`, and a magnitude of `u`
units is one of them when all but its 53 leading bits are zero and it stays below `2^2098`
units.  A finite number is therefore kept as a sign and a natural number: comparison is
comparison of integers, addition is addition of integers, and the only inexact step of either
addition or division is `roundQuotient`, which rounds an exact quotient to the nearest
magnitude with 53 leading bits, a tie going to the even neighbour.

* `mod_spareBits_roundQuotient`: a rounded quotient has no bits below its 53 leading ones;
* `representable_roundQuotient_iff`: so it is a number of the format exactly when it does not
  overflow.
-/
namespace Tabular

/-- A power of natural numbers is the core one, also where monoid powers are in scope. -/
scoped instance (priority := 10000) powNat : Pow Nat Nat := instPowNat

namespace Binary64

/-! ## 1. Magnitudes -/

/-- The unit is two to this power, negated. -/
def unitExponent : Nat := 1074

/-- Every finite magnitude stays below this power of two. -/
def maxExponent : Nat := 1024

/-- The number of units in one. -/
def one : Nat := 2 ^ unitExponent

/-- The first power of two past every finite magnitude, in units. -/
def overflow : Nat := 2 ^ (maxExponent + unitExponent)

/-- How many bits of a magnitude lie below its 53 leading ones. -/
def spareBits (u : Nat) : Nat := u.log2 - 52

/-- The magnitudes of finite numbers: nothing below the 53 leading bits, and no overflow. -/
def Representable (u : Nat) : Prop := u % 2 ^ spareBits u = 0 ∧ u < overflow

instance (u : Nat) : Decidable (Representable u) := by unfold Representable; infer_instance

theorem overflow_pos : 0 < overflow := Nat.two_pow_pos _

theorem representable_zero : Representable 0 := ⟨Nat.zero_mod _, overflow_pos⟩

/-- The quotient `n / d` rounded to a whole number, a tie to the even neighbour. -/
def roundHalfEven (n d : Nat) : Nat :=
  let q := n / d
  let r := n % d
  if d < 2 * r ∨ (d = 2 * r ∧ q % 2 = 1) then q + 1 else q

/-- The quotient `n / d` of units rounded to 53 leading bits: the spare bits of the whole part
are rounded away, as part of the quotient. -/
def roundQuotient (n d : Nat) : Nat :=
  let s := spareBits (n / d)
  roundHalfEven n (d * 2 ^ s) * 2 ^ s

theorem roundHalfEven_le (n d : Nat) : roundHalfEven n d ≤ n / d + 1 := by
  unfold roundHalfEven; dsimp only; split <;> omega

theorem le_roundHalfEven (n d : Nat) : n / d ≤ roundHalfEven n d := by
  unfold roundHalfEven; dsimp only; split <;> omega

/-- A magnitude loses its spare bits when it is divided by their weight. -/
theorem div_spareBits_lt (u : Nat) : u / 2 ^ spareBits u < 2 ^ (53 : Nat) := by
  have hpos : 0 < 2 ^ spareBits u := Nat.two_pow_pos _
  rw [Nat.div_lt_iff_lt_mul hpos, ← Nat.pow_add]
  refine Nat.lt_of_lt_of_le Nat.lt_log2_self (Nat.pow_le_pow_right (by decide) ?_)
  unfold spareBits; omega

/-- With spare bits present, the 53 leading bits are all used. -/
theorem le_div_spareBits {u : Nat} (h : spareBits u ≠ 0) : 2 ^ (52 : Nat) ≤ u / 2 ^ spareBits u := by
  have hu : u ≠ 0 := by rintro rfl; simp [spareBits] at h
  rw [Nat.le_div_iff_mul_le (Nat.two_pow_pos _), ← Nat.pow_add]
  have hs : 52 + spareBits u = u.log2 := by unfold spareBits at *; omega
  rw [hs]; exact Nat.log2_self_le hu

/-- A multiple of `2^s` with at most 53 bits above has no spare bits but those. -/
theorem mod_spareBits_of_le {m s : Nat} (hm : m ≤ 2 ^ (53 : Nat)) :
    m * 2 ^ s % 2 ^ spareBits (m * 2 ^ s) = 0 := by
  rcases Nat.eq_zero_or_pos m with rfl | hpos
  · simp
  have hne : m * 2 ^ s ≠ 0 := Nat.mul_ne_zero (by omega) (Nat.ne_of_gt (Nat.two_pow_pos s))
  rcases Nat.lt_or_eq_of_le hm with hlt | rfl
  · have hlog : (m * 2 ^ s).log2 < 53 + s := by
      rw [Nat.log2_lt hne, Nat.pow_add]
      exact Nat.mul_lt_mul_of_pos_right hlt (Nat.two_pow_pos s)
    have hle : spareBits (m * 2 ^ s) ≤ s := by unfold spareBits; omega
    exact Nat.mod_eq_zero_of_dvd (Nat.dvd_mul_left_of_dvd (Nat.pow_dvd_pow 2 hle) m)
  · rw [← Nat.pow_add]
    refine Nat.mod_eq_zero_of_dvd (Nat.pow_dvd_pow 2 ?_)
    simp only [spareBits, Nat.log2_two_pow]; omega

/-- A rounded quotient has no bits below its 53 leading ones. -/
theorem mod_spareBits_roundQuotient (n d : Nat) :
    roundQuotient n d % 2 ^ spareBits (roundQuotient n d) = 0 := by
  unfold roundQuotient; dsimp only
  refine mod_spareBits_of_le ?_
  have h1 := roundHalfEven_le n (d * 2 ^ spareBits (n / d))
  have h2 := div_spareBits_lt (n / d)
  rw [Nat.div_div_eq_div_mul] at h2
  omega

/-- A rounded quotient is a magnitude of the format unless it overflows. -/
theorem representable_roundQuotient_iff (n d : Nat) :
    Representable (roundQuotient n d) ↔ roundQuotient n d < overflow :=
  ⟨fun h => h.2, fun h => ⟨mod_spareBits_roundQuotient n d, h⟩⟩

end Binary64

/-! ## 2. Numbers -/

/-- A binary64 number: not a number, an infinity, or a sign and a magnitude in units. -/
inductive Binary64 where
  | nan
  | infinity (negative : Bool)
  | finite (negative : Bool) (units : Nat) (representable : Binary64.Representable units)
  deriving DecidableEq

namespace Binary64

/-- Zero, of either sign. -/
def zero (negative : Bool) : Binary64 := .finite negative 0 representable_zero

instance : Inhabited Binary64 := ⟨zero false⟩

/-- The number nearest to `n / d` units, of the given sign. -/
def ofQuotient (negative : Bool) (n d : Nat) : Binary64 :=
  if h : Representable (roundQuotient n d) then .finite negative (roundQuotient n d) h
  else .infinity negative

/-- The number nearest to a natural number. -/
def ofNat (n : Nat) : Binary64 := ofQuotient false (n * one) 1

/-- Neither infinite nor NaN. -/
def isFinite : Binary64 → Bool
  | .finite .. => true
  | _ => false

/-- A magnitude with its sign. -/
def signed (negative : Bool) (u : Nat) : Int := if negative then -u else u

/-- A number's place on the line, in units; the infinities stand just past the finite numbers,
and NaN has no place. -/
def place? : Binary64 → Option Int
  | .nan => none
  | .infinity negative => some (signed negative overflow)
  | .finite negative u _ => some (signed negative u)

/-- The order of two numbers; nothing when either is NaN. -/
def compare? (x y : Binary64) : Option Ordering :=
  match x.place?, y.place? with
  | some a, some b => some (compare a b)
  | _, _ => none

/-- Numeric equality: the zeros are equal, and NaN differs from everything. -/
def equals (x y : Binary64) : Bool := x.compare? y == some .eq

/-! ## 3. Arithmetic -/

/-- The exact sum, rounded once.  A zero sum is negative only when both terms are. -/
def add : Binary64 → Binary64 → Binary64
  | .nan, _ => .nan
  | _, .nan => .nan
  | .infinity s, .infinity t => if s = t then .infinity s else .nan
  | .infinity s, .finite .. => .infinity s
  | .finite .., .infinity t => .infinity t
  | .finite s u _, .finite t v _ =>
    let z := signed s u + signed t v
    if z = 0 then zero (s && t) else ofQuotient (decide (z < 0)) z.natAbs 1

/-- The quotient by a positive count below `2^53`, rounded once. -/
def divNat (x : Binary64) (n : Nat) : Binary64 :=
  match x with
  | .finite s u _ => ofQuotient s u n
  | other => other

/-- The lesser of two numbers; a NaN gives way to the other. -/
def min (x y : Binary64) : Binary64 :=
  match x.compare? y with
  | some .gt => y
  | some _ => x
  | none => if x = .nan then y else x

/-- The greater of two numbers; a NaN gives way to the other. -/
def max (x y : Binary64) : Binary64 :=
  match x.compare? y with
  | some .lt => y
  | some _ => x
  | none => if x = .nan then y else x

/-- The whole number that a finite number without fraction is. -/
def toInt? : Binary64 → Option Int
  | .finite s u _ => if u % one = 0 then some (signed s (u / one)) else none
  | _ => none

end Binary64

end Tabular
