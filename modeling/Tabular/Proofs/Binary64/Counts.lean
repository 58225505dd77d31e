/-
# Counts as numbers

A count is held as the nearest binary64 number.  Up to two to the 53 that is the count itself
(`toInt?_ofNat`); past it neighbouring counts can be held as one number, but a greater count is
never held as a lesser number (`isLE_compare?_ofNat`).

Both come from rounding, which leaves a magnitude of the format as it is (`roundQuotient_one`) and
keeps the order of its inputs (`roundQuotient_mono`): two inputs with the same spare bits are
rounded on one grid, and between two with different ones lies a power of two that neither crosses.
-/
import Tabular.Proofs.Value.Reading

namespace Tabular
namespace Binary64

/-! ## 1. Rounding -/

theorem roundHalfEven_mono {n m : Nat} (h : n ≤ m) (d : Nat) :
    roundHalfEven n d ≤ roundHalfEven m d := by
  have hquotient : n / d ≤ m / d := Nat.div_le_div_right h
  rcases Nat.lt_or_eq_of_le hquotient with hlt | heq
  · have := roundHalfEven_le n d
    have := le_roundHalfEven m d
    omega
  · -- With one quotient, the greater number has the greater remainder.
    have hn := Nat.div_add_mod n d
    have hm := Nat.div_add_mod m d
    rw [heq] at hn
    have hremainder : n % d ≤ m % d := by omega
    simp only [roundHalfEven, heq]
    split <;> split <;> omega

/-- **Rounding keeps the order.** -/
theorem roundQuotient_mono {n m : Nat} (h : n ≤ m) (d : Nat) :
    roundQuotient n d ≤ roundQuotient m d := by
  have hquotient : n / d ≤ m / d := Nat.div_le_div_right h
  have hspare := spareBits_mono hquotient
  simp only [roundQuotient]
  rcases Nat.lt_or_eq_of_le hspare with hlt | heq
  · -- `2 ^ 52` steps of the greater number are at least `2 ^ 53` of the lesser one.
    have hless : roundHalfEven n (d * 2 ^ spareBits (n / d)) ≤ 2 ^ (53 : Nat) := by
      have hle := roundHalfEven_le n (d * 2 ^ spareBits (n / d))
      have hbound := div_spareBits_lt (n / d)
      rw [Nat.div_div_eq_div_mul] at hbound
      omega
    have hmore : 2 ^ (52 : Nat) ≤ roundHalfEven m (d * 2 ^ spareBits (m / d)) := by
      have hle := le_roundHalfEven m (d * 2 ^ spareBits (m / d))
      have hbound := le_div_spareBits (u := m / d) (by omega)
      rw [Nat.div_div_eq_div_mul] at hbound
      omega
    calc roundHalfEven n (d * 2 ^ spareBits (n / d)) * 2 ^ spareBits (n / d)
        ≤ 2 ^ (53 : Nat) * 2 ^ spareBits (n / d) := Nat.mul_le_mul_right _ hless
      _ = 2 ^ (52 : Nat) * 2 ^ (spareBits (n / d) + 1) := by rw [Nat.pow_succ]; omega
      _ ≤ 2 ^ (52 : Nat) * 2 ^ spareBits (m / d) :=
        Nat.mul_le_mul_left _ (Nat.pow_le_pow_right (by decide) hlt)
      _ ≤ roundHalfEven m (d * 2 ^ spareBits (m / d)) * 2 ^ spareBits (m / d) :=
        Nat.mul_le_mul_right _ hmore
  · rw [heq]
    exact Nat.mul_le_mul_right _ (roundHalfEven_mono h _)

/-- A magnitude of the format is left as it is. -/
theorem roundQuotient_one {u : Nat} (h : u % 2 ^ spareBits u = 0) : roundQuotient u 1 = u := by
  have hpos : 0 < 2 ^ spareBits u := Nat.two_pow_pos _
  simp only [roundQuotient, Nat.div_one, Nat.one_mul, roundHalfEven, h]
  rw [if_neg (by omega), Nat.div_mul_cancel (Nat.dvd_of_mod_eq_zero h)]

/-! ## 2. Counts -/

theorem one_pos : 0 < one := Nat.two_pow_pos _

/-- A count is placed where it is rounded to, and at most where the infinity is. -/
theorem place?_ofNat (n : Nat) : (ofNat n).place? =
    some (Int.ofNat (Min.min (roundQuotient (n * one) 1) overflow)) := by
  rw [ofNat, ofQuotient]
  split
  · rename_i h
    rw [Nat.min_eq_left (Nat.le_of_lt h.2)]
    rfl
  · rename_i h
    rw [Nat.min_eq_right (Nat.le_of_not_lt fun hlt =>
      h ((representable_roundQuotient_iff _ _).mpr hlt))]
    rfl

/-- **Counts are in order as numbers.** -/
theorem isLE_compare?_ofNat {m n : Nat} (h : m ≤ n) :
    ((ofNat m).compare? (ofNat n)).any Ordering.isLE = true := by
  have hrounded := roundQuotient_mono (Nat.mul_le_mul_right one h) 1
  have hplaces : Int.ofNat (Min.min (roundQuotient (m * one) 1) overflow) ≤
      Int.ofNat (Min.min (roundQuotient (n * one) 1) overflow) :=
    Int.ofNat_le.mpr (Nat.le_min.mpr
      ⟨Nat.le_trans (Nat.min_le_left _ _) hrounded, Nat.min_le_right _ _⟩)
  rw [compare?_eq_some (place?_ofNat m) (place?_ofNat n), Option.any_some, Std.isLE_compare]
  exact hplaces

/-- **Counts up to two to the 53 are exact.** -/
theorem toInt?_ofNat {n : Nat} (h : n ≤ 2 ^ (53 : Nat)) : (ofNat n).toInt? = some (n : Int) := by
  have hexact : roundQuotient (n * one) 1 = n * one := roundQuotient_one (mod_spareBits_of_le h)
  have hbound : 2 ^ (53 : Nat) * one < overflow := by
    rw [one, overflow, ← Nat.pow_add]
    exact Nat.pow_lt_pow_right (by decide) (by decide)
  have hrepresentable : Representable (n * one) :=
    ⟨mod_spareBits_of_le h, Nat.lt_of_le_of_lt (Nat.mul_le_mul_right one h) hbound⟩
  have hvalue : ofNat n = .finite false (n * one) hrepresentable := by
    rw [ofNat, ofQuotient, dif_pos (hexact.symm ▸ hrepresentable)]
    congr
  rw [hvalue, toInt?, if_pos (Nat.mul_mod_left n one), Nat.mul_div_cancel n one_pos]
  rfl

end Binary64
end Tabular
