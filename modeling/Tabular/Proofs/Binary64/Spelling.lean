/-
# Written numbers

The shortest decimal of a number is one that rounds to it, and a decimal rounds to one magnitude
only.  So the plain text of a finite number, read as the decimal that it is, leads back to the
number: no two finite numbers are written alike (`write_plain_inj`).

* `ends_le_of_lt`: the intervals of two magnitudes have at most an end in common, and then one of
  the two does not own its ends;
* `roundsTo_shortest`: the search for a shortest decimal ends with a hit;
* `Decimal.ofChars?_writePositional`: what is written in positional notation is read back.
-/
import Tabular.Binary64.Layout
import Mathlib.Data.List.TakeWhile

namespace Tabular
namespace Binary64

/-! ## 1. Intervals -/

theorem spareBits_mono {u v : Nat} (h : u ≤ v) : spareBits u ≤ spareBits v := by
  rcases Nat.eq_zero_or_pos u with rfl | hpos
  · simp [spareBits]
  · have hlog : u.log2 ≤ v.log2 :=
      (Nat.le_log2 (by omega)).mpr (Nat.le_trans (Nat.log2_self_le (by omega)) h)
    unfold spareBits
    omega

/-- A magnitude is a whole number of steps, fewer than `2^53`. -/
theorem Representable.exists_steps {u : Nat} (h : Representable u) :
    ∃ m, u = m * 2 ^ spareBits u ∧ u / 2 ^ spareBits u = m ∧ m < 2 ^ (53 : Nat) :=
  ⟨_, (Nat.div_mul_cancel (Nat.dvd_of_mod_eq_zero h.1)).symm, rfl, div_spareBits_lt u⟩

/-- Below a magnitude the interval reaches as far as above it, or half as far at the first
magnitude with its number of spare bits, where the steps change. -/
theorem gapBelow_cases (u : Nat) : gapBelow u = 2 ^ spareBits u ∨
    gapBelow u = 2 * 2 ^ spareBits u ∧ (spareBits u ≠ 0 → u ≠ 2 ^ (52 + spareBits u)) := by
  unfold gapBelow
  split
  · exact Or.inl rfl
  · rename_i h
    refine Or.inr ⟨rfl, fun hs hu => h ⟨hs, ?_⟩⟩
    have hlog : 52 + spareBits u = u.log2 := by
      unfold spareBits at hs ⊢
      omega
    rwa [hlog] at hu

/-- **Intervals lie apart.**  That of a lesser magnitude ends where that of a greater one begins,
or before; and where it ends there, only one of the two owns the end. -/
theorem ends_le_of_lt {u v : Nat} (hu : Representable u) (hv : Representable v) (h : u < v) :
    4 * u + gapAbove u + gapBelow v ≤ 4 * v ∧
      (4 * u + gapAbove u + gapBelow v = 4 * v →
        ownsEnds u = false ∨ ownsEnds v = false) := by
  obtain ⟨m, hum, hm, hmlt⟩ := hu.exists_steps
  obtain ⟨n, hvn, hn, -⟩ := hv.exists_steps
  have hp : 0 < 2 ^ spareBits u := Nat.two_pow_pos _
  have hbelow := gapBelow_cases v
  simp only [gapAbove, ownsEnds, hm, hn, decide_eq_false_iff_not]
  rcases Nat.lt_or_eq_of_le (spareBits_mono (Nat.le_of_lt h)) with hst | hst
  · -- The steps of `v` are at least twice as wide, and `u` is below the first of its magnitudes.
    have hq : 2 * 2 ^ spareBits u ≤ 2 ^ spareBits v := by
      rw [Nat.mul_comm, ← Nat.pow_succ]
      exact Nat.pow_le_pow_right (by decide) hst
    have hfirst : 2 ^ (52 : Nat) ≤ n := hn ▸ le_div_spareBits (by omega)
    have hn' : 2 ^ (52 : Nat) * 2 ^ spareBits v ≤ n * 2 ^ spareBits v :=
      Nat.mul_le_mul_right _ hfirst
    have hm' : (m + 1) * 2 ^ spareBits u ≤ 2 ^ (53 : Nat) * 2 ^ spareBits u :=
      Nat.mul_le_mul_right _ hmlt
    rw [Nat.add_mul] at hm'
    rcases hbelow with hgap | ⟨hgap, hinner⟩
    · refine ⟨by omega, fun heq => Or.inl ?_⟩
      have htop : (m + 1) * 2 ^ spareBits u = 2 ^ (53 : Nat) * 2 ^ spareBits u := by
        rw [Nat.add_mul]
        omega
      have := Nat.eq_of_mul_eq_mul_right hp htop
      omega
    · have hne : n ≠ 2 ^ (52 : Nat) := by
        rintro rfl
        exact hinner (by omega) (by rwa [Nat.pow_add])
      have hsecond : (2 ^ (52 : Nat) + 1) * 2 ^ spareBits v ≤ n * 2 ^ spareBits v :=
        Nat.mul_le_mul_right _ (by omega)
      exact ⟨by omega, fun heq => by omega⟩
  · -- The steps are the same, so between `u` and `v` there is at least one of them.
    rw [← hst] at hvn hbelow
    have hmn : m < n := Nat.lt_of_mul_lt_mul_right (a := 2 ^ spareBits u) (by omega)
    have hstep : (m + 1) * 2 ^ spareBits u ≤ n * 2 ^ spareBits u := Nat.mul_le_mul_right _ hmn
    rw [Nat.add_mul] at hstep
    have hgap : gapBelow v ≤ 2 * 2 ^ spareBits u := by omega
    refine ⟨by omega, fun heq => ?_⟩
    have hnext : (m + 1) * 2 ^ spareBits u = n * 2 ^ spareBits u := by
      rw [Nat.add_mul]
      omega
    have := Nat.eq_of_mul_eq_mul_right hp hnext
    omega

/-- What a decimal that rounds to a magnitude is compared with: the ends of the interval, which
count only if the magnitude owns them. -/
theorem ends_of_roundsTo {u d : Nat} {k : Int} (h : roundsTo u d k = true) :
    (4 * u - gapBelow u) * scale k ≤ quarters d k ∧
      quarters d k ≤ (4 * u + gapAbove u) * scale k ∧
      (ownsEnds u = false → (4 * u - gapBelow u) * scale k < quarters d k ∧
        quarters d k < (4 * u + gapAbove u) * scale k) := by
  unfold roundsTo at h
  split at h
  · rename_i howns
    simp only [Bool.and_eq_true, decide_eq_true_eq] at h
    exact ⟨h.1, h.2, fun hfalse => by simp [howns] at hfalse⟩
  · simp only [Bool.and_eq_true, decide_eq_true_eq] at h
    exact ⟨Nat.le_of_lt h.1, Nat.le_of_lt h.2, fun _ => h⟩

theorem scale_pos (k : Int) : 0 < scale k := Nat.pow_pos (by decide)

theorem not_roundsTo_of_lt {u v d : Nat} {k : Int} (hu : Representable u) (hv : Representable v)
    (h : u < v) (hd : roundsTo u d k = true) : roundsTo v d k = false := by
  rw [← Bool.not_eq_true]
  intro hd'
  obtain ⟨-, hhigh, hstrict⟩ := ends_of_roundsTo hd
  obtain ⟨hlow, -, hstrict'⟩ := ends_of_roundsTo hd'
  obtain ⟨hle, hends⟩ := ends_le_of_lt hu hv h
  rcases Nat.lt_or_eq_of_le (show 4 * u + gapAbove u ≤ 4 * v - gapBelow v by omega) with hlt | heq
  · have := Nat.mul_lt_mul_of_pos_right hlt (scale_pos k)
    omega
  · -- The decimal is the common end, which one of the two magnitudes does not own.
    rw [heq] at hhigh hstrict
    rcases hends (by omega) with hown | hown
    · exact absurd (hstrict hown).2 (by omega)
    · exact absurd (hstrict' hown).1 (by omega)

/-- **A decimal rounds to one magnitude only.** -/
theorem eq_of_roundsTo {u v d : Nat} {k : Int} (hu : Representable u) (hv : Representable v)
    (hd : roundsTo u d k = true) (hd' : roundsTo v d k = true) : u = v := by
  rcases Nat.lt_trichotomy u v with hlt | heq | hgt
  · rw [not_roundsTo_of_lt hu hv hlt hd] at hd'
    exact absurd hd' (by simp)
  · exact heq
  · rw [not_roundsTo_of_lt hv hu hgt hd'] at hd
    exact absurd hd (by simp)

/-! ## 2. The search -/

theorem Tie.choose_cases (tie : Tie) (d : Nat) (middle : Ordering) :
    tie.choose d middle = d + 1 ∨ tie.choose d middle = d := by
  cases middle with
  | lt => exact Or.inl rfl
  | gt => exact Or.inr rfl
  | eq =>
    cases tie with
    | up => exact Or.inl rfl
    | toEven =>
      by_cases heven : d % 2 = 0
      · exact Or.inr (if_pos heven)
      · exact Or.inl (if_neg heven)

theorem roundsTo_of_onGrid {tie : Tie} {u d : Nat} {k : Int} (h : onGrid tie u k = some d) :
    roundsTo u d k = true := by
  unfold onGrid at h
  cases hfloor : roundsTo u (floorOn u k) k <;>
    cases hnext : roundsTo u (floorOn u k + 1) k <;>
    simp only [hfloor, hnext, Option.some.injEq, reduceCtorEq] at h
  · rw [← h, hnext]
  · rw [← h, hfloor]
  · rw [nearer] at h
    rcases tie.choose_cases (floorOn u k) _ with heq | heq
    · rw [← h, heq, hnext]
    · rw [← h, heq, hfloor]

/-- On a grid of steps below half a unit, the next decimal past a magnitude rounds to it. -/
theorem roundsTo_floorOn_succ {u : Nat} {k : Int} (hk : k ≤ 0) (hfine : 2 * one < scale k) :
    roundsTo u (floorOn u k + 1) k = true := by
  have hone : 0 < one := Nat.two_pow_pos _
  have hgrid : one * 10 ^ k.toNat = one := by
    rw [Int.toNat_of_nonpos hk, Nat.pow_zero, Nat.mul_one]
  have hfloor : floorOn u k * one ≤ u * scale k := by
    rw [floorOn, hgrid]
    exact Nat.div_mul_le_self _ _
  have hnext : u * scale k < (floorOn u k + 1) * one := by
    rw [floorOn, hgrid]
    exact (Nat.div_lt_iff_lt_mul hone).mp (Nat.lt_succ_self _)
  have hquarters : quarters (floorOn u k + 1) k = 4 * ((floorOn u k + 1) * one) := by
    rw [quarters, Nat.mul_assoc, hgrid, Nat.mul_assoc]
  have hlow : (4 * u - gapBelow u) * scale k < quarters (floorOn u k + 1) k := by
    have hcut := Nat.mul_le_mul_right (scale k) (Nat.sub_le (4 * u) (gapBelow u))
    rw [Nat.mul_assoc] at hcut
    omega
  have hhigh : quarters (floorOn u k + 1) k < (4 * u + gapAbove u) * scale k := by
    have hgap : 2 ≤ gapAbove u := by
      have := Nat.two_pow_pos (spareBits u)
      unfold gapAbove
      omega
    have hroom := Nat.mul_le_mul_right (scale k) hgap
    rw [hquarters, Nat.add_mul, Nat.add_mul, Nat.mul_assoc 4 u]
    omega
  unfold roundsTo
  split
  · simp [Nat.le_of_lt hlow, Nat.le_of_lt hhigh]
  · simp [hlow, hhigh]

/-- The grid `10^-324` is as fine as that. -/
theorem onGrid_finest_ne_none (tie : Tie) (u : Nat) : onGrid tie u (-324) ≠ none := by
  have hfine : 2 * one < scale (-324) := by decide +kernel
  simp only [onGrid, roundsTo_floorOn_succ (by decide) hfine]
  cases roundsTo u (floorOn u (-324)) (-324) <;> simp

/-- A search that comes to the grid `10^-324` ends with a hit. -/
theorem roundsTo_search (tie : Tie) (u : Nat) (count : Nat) (k : Int) (hk : -324 ≤ k)
    (hcount : k - count = -325) :
    roundsTo u (search tie u count k).digits (search tie u count k).exponent = true := by
  induction count generalizing k with
  | zero => omega
  | succ count ih =>
    rw [search]
    cases hgrid : onGrid tie u k with
    | some d => exact roundsTo_of_onGrid hgrid
    | none =>
      have hne : k ≠ -324 := by
        rintro rfl
        exact onGrid_finest_ne_none tie u hgrid
      exact ih (k - 1) (by omega) (by omega)

/-- **The shortest decimal of a magnitude rounds to it.** -/
theorem roundsTo_shortest (tie : Tie) (u : Nat) :
    roundsTo u (shortest tie u).digits (shortest tie u).exponent = true :=
  roundsTo_search tie u _ _ (by omega) (by omega)

end Binary64

/-! ## 3. Positional notation -/

namespace Decimal

theorem valueOf_eq_ofDigitChars (digits : List Char) :
    valueOf digits = Nat.ofDigitChars 10 digits 0 := Nat.ofDigitChars_eq_foldl.symm

theorem valueOf_toDigits (n : Nat) : valueOf (Nat.toDigits 10 n) = n := by
  rw [valueOf_eq_ofDigitChars, Nat.ofDigitChars_ten_toDigits]

/-- Zeros behind the digits multiply by powers of ten. -/
theorem valueOf_append_zeros (digits : List Char) (n : Nat) :
    valueOf (digits ++ List.replicate n '0') = valueOf digits * 10 ^ n := by
  rw [valueOf_eq_ofDigitChars, Nat.ofDigitChars_append, Nat.ofDigitChars_replicate_zero,
    ← valueOf_eq_ofDigitChars, Nat.mul_comm]

/-- Zeros in front of the digits change nothing. -/
theorem valueOf_zeros_append (n : Nat) (digits : List Char) :
    valueOf (List.replicate n '0' ++ digits) = valueOf digits := by
  rw [valueOf_eq_ofDigitChars, Nat.ofDigitChars_append, Nat.ofDigitChars_replicate_zero,
    Nat.mul_zero, ← valueOf_eq_ofDigitChars]

theorem isDigit_of_mem_digits {n : Nat} {c : Char} (h : c ∈ Nat.toDigits 10 n) : c.isDigit = true :=
  Nat.isDigit_of_mem_toDigits (by decide) (by decide) h

theorem isDigit_of_mem_zeros {n : Nat} {c : Char} (h : c ∈ List.replicate n '0') :
    c.isDigit = true := by
  rw [List.eq_of_mem_replicate h]
  rfl

/-- Digits without a point are a whole number. -/
theorem ofChars?_digits {digits : List Char} (hne : digits ≠ [])
    (h : ∀ c ∈ digits, c.isDigit = true) : ofChars? digits = some ⟨valueOf digits, 0⟩ := by
  have htake : digits.takeWhile Char.isDigit = digits := List.takeWhile_eq_self_iff.mpr h
  have hdrop : digits.dropWhile Char.isDigit = [] := List.dropWhile_eq_nil_iff.mpr h
  simp [ofChars?, htake, hdrop, hne, exponent?]

/-- The digits behind the point are counted. -/
theorem ofChars?_point {whole fraction : List Char} (hne : fraction ≠ [])
    (hwhole : ∀ c ∈ whole, c.isDigit = true) (hfraction : ∀ c ∈ fraction, c.isDigit = true) :
    ofChars? (whole ++ '.' :: fraction) = some ⟨valueOf (whole ++ fraction), -fraction.length⟩ := by
  have hpoint : ('.' : Char).isDigit = false := rfl
  have htake : (whole ++ '.' :: fraction).takeWhile Char.isDigit = whole := by
    rw [List.takeWhile_append_of_pos hwhole, List.takeWhile_cons_of_neg (by simp [hpoint]),
      List.append_nil]
  have hdrop : (whole ++ '.' :: fraction).dropWhile Char.isDigit = '.' :: fraction := by
    rw [List.dropWhile_append_of_pos hwhole, List.dropWhile_cons_of_neg (by simp [hpoint])]
  have htake' : fraction.takeWhile Char.isDigit = fraction :=
    List.takeWhile_eq_self_iff.mpr hfraction
  have hdrop' : fraction.dropWhile Char.isDigit = [] := List.dropWhile_eq_nil_iff.mpr hfraction
  simp [ofChars?, htake, hdrop, htake', hdrop', hne, exponent?]

/-- The form of a decimal without powers of ten that are not digits. -/
def spread (d : Decimal) : Decimal := ⟨d.digits * 10 ^ d.exponent.toNat, min d.exponent 0⟩

/-- **Positional notation is read back**, with powers of ten as zeros. -/
theorem ofChars?_writePositional (d : Nat) (k : Int) :
    ofChars? (Binary64.writePositional false (Nat.toDigits 10 d) k) = some (spread ⟨d, k⟩) := by
  unfold Binary64.writePositional spread
  split
  · rename_i hk
    have hdigits : ∀ c ∈ Nat.toDigits 10 d ++ List.replicate k.toNat '0', c.isDigit = true := by
      intro c hc
      rcases List.mem_append.mp hc with hc | hc
      · exact isDigit_of_mem_digits hc
      · exact isDigit_of_mem_zeros hc
    have hread := ofChars?_digits (by simp [Nat.toDigits_ne_nil]) hdigits
    rw [valueOf_append_zeros, valueOf_toDigits] at hread
    dsimp only
    rw [Int.min_eq_right hk, ← hread]
    simp
  · rename_i hk
    have hzeros : k.toNat = 0 := by omega
    dsimp only
    generalize hpadded : List.replicate ((-k).toNat + 1 - (Nat.toDigits 10 d).length) '0' ++
      Nat.toDigits 10 d = padded
    have hdigits : ∀ c ∈ padded, c.isDigit = true := by
      intro c hc
      rcases List.mem_append.mp (hpadded ▸ hc) with hc | hc
      · exact isDigit_of_mem_zeros hc
      · exact isDigit_of_mem_digits hc
    have hvalue : valueOf padded = d := by rw [← hpadded, valueOf_zeros_append, valueOf_toDigits]
    have hlength : (-k).toNat + 1 ≤ padded.length := by
      rw [← hpadded, List.length_append, List.length_replicate]
      omega
    have hplaces : (padded.drop (padded.length - (-k).toNat)).length = (-k).toNat := by
      rw [List.length_drop]
      omega
    have hne : padded.drop (padded.length - (-k).toNat) ≠ [] := by
      rw [← List.length_pos_iff, hplaces]
      omega
    rw [ofChars?_point hne (fun c hc => hdigits c (List.mem_of_mem_take hc))
      (fun c hc => hdigits c (List.mem_of_mem_drop hc)), List.take_append_drop, hvalue, hplaces,
      hzeros, Nat.pow_zero, Nat.mul_one]
    congr 2
    omega

end Decimal

/-! ## 4. Numbers -/

namespace Binary64

theorem roundsTo_spread (u : Nat) (d : Decimal) :
    roundsTo u d.spread.digits d.spread.exponent = roundsTo u d.digits d.exponent := by
  have hexponent : d.spread.exponent = Min.min d.exponent 0 := rfl
  have hpower : d.spread.exponent.toNat = 0 := by omega
  have hquarters : quarters d.spread.digits d.spread.exponent = quarters d.digits d.exponent := by
    unfold quarters
    rw [hpower, Nat.pow_zero, Nat.mul_one, Decimal.spread, ← Nat.mul_assoc, Nat.mul_right_comm]
  have hscale : scale d.spread.exponent = scale d.exponent := by
    unfold scale
    congr 1
    omega
  unfold roundsTo
  rw [hquarters, hscale]

/-- The plain digits of a magnitude are those of a decimal that rounds to it. -/
theorem exists_plain_digits (u : Nat) : ∃ d : Decimal,
    Layout.plain.digits u = writePositional false (Nat.toDigits 10 d.digits) d.exponent ∧
      roundsTo u d.digits d.exponent = true := by
  by_cases hu : u = 0
  · subst hu
    exact ⟨⟨0, 0⟩, rfl, by decide +kernel⟩
  · refine ⟨shortest .up u, ?_, roundsTo_shortest .up u⟩
    unfold Layout.digits
    rw [if_neg hu]
    rfl

/-- Magnitudes with the same plain digits are equal. -/
theorem plain_digits_inj {u v : Nat} (hu : Representable u) (hv : Representable v)
    (h : Layout.plain.digits u = Layout.plain.digits v) : u = v := by
  obtain ⟨d, hd, hround⟩ := exists_plain_digits u
  obtain ⟨d', hd', hround'⟩ := exists_plain_digits v
  have hread := Decimal.ofChars?_writePositional d.digits d.exponent
  rw [← hd, h, hd', Decimal.ofChars?_writePositional, Option.some.injEq] at hread
  rw [← roundsTo_spread, ← hread, roundsTo_spread] at hround
  exact eq_of_roundsTo hu hv hround hround'

/-- Plain digits begin with no sign, as they are read as a decimal. -/
theorem plain_digits_ne_minus (u : Nat) (cs : List Char) : Layout.plain.digits u ≠ '-' :: cs := by
  intro h
  obtain ⟨d, hd, -⟩ := exists_plain_digits u
  have hread := Decimal.ofChars?_writePositional d.digits d.exponent
  rw [← hd, h] at hread
  exact absurd hread (by simp [Decimal.ofChars?, List.takeWhile, List.dropWhile])

/-- **No two finite numbers are written alike**; the two zeros, which are equal, are told apart by
their signs. -/
theorem write_plain_inj {x y : Binary64} (hx : x.isFinite = true) (hy : y.isFinite = true) :
    x.write .plain = y.write .plain ↔ x = y := by
  refine ⟨fun h => ?_, fun h => h ▸ rfl⟩
  cases x with
  | finite s u hu =>
    cases y with
    | finite t v hv =>
      simp only [write, String.ofList_inj] at h
      have hsigns : s = t ∧ Layout.plain.digits u = Layout.plain.digits v := by
        cases s <;> cases t
        · exact ⟨rfl, h⟩
        · exact absurd h (plain_digits_ne_minus u _)
        · exact absurd h.symm (plain_digits_ne_minus v _)
        · exact ⟨rfl, (List.cons_eq_cons.mp h).2⟩
      obtain ⟨rfl, hdigits⟩ := hsigns
      obtain rfl := plain_digits_inj hu hv hdigits
      rfl
    | _ => simp [isFinite] at hy
  | _ => simp [isFinite] at hx

end Binary64
end Tabular
