/-
# Lower case is lower case

`lower_lower`: the lower case of a text in lower case is the text itself.  Names of tables are
put in lower case when a statement is read and again when a file is looked for, so this is what
makes the second time harmless.  And since file names are compared by ASCII case at last, the
second statement, `toLower_of_mem_lower`, is that no ASCII capital is left.

Both follow from what characters a lowercase text is made of.  A character is `Settled` if
neither the table nor one of the rules beside it changes it.  That every character the table
leads to is settled is a property of the table's data: it is checked row against row
(`isSettledRow_lowercaseShifts`), by comparing the ends of their ranges.

Where a text has no capitals but ASCII ones, only their case changes (`lower_eq_of_map_toLower`);
and no sign or digit arises (`mem_of_mem_lower`).
-/
import Tabular.Text.Casing
import Mathlib.Data.List.Basic

namespace Tabular
namespace Text

/-! ## 1. Where the table leads -/

/-- Is no code point from `first` to `last`, in steps of `step`, changed by the rows? -/
def isUnmapped (first last step : Nat) : List (Nat × Nat × Nat × Int) → Bool
  | [] => true
  | (low, high, step', _) :: rest =>
    last < low ||
      ((high < first || ((step = 2 || first = last) && (step' = 2 && (first + low) % 2 = 1))) &&
        isUnmapped first last step rest)

/-- Are the code points from `first` to `last` characters that have no rule of their own, and
among them no ASCII ones but small letters? -/
def isPlainRange (first last : Nat) : Bool :=
  (last < 0x130 || 0x130 < first) && (last < 0x3A3 || 0x3A3 < first) &&
    (last < 0xD800 || (0xDFFF < first && last < 0x110000)) &&
    (128 ≤ first || (97 ≤ first && last ≤ 122))

/-- Does a row of the table lead to settled code points only? -/
def isSettledRow (row : Nat × Nat × Nat × Int) : Bool :=
  0 ≤ row.1 + row.2.2.2 &&
    (isPlainRange (row.1 + row.2.2.2).toNat (row.2.1 + row.2.2.2).toNat &&
      isUnmapped (row.1 + row.2.2.2).toNat (row.2.1 + row.2.2.2).toNat row.2.2.1 lowercaseShifts)

theorem isSettledRow_lowercaseShifts : lowercaseShifts.all isSettledRow = true := by
  decide +kernel

/-- What the check of a range of code points means. -/
theorem shiftLower_of_isUnmapped {first last step m : Nat}
    {rows : List (Nat × Nat × Nat × Int)} (h : isUnmapped first last step rows = true)
    (hfirst : first ≤ m) (hlast : m ≤ last) (hstep : (m - first) % step = 0) :
    shiftLower m rows = m := by
  induction rows with
  | nil => rfl
  | cons row rows ih =>
    obtain ⟨low, high, step', shift⟩ := row
    rw [isUnmapped, Bool.or_eq_true, Bool.and_eq_true, Bool.or_eq_true, Bool.and_eq_true,
      Bool.or_eq_true, Bool.and_eq_true] at h
    simp only [decide_eq_true_eq] at h
    rw [shiftLower]
    by_cases hlow : m < low
    · rw [if_pos hlow]
    · rw [if_neg hlow]
      rcases h with h | ⟨h, hrest⟩
      · omega
      · by_cases hhigh : m ≤ high
        · rw [if_pos hhigh, if_neg]
          rcases h with h | ⟨hsteps, rfl, hodd⟩
          · omega
          · rcases hsteps with rfl | rfl <;> omega
        · rw [if_neg hhigh]
          exact ih hrest

/-- A code point is left alone or shifted by a row of the table. -/
theorem shiftLower_cases (n : Nat) (rows : List (Nat × Nat × Nat × Int)) :
    shiftLower n rows = n ∨ ∃ low high step shift, (low, high, step, shift) ∈ rows ∧ low ≤ n ∧
      n ≤ high ∧ (n - low) % step = 0 ∧ shiftLower n rows = (n + shift).toNat := by
  induction rows with
  | nil => exact Or.inl rfl
  | cons row rows ih =>
    obtain ⟨low, high, step, shift⟩ := row
    rw [shiftLower]
    split_ifs with hlow hhigh hstep
    · exact Or.inl rfl
    · exact Or.inr ⟨low, high, step, shift, List.mem_cons_self, by omega, hhigh, hstep, rfl⟩
    · exact Or.inl rfl
    · rcases ih with ih | ⟨low', high', step', shift', hm, hrest⟩
      · exact Or.inl ih
      · exact Or.inr ⟨low', high', step', shift', List.mem_cons_of_mem _ hm, hrest⟩

/-! ## 2. Settled characters -/

/-- A character that putting in lower case does not change. -/
structure Settled (c : Char) : Prop where
  lowerChar_eq : lowerChar c = [c]
  ne_sigma : c ≠ 'Σ'
  toLower_eq : c.toLower = c

theorem toLower_eq_self {c : Char} (h : c.toNat < 65 ∨ 90 < c.toNat) : c.toLower = c := by
  unfold Char.toLower
  rw [dif_neg]
  rintro ⟨hlow, hhigh⟩
  rw [ge_iff_le, UInt32.le_iff_toNat_le] at hlow
  rw [UInt32.le_iff_toNat_le] at hhigh
  change 65 ≤ c.toNat at hlow
  change c.toNat ≤ 90 at hhigh
  omega

theorem settled_ascii {c : Char} (h : c.toNat < 128) : Settled c.toLower := by
  have hall : ∀ n ∈ List.range 128, lowerChar (Char.ofNat n).toLower = [(Char.ofNat n).toLower] ∧
      (Char.ofNat n).toLower ≠ 'Σ' ∧ (Char.ofNat n).toLower.toLower = (Char.ofNat n).toLower := by
    decide +kernel
  have hc := hall c.toNat (List.mem_range.mpr h)
  rw [Char.ofNat_toNat] at hc
  exact ⟨hc.1, hc.2.1, hc.2.2⟩

theorem toNat_ofNat {m : Nat} (h : m.isValidChar) : (Char.ofNat m).toNat = m := by
  rw [Char.ofNat, dif_pos h]
  rfl

/-- Code points of plain ranges are characters, and none of them stands before the small letters. -/
theorem toNat_ofNat_of_isPlainRange {m first last : Nat} (hplain : isPlainRange first last = true)
    (hfirst : first ≤ m) (hlast : m ≤ last) : (Char.ofNat m).toNat = m ∧ 97 ≤ m := by
  simp only [isPlainRange, Bool.and_eq_true, Bool.or_eq_true, decide_eq_true_eq] at hplain
  obtain ⟨⟨-, hvalid⟩, hascii⟩ := hplain
  refine ⟨toNat_ofNat ?_, by omega⟩
  rcases hvalid with h | h
  · exact Or.inl (by omega)
  · exact Or.inr (by omega)

/-- Code points of plain ranges that the table leaves alone are settled. -/
theorem settled_ofNat {m first last : Nat} (hplain : isPlainRange first last = true)
    (hfirst : first ≤ m) (hlast : m ≤ last) (hfixed : shiftLower m lowercaseShifts = m) :
    Settled (Char.ofNat m) := by
  obtain ⟨hchar, -⟩ := toNat_ofNat_of_isPlainRange hplain hfirst hlast
  simp only [isPlainRange, Bool.and_eq_true, Bool.or_eq_true, decide_eq_true_eq] at hplain
  obtain ⟨⟨⟨hdot, hsigma⟩, -⟩, hascii⟩ := hplain
  have hne : ∀ c : Char, c.toNat ≠ m → Char.ofNat m ≠ c := by
    rintro c hc rfl
    exact hc hchar
  have hlower : (Char.ofNat m).toLower = Char.ofNat m := toLower_eq_self (by omega)
  refine ⟨?_, hne 'Σ' (by change 0x3A3 ≠ m; omega), hlower⟩
  rw [lowerChar, hchar]
  split
  · rw [hlower]
  · rw [if_neg (hne 'İ' (by change 0x130 ≠ m; omega)), hfixed]

/-- **The lowercase form of a character is settled.** -/
theorem settled_of_mem_lowerChar {c x : Char} (hc : c ≠ 'Σ') (h : x ∈ lowerChar c) :
    Settled x := by
  rw [lowerChar] at h
  split_ifs at h with hascii hdot
  · rw [List.mem_singleton.mp h]
    exact settled_ascii hascii
  · simp only [List.mem_cons, List.not_mem_nil, or_false] at h
    rcases h with rfl | rfl <;> exact ⟨by decide +kernel, by decide, by decide⟩
  · rw [List.mem_singleton.mp h]
    rcases shiftLower_cases c.toNat lowercaseShifts with hfixed | ⟨low, high, step, shift, hm, hlow,
      hhigh, hstep, hshift⟩
    · rw [hfixed, Char.ofNat_toNat]
      refine ⟨?_, hc, toLower_eq_self (by omega)⟩
      rw [lowerChar, if_neg hascii, if_neg hdot, hfixed, Char.ofNat_toNat]
    · have hrow := List.all_eq_true.mp isSettledRow_lowercaseShifts _ hm
      simp only [isSettledRow, Bool.and_eq_true, decide_eq_true_eq] at hrow
      obtain ⟨hpos, hplain, hunmapped⟩ := hrow
      rw [hshift]
      have hfirst : (low + shift).toNat ≤ (c.toNat + shift).toNat := by omega
      have hlast : (c.toNat + shift).toNat ≤ (high + shift).toNat := by omega
      have hdiff : (c.toNat + shift).toNat - (low + shift).toNat = c.toNat - low := by omega
      exact settled_ofNat hplain hfirst hlast
        (shiftLower_of_isUnmapped hunmapped hfirst hlast (hdiff ▸ hstep))

/-! ## 3. Texts in lower case -/

theorem settled_of_mem_lowerAfter {before cs : List Char} :
    ∀ x ∈ lowerAfter before cs, Settled x := by
  induction cs generalizing before with
  | nil => simp [lowerAfter]
  | cons c cs ih =>
    intro x hx
    rw [lowerAfter, List.mem_append] at hx
    rcases hx with hx | hx
    · split_ifs at hx with hsigma hfinal
      · rw [List.mem_singleton.mp hx]
        exact ⟨by decide +kernel, by decide, by decide⟩
      · rw [List.mem_singleton.mp hx]
        exact ⟨by decide +kernel, by decide, by decide⟩
      · exact settled_of_mem_lowerChar hsigma hx
    · exact ih x hx

theorem lowerAfter_of_settled {before cs : List Char} (h : ∀ c ∈ cs, Settled c) :
    lowerAfter before cs = cs := by
  induction cs generalizing before with
  | nil => rfl
  | cons c cs ih =>
    have hc := h c List.mem_cons_self
    rw [lowerAfter, if_neg hc.ne_sigma, hc.lowerChar_eq,
      ih fun x hx => h x (List.mem_cons_of_mem _ hx)]
    rfl

theorem settled_of_mem_lower {s : String} : ∀ c ∈ (lower s).toList, Settled c := by
  rw [lower, String.toList_ofList]
  exact settled_of_mem_lowerAfter

/-- A text of settled characters is in lower case. -/
theorem toList_lower_of_settled {cs : List Char} (h : ∀ c ∈ cs, Settled c) :
    (lower (String.ofList cs)).toList = cs := by
  rw [lower, String.toList_ofList, String.toList_ofList, lowerAfter_of_settled h]

/-- **Putting in lower case twice is putting in lower case once.** -/
theorem lower_lower (s : String) : lower (lower s) = lower s := by
  rw [lower, lowerAfter_of_settled settled_of_mem_lower, String.ofList_toList]

/-- **No ASCII capital is left** in lower case. -/
theorem toLower_of_mem_lower {s : String} : ∀ c ∈ (lower s).toList, c.toLower = c :=
  fun c hc => (settled_of_mem_lower c hc).toLower_eq

/-- Only the empty text has an empty lower case. -/
theorem lower_eq_empty_iff {s : String} : lower s = "" ↔ s = "" := by
  have hchar : ∀ c : Char, lowerChar c ≠ [] := by
    intro c
    rw [lowerChar]
    split_ifs <;> simp
  constructor
  · intro h
    rw [lower, String.ofList_eq_empty_iff] at h
    cases hs : s.toList with
    | nil => exact String.toList_eq_nil_iff.mp hs
    | cons c cs =>
      rw [hs, lowerAfter, List.append_eq_nil_iff] at h
      split_ifs at h with hsigma hfinal
      · simp at h
      · simp at h
      · exact absurd h.1 (hchar c)
  · rintro rfl
    rfl

/-! ## 4. What lower case leaves alone -/

/-- Where only the case of ASCII letters is to be changed, lower case changes nothing else. -/
theorem lowerAfter_eq_map {before cs : List Char} (h : ∀ c ∈ cs, Settled c.toLower) :
    lowerAfter before cs = cs.map Char.toLower := by
  induction cs generalizing before with
  | nil => rfl
  | cons c cs ih =>
    have hc := h c List.mem_cons_self
    have hsigma : c ≠ 'Σ' := by
      rintro rfl
      exact hc.ne_sigma (by decide)
    have hlower : lowerChar c = [c.toLower] := by
      by_cases hascii : c.toNat < 128
      · rw [lowerChar, if_pos hascii]
      · have hself : c.toLower = c := toLower_eq_self (by omega)
        rw [hself] at hc ⊢
        exact hc.lowerChar_eq
    rw [lowerAfter, if_neg hsigma, hlower, ih fun x hx => h x (List.mem_cons_of_mem _ hx)]
    rfl

/-- A text that differs from one in lower case by the case of ASCII letters has it as its lower
case. -/
theorem lower_eq_of_map_toLower {s name : String} (hname : lower name = name)
    (h : s.toList.map Char.toLower = name.toList) : lower s = name := by
  have hsettled : ∀ c ∈ s.toList, Settled c.toLower := by
    intro c hc
    have hmem : c.toLower ∈ name.toList := h ▸ List.mem_map_of_mem hc
    rw [← hname] at hmem
    exact settled_of_mem_lower _ hmem
  rw [lower, lowerAfter_eq_map hsettled, h, String.ofList_toList]

theorem eq_of_toLower_lt {c : Char} (h : c.toLower.toNat < 97) : c.toLower = c := by
  by_cases hascii : c.toNat < 128
  · have hall : ∀ n ∈ List.range 128, (Char.ofNat n).toLower.toNat < 97 →
        (Char.ofNat n).toLower = Char.ofNat n := by decide +kernel
    have hc := hall c.toNat (List.mem_range.mpr hascii)
    rw [Char.ofNat_toNat] at hc
    exact hc h
  · exact toLower_eq_self (by omega)

/-- Lower case brings in no character before the small letters. -/
theorem eq_of_mem_lowerChar {c x : Char} (hx : x ∈ lowerChar c) (h : x.toNat < 97) : x = c := by
  rw [lowerChar] at hx
  split_ifs at hx with hascii hdot
  · obtain rfl := List.mem_singleton.mp hx
    exact eq_of_toLower_lt h
  · simp only [List.mem_cons, List.not_mem_nil, or_false] at hx
    rcases hx with rfl | rfl <;> exact absurd h (by decide)
  · obtain rfl := List.mem_singleton.mp hx
    rcases shiftLower_cases c.toNat lowercaseShifts with hfixed | ⟨low, high, step, shift, hm, hlow,
      hhigh, hstep, hshift⟩
    · rw [hfixed, Char.ofNat_toNat]
    · have hrow := List.all_eq_true.mp isSettledRow_lowercaseShifts _ hm
      simp only [isSettledRow, Bool.and_eq_true, decide_eq_true_eq] at hrow
      have hletter := toNat_ofNat_of_isPlainRange (m := (c.toNat + shift).toNat) hrow.2.1 (by omega)
        (by omega)
      rw [hshift] at h
      omega

theorem mem_of_mem_lower {s : String} {x : Char} (hx : x ∈ (lower s).toList) (h : x.toNat < 97) :
    x ∈ s.toList := by
  have hlist : ∀ before cs, x ∈ lowerAfter before cs → x ∈ cs := by
    intro before cs hx
    induction cs generalizing before with
    | nil => exact hx
    | cons c cs ih =>
      rw [lowerAfter, List.mem_append] at hx
      rcases hx with hx | hx
      · split_ifs at hx with hsigma hfinal
        · obtain rfl := List.mem_singleton.mp hx
          exact absurd h (by decide)
        · obtain rfl := List.mem_singleton.mp hx
          exact absurd h (by decide)
        · exact List.mem_cons.mpr (.inl (eq_of_mem_lowerChar hx h))
      · exact List.mem_cons_of_mem _ (ih _ hx)
  rw [lower, String.toList_ofList] at hx
  exact hlist _ _ hx

/-- A settled character stays. -/
theorem mem_lower_of_settled {s : String} {x : Char} (hx : x ∈ s.toList) (h : Settled x) :
    x ∈ (lower s).toList := by
  have hlist : ∀ before cs, x ∈ cs → x ∈ lowerAfter before cs := by
    intro before cs hx
    induction cs generalizing before with
    | nil => exact hx
    | cons c cs ih =>
      rw [lowerAfter, List.mem_append]
      rcases List.mem_cons.mp hx with rfl | hx
      · rw [if_neg h.ne_sigma, h.lowerChar_eq]
        exact Or.inl List.mem_cons_self
      · exact Or.inr (ih _ hx)
  rw [lower, String.toList_ofList]
  exact hlist _ _ hx

end Text
end Tabular
