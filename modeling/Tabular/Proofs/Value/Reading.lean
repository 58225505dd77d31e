/-
# What values are read as

Comparisons read a value before they compare it: a text may be read as a number, and is else cut
to what stands between its blanks and quotes.  For finite values (`Value.IsFinite`) a reading is a
null, the place of a number or the characters of a text, and loose equality is equality of
readings (`looselyEquals_iff`).

The text form of what is read is nearly the same: it tells readings apart
(`key_coerce_inj`, by `Binary64.write_plain_inj`), but beyond that it tells the two zeros apart,
which are at one place.  **`key_coerce_eq_iff`** says so.
-/
import Tabular.Proofs.Binary64.Spelling
import Tabular.Value

namespace Tabular

/-! ## 1. Numbers and their places -/

namespace Binary64

variable {x y : Binary64}

theorem exists_place?_eq_some (h : x.isFinite = true) : ∃ i, x.place? = some i := by
  cases x with
  | finite negative u representable => exact ⟨_, rfl⟩
  | _ => simp [isFinite] at h

theorem compare?_eq_some {i j : Int} (hi : x.place? = some i) (hj : y.place? = some j) :
    x.compare? y = some (compare i j) := by
  rw [compare?, hi, hj]

theorem equals_iff (hx : x.isFinite = true) (hy : y.isFinite = true) :
    x.equals y = true ↔ x.place? = y.place? := by
  obtain ⟨i, hi⟩ := exists_place?_eq_some hx
  obtain ⟨j, hj⟩ := exists_place?_eq_some hy
  rw [equals, compare?, hi, hj, beq_iff_eq, Option.some.injEq, Option.some.injEq,
    Std.LawfulEqOrd.compare_eq_iff_eq]

/-- There is one number at every place but the middle one, where the zeros are. -/
theorem eq_or_zero_of_place? (hx : x.isFinite = true) (hy : y.isFinite = true)
    (h : x.place? = y.place?) : x = y ∨ ∃ s t, x = zero s ∧ y = zero t := by
  cases x with
  | finite s u hu =>
    cases y with
    | finite t v hv =>
      have hplaces : signed s u = signed t v := Option.some.inj h
      have hcases : (s = t ∧ u = v) ∨ (u = 0 ∧ v = 0) := by
        cases s <;> cases t <;> simp [signed] at hplaces ⊢ <;> omega
      rcases hcases with ⟨rfl, rfl⟩ | ⟨rfl, rfl⟩
      · exact Or.inl rfl
      · exact Or.inr ⟨s, t, rfl, rfl⟩
    | _ => simp [isFinite] at hy
  | _ => simp [isFinite] at hx

theorem place?_zero (s : Bool) : (zero s).place? = some 0 := by cases s <;> rfl

end Binary64

/-! ## 2. Values -/

namespace Value

/-- A value that is not a number, or a finite one.  Every text is such a value, as it is never
read as another number. -/
def IsFinite : Value → Prop
  | .number x => x.isFinite = true
  | _ => True

instance : DecidablePred IsFinite
  | .null => .isTrue trivial
  | .number x => inferInstanceAs (Decidable (x.isFinite = true))
  | .text _ => .isTrue trivial

/-- What a value is compared by: a null by nothing, a number by its place, and a text by its
characters. -/
def reading (v : Value) : Option (Int ⊕ String) :=
  match v.coerce with
  | .null => none
  | .number x => x.place?.map .inl
  | .text s => some (.inr s)

/-- What a finite value is read as: a null, a number with a place, or a text. -/
inductive ReadsAs (v : Value) : Prop
  | null (h : v.coerce = .null)
  | number (x : Binary64) (i : Int) (h : v.coerce = .number x) (finite : x.isFinite = true)
      (place : x.place? = some i)
  | text (s : String) (h : v.coerce = .text s)

/-- Is the value read as the zero of a sign? -/
def isZero (negative : Bool) (v : Value) : Bool := v.coerce = .number (.zero negative)

variable {v w : Value}

theorem IsFinite.coerce (h : v.IsFinite) : v.coerce.IsFinite := by
  cases v with
  | null => trivial
  | number x => exact h
  | text s =>
    rw [Value.coerce, ofLiteral]
    cases hnumber : readNumber (Text.unquote (Text.trim s.toList)) with
    | none => trivial
    | some x =>
      rw [readNumber, Option.filter_eq_some_iff] at hnumber
      exact hnumber.2

theorem IsFinite.readsAs (h : v.IsFinite) : v.ReadsAs := by
  have hfinite := h.coerce
  cases hv : v.coerce with
  | null => exact .null hv
  | number x =>
    rw [hv] at hfinite
    obtain ⟨i, hi⟩ := Binary64.exists_place?_eq_some hfinite
    exact .number x i hv hfinite hi
  | text s => exact .text s hv

/-- **Loose equality is equality of readings.** -/
theorem looselyEquals_iff (hv : v.IsFinite) (hw : w.IsFinite) :
    v.looselyEquals w = true ↔ v.reading = w.reading := by
  rcases hv.readsAs with hv | ⟨x, i, hv, hx, hi⟩ | ⟨s, hv⟩ <;>
    rcases hw.readsAs with hw | ⟨y, j, hw, hy, hj⟩ | ⟨t, hw⟩
  case number.number =>
    simp only [looselyEquals, reading, hv, hw, Binary64.equals_iff hx hy, hi, hj]
    simp
  all_goals simp [looselyEquals, reading, *]

/-- **Text forms tell apart what finite values are read as.** -/
theorem key_coerce_inj (hv : v.IsFinite) (hw : w.IsFinite) :
    v.coerce.key = w.coerce.key ↔ v.coerce = w.coerce := by
  refine ⟨fun h => ?_, fun h => congrArg key h⟩
  rcases hv.readsAs with hv | ⟨x, i, hv, hx, hi⟩ | ⟨s, hv⟩ <;>
    rcases hw.readsAs with hw | ⟨y, j, hw, hy, hj⟩ | ⟨t, hw⟩ <;>
    rw [hv, hw] at h ⊢
  case number.number =>
    rw [key, key, String.append_right_inj, Binary64.write_plain_inj hx hy] at h
    rw [h]
  case text.text =>
    rw [key, key, String.append_right_inj] at h
    rw [h]
  -- Forms of different kinds begin with different letters.
  all_goals simp [key, ← String.toList_inj] at h

/-- Values with one reading are read as the same, or as zeros. -/
theorem coerce_eq_or_zero (hv : v.IsFinite) (hw : w.IsFinite) (h : v.reading = w.reading) :
    v.coerce = w.coerce ∨
      ∃ s t, v.coerce = .number (.zero s) ∧ w.coerce = .number (.zero t) := by
  rcases hv.readsAs with hv | ⟨x, i, hv, hx, hi⟩ | ⟨s, hv⟩ <;>
    rcases hw.readsAs with hw | ⟨y, j, hw, hy, hj⟩ | ⟨t, hw⟩
  case number.number =>
    have hplace : x.place? = y.place? := by simpa [reading, hv, hw, hi, hj] using h
    rcases Binary64.eq_or_zero_of_place? hx hy hplace with rfl | ⟨s, t, rfl, rfl⟩
    · exact Or.inl (hv.trans hw.symm)
    · exact Or.inr ⟨s, t, hv, hw⟩
  all_goals simp_all [reading]

theorem coerce_eq_iff (hv : v.IsFinite) (hw : w.IsFinite) : v.coerce = w.coerce ↔
    v.reading = w.reading ∧ v.isZero true = w.isZero true := by
  constructor
  · intro h
    simp only [reading, isZero, h, and_self]
  · rintro ⟨hreading, hzero⟩
    rcases coerce_eq_or_zero hv hw hreading with heq | ⟨s, t, hs, ht⟩
    · exact heq
    · rw [isZero, isZero, hs, ht, decide_eq_decide] at hzero
      rw [hs, ht]
      cases s <;> cases t <;> simp [Binary64.zero] at hzero ⊢

/-- **Text forms and loose equality** make the same difference between finite values, but that the
zeros have two text forms. -/
theorem key_coerce_eq_iff (hv : v.IsFinite) (hw : w.IsFinite) :
    v.coerce.key = w.coerce.key ↔
      v.looselyEquals w = true ∧ v.isZero true = w.isZero true := by
  rw [key_coerce_inj hv hw, coerce_eq_iff hv hw, looselyEquals_iff hv hw]

end Value
end Tabular
