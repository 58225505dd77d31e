/-
# Where sorting is an order

Two numbers are sorted by their places, and a text among numbers by the characters in which they
are shown.  The two rules can disagree: `10` stands before `1a`, and `1a` before `9`.  This is the
only way in which `Value.sortOrder` fails to be an order: a text `splits` two numbers if it stands
between them although the lesser number is shown behind the greater one.

* `sortOrder_trans`: three values are in order if none of them splits the other two;
* **`sortOrder_trans_iff`**: so a set of values is sorted consistently exactly if none of its
  texts splits two of its numbers.
-/
import Tabular.Proofs.Relation.Sorting
import Tabular.Proofs.Value.Reading
import Mathlib.Data.Set.Defs

namespace Tabular
namespace Value

variable {x y : Binary64} {a b c t v w : Value}

/-! ## 1. Numbers as they are shown -/

/-- Numbers at one place are shown alike: both zeros are `0`. -/
theorem displayNumber_congr (hx : x.isFinite = true) (hy : y.isFinite = true)
    (h : x.place? = y.place?) : displayNumber x = displayNumber y := by
  have hzero : ∀ s, displayNumber (.zero s) = "0" := by
    intro s
    have hinteger : asInteger (.zero s) = some 0 := by cases s <;> decide +kernel
    rw [displayNumber, hinteger]
    rfl
  rcases Binary64.eq_or_zero_of_place? hx hy h with rfl | ⟨s, t, rfl, rfl⟩
  · rfl
  · rw [hzero, hzero]

/-! ## 2. Two values -/

/-- A text stands between two numbers of which the lesser is shown behind the greater: at that of
the greater one or behind it, and at that of the lesser one or in front of it. -/
def splits (t v w : Value) : Bool :=
  match t.coerce, v.coerce, w.coerce with
  | .text s, .number x, .number y =>
    x.compare? y = some .lt && (compare (displayNumber y) s).isLE &&
      (compare s (displayNumber x)).isLE
  | _, _, _ => false

/-- A null comes first. -/
theorem isLE_sortOrder_of_null (h : v.coerce = .null) : (v.sortOrder w).isLE = true := by
  unfold sortOrder
  cases w.coerce <;> simp [h]

theorem null_of_isLE_sortOrder (hw : w.coerce = .null) (h : (v.sortOrder w).isLE = true) :
    v.coerce = .null := by
  unfold sortOrder at h
  cases hv : v.coerce <;> simp [hv, hw] at h ⊢

theorem sortOrder_text_number {s : String} (hv : v.coerce = .text s) (hw : w.coerce = .number x) :
    v.sortOrder w = compare s (displayNumber x) := by
  simp only [sortOrder, hv, hw, display]

theorem sortOrder_number_text {s : String} (hv : v.coerce = .number x) (hw : w.coerce = .text s) :
    v.sortOrder w = compare (displayNumber x) s := by
  simp only [sortOrder, hv, hw, display]

theorem sortOrder_numbers (hv : v.coerce = .number x) (hw : w.coerce = .number y) :
    v.sortOrder w = (x.compare? y).getD .eq := by
  simp only [sortOrder, hv, hw]

/-- Of two numbers in order, the first is less or both are shown alike. -/
theorem lt_or_shown_alike (hx : x.isFinite = true) (hy : y.isFinite = true)
    (h : ((x.compare? y).getD .eq).isLE = true) :
    x.compare? y = some .lt ∨ displayNumber x = displayNumber y := by
  obtain ⟨i, hi⟩ := Binary64.exists_place?_eq_some hx
  obtain ⟨j, hj⟩ := Binary64.exists_place?_eq_some hy
  have hcompare := Binary64.compare?_eq_some hi hj
  rw [hcompare, Option.getD_some] at h
  rcases Ordering.isLE_iff_eq_lt_or_eq_eq.mp h with hlt | heq
  · exact Or.inl (by rw [hcompare, hlt])
  · have hij : i = j := Std.LawfulEqOrd.compare_eq_iff_eq.mp heq
    exact Or.inr (displayNumber_congr hx hy (by rw [hi, hj, hij]))

theorem lt_of_not_isLE (hx : x.isFinite = true) (hy : y.isFinite = true)
    (h : ¬((y.compare? x).getD .eq).isLE = true) : x.compare? y = some .lt := by
  obtain ⟨i, hi⟩ := Binary64.exists_place?_eq_some hx
  obtain ⟨j, hj⟩ := Binary64.exists_place?_eq_some hy
  rw [Binary64.compare?_eq_some hj hi, Option.getD_some] at h
  rw [Binary64.compare?_eq_some hi hj, Std.OrientedCmp.lt_of_not_isLE h]

/-! ## 3. Three values -/

section Splits

variable {s : String} (ht : t.coerce = .text s) (hv : v.coerce = .number x)
  (hw : w.coerce = .number y) (hx : x.isFinite = true) (hy : y.isFinite = true)

include ht hv hw

theorem splits_iff : t.splits v w = true ↔ x.compare? y = some .lt ∧
    (compare (displayNumber y) s).isLE = true ∧ (compare s (displayNumber x)).isLE = true := by
  simp only [splits, ht, hv, hw, Bool.and_eq_true, decide_eq_true_eq, and_assoc]

include hx hy

/-- A text in front of a number is in front of a greater one, if it does not split them. -/
theorem isLE_text_of_not_splits (h : t.splits v w = false) (htv : (t.sortOrder v).isLE = true)
    (hvw : (v.sortOrder w).isLE = true) : (t.sortOrder w).isLE = true := by
  rw [sortOrder_text_number ht hv] at htv
  rw [sortOrder_numbers hv hw] at hvw
  rw [sortOrder_text_number ht hw]
  rcases lt_or_shown_alike hx hy hvw with hlt | heq
  · by_contra hnot
    have hback : (compare (displayNumber y) s).isLE = true :=
      Ordering.isLE_of_eq_lt (Std.OrientedCmp.lt_of_not_isLE hnot)
    rw [(splits_iff ht hv hw).mpr ⟨hlt, hback, htv⟩] at h
    exact Bool.noConfusion h
  · rwa [← heq]

/-- A text behind a number is behind a lesser one, if it does not split them. -/
theorem isLE_number_of_not_splits (h : t.splits v w = false) (hvw : (v.sortOrder w).isLE = true)
    (hwt : (w.sortOrder t).isLE = true) : (v.sortOrder t).isLE = true := by
  rw [sortOrder_numbers hv hw] at hvw
  rw [sortOrder_number_text hw ht] at hwt
  rw [sortOrder_number_text hv ht]
  rcases lt_or_shown_alike hx hy hvw with hlt | heq
  · by_contra hnot
    have hback : (compare s (displayNumber x)).isLE = true :=
      Ordering.isLE_of_eq_lt (Std.OrientedCmp.lt_of_not_isLE hnot)
    rw [(splits_iff ht hv hw).mpr ⟨hlt, hwt, hback⟩] at h
    exact Bool.noConfusion h
  · rwa [heq]

/-- A text between two numbers has the lesser one in front, if it does not split them. -/
theorem isLE_numbers_of_not_splits (h : t.splits v w = false) (hwt : (w.sortOrder t).isLE = true)
    (htv : (t.sortOrder v).isLE = true) : (w.sortOrder v).isLE = true := by
  by_contra hnot
  rw [sortOrder_numbers hw hv] at hnot
  rw [sortOrder_number_text hw ht] at hwt
  rw [sortOrder_text_number ht hv] at htv
  rw [(splits_iff ht hv hw).mpr ⟨lt_of_not_isLE hx hy hnot, hwt, htv⟩] at h
  exact Bool.noConfusion h

end Splits

/-- **Three values are in order** if the first two and the last two are, and none of the three
splits the others. -/
theorem sortOrder_trans (ha : a.IsFinite) (hb : b.IsFinite) (hc : c.IsFinite)
    (hsplits : a.splits b c = false ∧ b.splits c a = false ∧ c.splits a b = false)
    (hab : (a.sortOrder b).isLE = true) (hbc : (b.sortOrder c).isLE = true) :
    (a.sortOrder c).isLE = true := by
  obtain ⟨hfirst, hmiddle, hlast⟩ := hsplits
  rcases ha.readsAs with hna | ⟨x, i, hna, hx, -⟩ | ⟨r, hna⟩
  case null => exact isLE_sortOrder_of_null hna
  all_goals
    rcases hb.readsAs with hnb | ⟨y, j, hnb, hy, -⟩ | ⟨s, hnb⟩
    case null => simp [null_of_isLE_sortOrder hnb hab] at hna
    all_goals
      rcases hc.readsAs with hnc | ⟨z, k, hnc, hz, -⟩ | ⟨t, hnc⟩
      case null => simp [null_of_isLE_sortOrder hnc hbc] at hnb
  case number.number.number =>
    have hnumeric : a.isNumeric ∧ b.isNumeric ∧ c.isNumeric := by
      simp [isNumeric, hna, hnb, hnc, hx, hy, hz]
    obtain ⟨ha', hb', hc'⟩ := hnumeric
    rw [sortOrder_of_isNumeric ha' hb'] at hab
    rw [sortOrder_of_isNumeric hb' hc'] at hbc
    rw [sortOrder_of_isNumeric ha' hc']
    exact Std.TransOrd.isLE_trans hab hbc
  case number.number.text => exact isLE_number_of_not_splits hnc hna hnb hx hy hlast hab hbc
  case number.text.number => exact isLE_numbers_of_not_splits hnb hnc hna hz hx hmiddle hab hbc
  case text.number.number => exact isLE_text_of_not_splits hna hnb hnc hy hz hfirst hab hbc
  -- With two texts or three, all pairs of the values are sorted by their characters.
  all_goals
    simp only [sortOrder, hna, hnb, hnc] at hab hbc ⊢
    exact Std.TransOrd.isLE_trans hab hbc

/-- A text that splits two numbers is behind the greater one and in front of the lesser one. -/
theorem sortOrder_of_splits (h : t.splits v w = true) : (w.sortOrder t).isLE = true ∧
    (t.sortOrder v).isLE = true ∧ ¬(w.sortOrder v).isLE = true := by
  unfold splits at h
  split at h
  · rename_i s x y ht hv hw
    simp only [Bool.and_eq_true, decide_eq_true_eq] at h
    obtain ⟨⟨hlt, hwt⟩, htv⟩ := h
    rw [sortOrder_number_text hw ht, sortOrder_text_number ht hv, ← sortOrder_swap,
      sortOrder_numbers hv hw, hlt]
    exact ⟨hwt, htv, by decide⟩
  · simp at h

/-! ## 4. Sets of values -/

/-- **Where sorting is an order.**  Of any two values either stands in front of the other, or both
at one place.  Three finite values of a set of them are always in order if the first two and the
last two are, if and only if no text of the set splits two of its numbers. -/
theorem sortOrder_trans_iff {S : Set Value} (hS : ∀ v ∈ S, v.IsFinite) :
    (∀ v w : Value, w.sortOrder v = (v.sortOrder w).swap) ∧
      ((∀ a ∈ S, ∀ b ∈ S, ∀ c ∈ S, (a.sortOrder b).isLE = true → (b.sortOrder c).isLE = true →
          (a.sortOrder c).isLE = true) ↔
        ∀ t ∈ S, ∀ v ∈ S, ∀ w ∈ S, t.splits v w = false) := by
  refine ⟨fun v w => (sortOrder_swap v w).symm, ?_, ?_⟩
  · intro htrans t ht v hv w hw
    rw [← Bool.not_eq_true]
    intro hsplits
    obtain ⟨hwt, htv, hwv⟩ := sortOrder_of_splits hsplits
    exact hwv (htrans w hw t ht v hv hwt htv)
  · intro hsplits a ha b hb c hc
    exact sortOrder_trans (hS a ha) (hS b hb) (hS c hc)
      ⟨hsplits a ha b hb c hc, hsplits b hb c hc a ha, hsplits c hc a ha b hb⟩

/-- A null, numbers in several spellings, and texts that stand in front of them or behind. -/
def unsplit : List Value :=
  [.null, .text "10", .text " 9.5 ", .text "'-0'", .text "0", .text "abc", .text "", .number (.ofNat 7)]

theorem sortOrder_trans_unsplit : (∀ v ∈ unsplit, v.IsFinite) ∧
    ∀ a ∈ unsplit, ∀ b ∈ unsplit, ∀ c ∈ unsplit, (a.sortOrder b).isLE = true →
      (b.sortOrder c).isLE = true → (a.sortOrder c).isLE = true := by
  have hfinite : ∀ v ∈ unsplit, v.IsFinite := by decide +kernel
  have hsplits : ∀ t ∈ unsplit, ∀ v ∈ unsplit, ∀ w ∈ unsplit, t.splits v w = false := by
    decide +kernel
  exact ⟨hfinite, (sortOrder_trans_iff (S := {v | v ∈ unsplit}) hfinite).2.mpr hsplits⟩

/-- **Not every three values are in order**: the text stands behind the greater number and in
front of the lesser one. -/
theorem sortOrder_cycle : (Value.text "10").sortOrder (.text "1a") = .lt ∧
    (Value.text "1a").sortOrder (.text "9") = .lt ∧
    (Value.text "10").sortOrder (.text "9") = .gt := by
  decide +kernel

end Value
end Tabular
