/-
# Counting different values

`COUNT(DISTINCT c)` counts the text forms of what the cells are read as, where conditions compare
cells by loose equality.  On finite values this is nearly one and the same
(`Value.key_coerce_eq_iff`): only the zeros, which are equal, have two text forms.

* `firsts_key_eq_of_not_hasBothZeros`: where at most one of the zeros comes up, values of one text
  form are the values that are equal;
* `length_firsts_key`: where both come up, there is a text form more than there are classes of
  equal values;
* **`value_countDistinct`**: so this is what the call gives, and it gives a number for all rows
  that have the column.
-/
import Tabular.Proofs.Relation.Distinct
import Tabular.Proofs.Value.Reading
import Tabular.Relation.Reduce

namespace Tabular

/-! ## 1. Classes of equal values -/

namespace Value

open Tabular.Relation (firsts firsts_congr length_firsts)

/-- The classes of the values under loose equality, each with all of its members. -/
def classes (values : List Value) : Finset (List Value) :=
  (values.map fun v => values.filter fun w => w.looselyEquals v).toFinset

/-- Do both zeros come up among the values? -/
def HasBothZeros (values : List Value) : Prop :=
  ∀ negative : Bool, ∃ v ∈ values, v.isZero negative = true

instance : DecidablePred HasBothZeros := fun values =>
  inferInstanceAs (Decidable (∀ negative : Bool, ∃ v ∈ values, v.isZero negative = true))

variable {values : List Value}

/-- Two members have one class just if they are read alike. -/
theorem class_eq_iff (h : ∀ v ∈ values, v.IsFinite) {v w : Value} (hv : v ∈ values)
    (hw : w ∈ values) : (values.filter fun u => u.looselyEquals v) =
      (values.filter fun u => u.looselyEquals w) ↔ v.reading = w.reading := by
  constructor
  · intro hclass
    have hmem : v ∈ values.filter fun u => u.looselyEquals v :=
      List.mem_filter.mpr ⟨hv, (looselyEquals_iff (h v hv) (h v hv)).mpr rfl⟩
    rw [hclass] at hmem
    exact (looselyEquals_iff (h v hv) (h w hw)).mp (List.mem_filter.mp hmem).2
  · intro hreading
    refine List.filter_congr fun u hu => ?_
    rw [Bool.eq_iff_iff, looselyEquals_iff (h u hu) (h v hv), looselyEquals_iff (h u hu) (h w hw),
      hreading]

theorem card_classes (h : ∀ v ∈ values, v.IsFinite) :
    (classes values).card = (firsts reading values).length := by
  rw [classes, ← length_firsts]
  exact congrArg List.length (firsts_congr fun v hv w hw => class_eq_iff h hv hw)

/-! ## 2. Text forms -/

theorem firsts_key_eq_of_not_hasBothZeros (h : ∀ v ∈ values, v.IsFinite)
    (hzeros : ¬HasBothZeros values) :
    firsts (fun v => v.coerce.key) values = firsts reading values := by
  refine firsts_congr fun v hv w hw => ?_
  rw [key_coerce_eq_iff (h v hv) (h w hw), looselyEquals_iff (h v hv) (h w hw)]
  refine ⟨And.left, fun hreading => ⟨hreading, ?_⟩⟩
  rcases coerce_eq_or_zero (h v hv) (h w hw) hreading with heq | ⟨s, t, hs, ht⟩
  · rw [isZero, isZero, heq]
  · -- Zeros of two signs would be both zeros.
    by_cases hst : s = t
    · rw [isZero, isZero, hs, ht, hst]
    · refine absurd (fun negative => ?_) hzeros
      rcases Bool.eq_or_eq_not negative s with rfl | rfl
      · exact ⟨v, hv, decide_eq_true hs⟩
      · refine ⟨w, hw, decide_eq_true ?_⟩
        rw [ht, Bool.eq_not_of_ne fun e => hst e.symm]

/-- The values without the negative zeros. -/
def withoutNegativeZeros (values : List Value) : List Value :=
  values.filter fun v => !v.isZero true

theorem mem_withoutNegativeZeros {v : Value} :
    v ∈ withoutNegativeZeros values ↔ v ∈ values ∧ v.isZero true = false := by
  rw [withoutNegativeZeros, List.mem_filter, Bool.not_eq_true']

theorem not_hasBothZeros_withoutNegativeZeros (values : List Value) :
    ¬HasBothZeros (withoutNegativeZeros values) := by
  intro hzeros
  obtain ⟨v, hv, hzero⟩ := hzeros true
  rw [(mem_withoutNegativeZeros.mp hv).2] at hzero
  exact Bool.false_ne_true hzero

theorem reading_of_isZero {v : Value} {negative : Bool} (h : v.isZero negative = true) :
    v.reading = some (.inl 0) := by
  have hcoerce : v.coerce = .number (.zero negative) := of_decide_eq_true h
  simp only [reading, hcoerce, Binary64.place?_zero, Option.map_some]

/-- Negative zeros have one text form, and nothing else has it. -/
theorem toFinset_keys_eq_insert (h : ∀ v ∈ values, v.IsFinite) {z : Value} (hz : z ∈ values)
    (hzero : z.isZero true = true) : (values.map fun v => v.coerce.key).toFinset =
      insert z.coerce.key ((withoutNegativeZeros values).map fun v => v.coerce.key).toFinset ∧
      z.coerce.key ∉ ((withoutNegativeZeros values).map fun v => v.coerce.key).toFinset := by
  constructor
  · ext k
    simp only [List.mem_toFinset, Finset.mem_insert, List.mem_map, mem_withoutNegativeZeros]
    constructor
    · rintro ⟨v, hv, rfl⟩
      cases hnegative : v.isZero true with
      | false => exact Or.inr ⟨v, ⟨hv, hnegative⟩, rfl⟩
      | true =>
        have hsame : v.coerce = z.coerce :=
          (of_decide_eq_true hnegative).trans (of_decide_eq_true hzero).symm
        exact Or.inl (congrArg key hsame)
    · rintro (rfl | ⟨v, ⟨hv, -⟩, rfl⟩)
      · exact ⟨z, hz, rfl⟩
      · exact ⟨v, hv, rfl⟩
  · rw [List.mem_toFinset, List.mem_map]
    rintro ⟨v, hv, hkey⟩
    obtain ⟨hv, hnegative⟩ := mem_withoutNegativeZeros.mp hv
    have hzeros := ((key_coerce_eq_iff (h v hv) (h z hz)).mp hkey).2
    rw [hnegative, hzero] at hzeros
    exact Bool.false_ne_true hzeros

/-- Where there is another zero, they are read as it is. -/
theorem toFinset_readings_eq {z : Value} (hz : z ∈ values) (hzero : z.isZero false = true) :
    (values.map reading).toFinset = ((withoutNegativeZeros values).map reading).toFinset := by
  have hpositive : z.isZero true = false := by
    have hcoerce : z.coerce = .number (.zero false) := of_decide_eq_true hzero
    rw [isZero, hcoerce]
    decide
  ext r
  simp only [List.mem_toFinset, List.mem_map, mem_withoutNegativeZeros]
  constructor
  · rintro ⟨v, hv, rfl⟩
    cases hnegative : v.isZero true with
    | false => exact ⟨v, ⟨hv, hnegative⟩, rfl⟩
    | true =>
      refine ⟨z, ⟨hz, hpositive⟩, ?_⟩
      rw [reading_of_isZero hzero, reading_of_isZero hnegative]
  · rintro ⟨v, ⟨hv, -⟩, rfl⟩
    exact ⟨v, hv, rfl⟩

/-- **There are as many text forms as classes**, and one more where both zeros come up. -/
theorem length_firsts_key (h : ∀ v ∈ values, v.IsFinite) :
    (firsts (fun v => v.coerce.key) values).length =
      (classes values).card + if HasBothZeros values then 1 else 0 := by
  rw [card_classes h]
  by_cases hzeros : HasBothZeros values
  · obtain ⟨z, hz, hnegative⟩ := hzeros true
    obtain ⟨z', hz', hpositive⟩ := hzeros false
    obtain ⟨hinsert, hnew⟩ := toFinset_keys_eq_insert h hz hnegative
    have hothers : ∀ v ∈ withoutNegativeZeros values, v.IsFinite :=
      fun v hv => h v (mem_withoutNegativeZeros.mp hv).1
    rw [if_pos hzeros, length_firsts, hinsert, Finset.card_insert_of_notMem hnew, length_firsts,
      toFinset_readings_eq hz' hpositive, ← length_firsts, ← length_firsts,
      firsts_key_eq_of_not_hasBothZeros hothers (not_hasBothZeros_withoutNegativeZeros values)]
  · rw [if_neg hzeros, Nat.add_zero, firsts_key_eq_of_not_hasBothZeros h hzeros]

end Value

/-! ## 3. The aggregate -/

namespace AggregateFunction

variable {reference primary : String} {rows : List Row}

/-- The cells of a column that are there and not null. -/
def presentCells (reference primary : String) (rows : List Row) : List Value :=
  present (rows.filterMap fun row => row.resolve? reference primary)

theorem mem_presentCells {v : Value} (h : v ∈ presentCells reference primary rows) :
    ∃ row ∈ rows, row.resolve? reference primary = some v :=
  List.mem_filterMap.mp (List.mem_filter.mp h).1

theorem mapM_resolve_rows (h : ∀ row ∈ rows, (row.resolve? reference primary).isSome) :
    rows.mapM (Row.resolve · reference primary) =
      .ok (rows.filterMap fun row => row.resolve? reference primary) := by
  induction rows with
  | nil => rfl
  | cons row rows ih =>
    obtain ⟨v, hv⟩ := Option.isSome_iff_exists.mp (h row List.mem_cons_self)
    rw [List.mapM_cons, ih fun r hr => h r (List.mem_cons_of_mem _ hr), Row.resolve, hv,
      List.filterMap_cons, hv]
    rfl

/-- A call on a column reduces its cells. -/
theorem value_column (h : ∀ row ∈ rows, (row.resolve? reference primary).isSome)
    (function : AggregateFunction) (distinct : Bool) :
    (⟨function, .column reference, distinct⟩ : AggregateCall).value primary rows =
      .ok (function.reduce distinct
        (rows.filterMap fun row => row.resolve? reference primary)) := by
  change (rows.mapM (Row.resolve · reference primary)).map (function.reduce distinct) = _
  rw [mapM_resolve_rows h]
  rfl

/-- The call counts the text forms of the cells that are there. -/
theorem value_eq_countDistinct (h : ∀ row ∈ rows, (row.resolve? reference primary).isSome) :
    (⟨.count, .column reference, true⟩ : AggregateCall).value primary rows =
      .ok (countValue (Relation.firsts (fun v : Value => v.coerce.key)
        (presentCells reference primary rows)).length) :=
  value_column h count true

/-- **Counting different values and equality.**  The text forms that tell values apart do so as
loose equality does, but that they part the two zeros.  On rows that all have the column, with
finite values there, the call counts the classes of equal cells that are not null, and one more if
and only if both zeros are among them. -/
theorem value_countDistinct
    (h : ∀ row ∈ rows, ∃ v, row.resolve? reference primary = some v ∧ v.IsFinite) :
    (∀ v w : Value, v.IsFinite → w.IsFinite → (v.coerce.key = w.coerce.key ↔
        v.looselyEquals w = true ∧ v.isZero true = w.isZero true)) ∧
      (⟨.count, .column reference, true⟩ : AggregateCall).value primary rows =
        .ok (countValue ((Value.classes (presentCells reference primary rows)).card +
          if Value.HasBothZeros (presentCells reference primary rows) then 1 else 0)) := by
  refine ⟨fun v w => Value.key_coerce_eq_iff, ?_⟩
  have hsome : ∀ row ∈ rows, (row.resolve? reference primary).isSome := by
    intro row hrow
    obtain ⟨v, hv, -⟩ := h row hrow
    rw [hv]
    rfl
  have hfinite : ∀ v ∈ presentCells reference primary rows, v.IsFinite := by
    intro v hv
    obtain ⟨row, hrow, hrowv⟩ := mem_presentCells hv
    obtain ⟨w, hw, hwfinite⟩ := h row hrow
    obtain rfl : w = v := Option.some.inj (hw.symm.trans hrowv)
    exact hwfinite
  rw [value_eq_countDistinct hsome, Value.length_firsts_key hfinite]

/-- One number in two spellings, both zeros, one text with and without quotes, and a null. -/
def spelledCells : List Row :=
  ["1", "-0", "1.0", "x", "0", "'x'"].map (fun s => Row.ofList [("c", .text s)]) ++
    [Row.ofList [("c", .null)]]

theorem value_countDistinct_spelled :
    (∀ row ∈ spelledCells, ∃ v, row.resolve? "t.c" "t" = some v ∧ v.IsFinite) ∧
      (⟨.count, .column "t.c", true⟩ : AggregateCall).value "t" spelledCells =
        .ok (countValue 4) := by
  have hrows : ∀ row ∈ spelledCells, ∃ v, row.resolve? "t.c" "t" = some v ∧ v.IsFinite := by
    have hcells : ∀ row ∈ spelledCells, ∃ v ∈ row.resolve? "t.c" "t", v.IsFinite := by
      decide +kernel
    exact hcells
  have hcard : (Value.classes (presentCells "t.c" "t" spelledCells)).card = 3 := by decide +kernel
  have hzeros : Value.HasBothZeros (presentCells "t.c" "t" spelledCells) := by decide +kernel
  have hcount := (value_countDistinct hrows).2
  rw [hcard, if_pos hzeros] at hcount
  exact ⟨hrows, hcount⟩

/-- **Equal values that are counted apart**: there is one class of cells, and the call counts two. -/
theorem value_countDistinct_zeros :
    (Value.text "0").looselyEquals (.text "-0") = true ∧
      (Value.text "0").coerce.key ≠ (Value.text "-0").coerce.key ∧
      Value.classes [.text "0", .text "-0"] = {[.text "0", .text "-0"]} ∧
      countDistinct [.text "0", .text "-0"] = 2 := by
  decide +kernel

end AggregateFunction
end Tabular
