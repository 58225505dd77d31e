/-
# What aggregates reduce a column to

A call on a column looks at the cells of the column only, and in each cell at what it is read as.
It fails where a row does not have the column, and nowhere else.

The least and the greatest number are found in one pass that keeps one of two numbers at every
step.  What carries the argument is that no number so far is beyond the one that is kept
(`Binary64.Chooses`); being no further out is transitive, so this holds at the end.  The number
that is found is then the same, up to the sign of a zero, in whatever order the rows stand
(`IsExtreme.equals`).

* `value_eq_error_iff`: where calls on a column fail;
* `exists_isExtreme`: the extreme of some cells is one of their numbers, and none is beyond it;
* **`reductions`**: what the calls give.
-/
import Tabular.Proofs.Binary64.Counts
import Tabular.Proofs.Relation.DistinctCount

namespace Tabular

/-! ## 1. A choice between two numbers -/

namespace Binary64

variable {beyond : Ordering} {choose : Binary64 → Binary64 → Binary64} {x y z : Binary64}

/-- A choice between two finite numbers: the second one is taken if it is beyond the first. -/
def Chooses (beyond : Ordering) (choose : Binary64 → Binary64 → Binary64) : Prop :=
  ∀ x y : Binary64, x.isFinite = true → y.isFinite = true →
    choose x y = if y.compare? x = some beyond then y else x

theorem compare?_self (hx : x.isFinite = true) : x.compare? x = some .eq := by
  obtain ⟨i, hi⟩ := exists_place?_eq_some hx
  rw [compare?_eq_some hi hi]
  exact congrArg some Std.ReflCmp.compare_self

/-- Two numbers compared in both orders. -/
theorem compare?_swap (hx : x.isFinite = true) (hy : y.isFinite = true) :
    y.compare? x = (x.compare? y).map Ordering.swap := by
  obtain ⟨i, hi⟩ := exists_place?_eq_some hx
  obtain ⟨j, hj⟩ := exists_place?_eq_some hy
  rw [compare?_eq_some hi hj, compare?_eq_some hj hi, Option.map_some]
  exact congrArg some Std.OrientedCmp.eq_swap

theorem min_chooses : Chooses .lt Binary64.min := by
  intro x y hx hy
  obtain ⟨i, hi⟩ := exists_place?_eq_some hx
  obtain ⟨j, hj⟩ := exists_place?_eq_some hy
  rw [Binary64.min, compare?_swap hx hy, compare?_eq_some hi hj]
  cases compare i j <;> rfl

theorem max_chooses : Chooses .gt Binary64.max := by
  intro x y hx hy
  obtain ⟨i, hi⟩ := exists_place?_eq_some hx
  obtain ⟨j, hj⟩ := exists_place?_eq_some hy
  rw [Binary64.max, compare?_swap hx hy, compare?_eq_some hi hj]
  cases compare i j <;> rfl

/-- What is chosen is one of the two, and neither is beyond it. -/
theorem Chooses.spec (h : Chooses beyond choose) (hbeyond : beyond ≠ .eq) (hx : x.isFinite = true)
    (hy : y.isFinite = true) : (choose x y = x ∨ choose x y = y) ∧
      x.compare? (choose x y) ≠ some beyond ∧ y.compare? (choose x y) ≠ some beyond := by
  have hself : some Ordering.eq ≠ some beyond := fun heq => hbeyond (Option.some.inj heq).symm
  rw [h x y hx hy]
  split
  · rename_i hbetter
    refine ⟨Or.inr rfl, ?_, compare?_self hy ▸ hself⟩
    rw [compare?_swap hy hx, hbetter]
    cases beyond <;> simp at hbeyond ⊢
  · rename_i hbetter
    exact ⟨Or.inl rfl, compare?_self hx ▸ hself, hbetter⟩

/-- Being no further out is transitive. -/
theorem not_beyond_trans (hbeyond : beyond ≠ .eq) (hx : x.isFinite = true) (hy : y.isFinite = true)
    (hz : z.isFinite = true) (hxy : x.compare? y ≠ some beyond) (hyz : y.compare? z ≠ some beyond) :
    x.compare? z ≠ some beyond := by
  obtain ⟨i, hi⟩ := exists_place?_eq_some hx
  obtain ⟨j, hj⟩ := exists_place?_eq_some hy
  obtain ⟨k, hk⟩ := exists_place?_eq_some hz
  rw [compare?_eq_some hi hj, ne_eq, Option.some.injEq] at hxy
  rw [compare?_eq_some hj hk, ne_eq, Option.some.injEq] at hyz
  rw [compare?_eq_some hi hk, ne_eq, Option.some.injEq]
  cases beyond with
  | eq => exact absurd rfl hbeyond
  | lt =>
    rw [compare_lt_iff_lt] at *
    omega
  | gt =>
    rw [compare_gt_iff_gt] at *
    omega

/-- **One pass over numbers** ends at one of them, and none of them is beyond it. -/
theorem Chooses.foldl (h : Chooses beyond choose) (hbeyond : beyond ≠ .eq) {numbers : List Binary64}
    (hfinite : ∀ y ∈ x :: numbers, y.isFinite = true) :
    numbers.foldl choose x ∈ x :: numbers ∧
      ∀ y ∈ x :: numbers, y.compare? (numbers.foldl choose x) ≠ some beyond := by
  induction numbers generalizing x with
  | nil =>
    refine ⟨List.mem_cons_self, fun y hy => ?_⟩
    obtain rfl := List.mem_singleton.mp hy
    rw [List.foldl_nil, compare?_self (hfinite y hy), ne_eq, Option.some.injEq]
    exact hbeyond.symm
  | cons z numbers ih =>
    have hx := hfinite x List.mem_cons_self
    have hz := hfinite z (by simp)
    obtain ⟨htaken, hleft, hright⟩ := h.spec hbeyond hx hz
    have hchosen : (choose x z).isFinite = true := by
      rcases htaken with heq | heq <;> rw [heq] <;> assumption
    have hrest : ∀ y ∈ choose x z :: numbers, y.isFinite = true := by
      intro y hy
      rcases List.mem_cons.mp hy with rfl | hy
      · exact hchosen
      · exact hfinite y (by simp [hy])
    obtain ⟨hmem, hbest⟩ := ih hrest
    have hend := hrest _ hmem
    have hkept := hbest _ List.mem_cons_self
    rw [List.foldl_cons]
    refine ⟨?_, fun y hy => ?_⟩
    · rcases List.mem_cons.mp hmem with heq | hmem
      · rw [heq]
        rcases htaken with heq | heq <;> simp [heq]
      · simp [hmem]
    · rcases List.mem_cons.mp hy with rfl | hy
      · exact not_beyond_trans hbeyond hx hchosen hend hleft hkept
      · rcases List.mem_cons.mp hy with rfl | hy
        · exact not_beyond_trans hbeyond hz hchosen hend hright hkept
        · exact hbest y (List.mem_cons_of_mem _ hy)

end Binary64

/-! ## 2. Reductions of cells -/

namespace AggregateFunction

variable {function : AggregateFunction} {beyond : Ordering} {values values' : List Value}
  {x x' : Binary64}

/-- Which numbers are further out for a function that looks for an extreme. -/
def beyond? : AggregateFunction → Option Ordering
  | min => some .lt
  | max => some .gt
  | _ => none

/-- The values have the number, and none that is beyond it. -/
structure IsExtreme (beyond : Ordering) (values : List Value) (x : Binary64) : Prop where
  taken : ∃ v ∈ values, v.asNumber = some x
  best : ∀ v ∈ values, ∀ y, v.asNumber = some y → y.compare? x ≠ some beyond

theorem isFinite_of_asNumber {v : Value} (hv : v.IsFinite) (h : v.asNumber = some x) :
    x.isFinite = true := by
  have hfinite := hv.coerce
  unfold Value.asNumber at h
  split at h
  · rename_i y hy
    rw [hy] at hfinite
    rwa [← Option.some.inj h]
  · exact absurd h (by simp)

/-- A function that looks for an extreme makes one pass over the numbers. -/
theorem reduce_of_beyond? (h : function.beyond? = some beyond) :
    beyond ≠ .eq ∧ ∃ choose, Binary64.Chooses beyond choose ∧ ∀ distinct values,
      function.reduce distinct values = extreme choose (values.filterMap Value.asNumber) := by
  cases function <;> simp only [beyond?, reduceCtorEq, Option.some.injEq] at h
  · subst h
    exact ⟨by decide, _, Binary64.min_chooses, fun _ _ => rfl⟩
  · subst h
    exact ⟨by decide, _, Binary64.max_chooses, fun _ _ => rfl⟩

/-- **The extreme of values with a number** is one of their numbers, and none is beyond it. -/
theorem exists_isExtreme (h : function.beyond? = some beyond) (hfinite : ∀ v ∈ values, v.IsFinite)
    (hnumber : ∃ v ∈ values, v.asNumber.isSome) (distinct : Bool) :
    ∃ x, function.reduce distinct values = .number x ∧ IsExtreme beyond values x := by
  obtain ⟨hbeyond, choose, hchooses, hreduce⟩ := reduce_of_beyond? h
  have hmem : ∀ {y : Binary64}, y ∈ values.filterMap Value.asNumber ↔
      ∃ v ∈ values, v.asNumber = some y := List.mem_filterMap
  rw [hreduce]
  cases hnumbers : values.filterMap Value.asNumber with
  | nil =>
    obtain ⟨v, hv, hsome⟩ := hnumber
    obtain ⟨y, hy⟩ := Option.isSome_iff_exists.mp hsome
    have hy' := hmem.mpr ⟨v, hv, hy⟩
    rw [hnumbers] at hy'
    exact absurd hy' List.not_mem_nil
  | cons first rest =>
    rw [hnumbers] at hmem
    have hnumbersFinite : ∀ y ∈ first :: rest, y.isFinite = true := by
      intro y hy
      obtain ⟨v, hv, hvy⟩ := hmem.mp hy
      exact isFinite_of_asNumber (hfinite v hv) hvy
    obtain ⟨htaken, hbest⟩ := hchooses.foldl hbeyond hnumbersFinite
    exact ⟨_, rfl, hmem.mp htaken, fun v hv y hy => hbest y (hmem.mpr ⟨v, hv, hy⟩)⟩

/-- The mean and the extremes are null just for values without a number. -/
theorem reduce_eq_null_iff (h : function ∈ [avg, min, max]) (distinct : Bool) :
    function.reduce distinct values = .null ↔ ∀ v ∈ values, v.asNumber = none := by
  rw [← List.filterMap_eq_nil_iff]
  simp only [List.mem_cons, List.not_mem_nil, or_false] at h
  rcases h with rfl | rfl | rfl
  · change mean (values.filterMap Value.asNumber) = .null ↔ _
    simp [mean]
  all_goals
    unfold reduce
    cases values.filterMap Value.asNumber <;> simp [extreme]

/-- Values with the same members have extremes that are equal. -/
theorem IsExtreme.equals (hx : IsExtreme beyond values x) (hx' : IsExtreme beyond values' x')
    (hbeyond : beyond ≠ .eq) (hfinite : ∀ v ∈ values, v.IsFinite)
    (hmem : ∀ v, v ∈ values ↔ v ∈ values') : x.equals x' = true := by
  obtain ⟨v, hv, hvx⟩ := hx.taken
  obtain ⟨w, hw, hwx⟩ := hx'.taken
  have hxfinite := isFinite_of_asNumber (hfinite v hv) hvx
  have hxfinite' := isFinite_of_asNumber (hfinite w ((hmem w).mpr hw)) hwx
  have hle := hx'.best v ((hmem v).mp hv) x hvx
  have hge := hx.best w ((hmem w).mpr hw) x' hwx
  rw [Binary64.compare?_swap hxfinite hxfinite'] at hge
  obtain ⟨i, hi⟩ := Binary64.exists_place?_eq_some hxfinite
  obtain ⟨j, hj⟩ := Binary64.exists_place?_eq_some hxfinite'
  rw [Binary64.compare?_eq_some hi hj] at hle hge
  rw [Binary64.equals, Binary64.compare?_eq_some hi hj]
  -- Whatever is further out, neither of the two is further out than the other.
  cases hcompare : compare i j <;> cases beyond <;> simp_all

/-- The order of values does not matter for their extreme. -/
theorem looselyEquals_reduce_of_perm (h : function.beyond? = some beyond)
    (hperm : values.Perm values') (hfinite : ∀ v ∈ values, v.IsFinite) (distinct : Bool) :
    (function.reduce distinct values).looselyEquals (function.reduce distinct values') = true := by
  have hfinite' : ∀ v ∈ values', v.IsFinite := fun v hv => hfinite v (hperm.mem_iff.mpr hv)
  by_cases hnumber : ∃ v ∈ values, v.asNumber.isSome
  · have hnumber' : ∃ v ∈ values', v.asNumber.isSome := by simpa only [hperm.mem_iff] using hnumber
    obtain ⟨x, hx, hextreme⟩ := exists_isExtreme h hfinite hnumber distinct
    obtain ⟨x', hx', hextreme'⟩ := exists_isExtreme h hfinite' hnumber' distinct
    rw [hx, hx']
    exact hextreme.equals hextreme' (reduce_of_beyond? h).1 hfinite fun v => hperm.mem_iff
  · have hnone : ∀ v ∈ values, v.asNumber = none := by simpa using hnumber
    have hnone' : ∀ v ∈ values', v.asNumber = none := fun v hv => hnone v (hperm.mem_iff.mpr hv)
    have hfunction : function ∈ [avg, min, max] := by
      cases function <;> simp [beyond?] at h ⊢
    rw [(reduce_eq_null_iff hfunction distinct).mpr hnone,
      (reduce_eq_null_iff hfunction distinct).mpr hnone']
    rfl

/-! ## 3. Calls on rows -/

section Rows

variable {reference primary : String} {rows rows' : List Row}

/-- The call of a function on a column. -/
abbrev onColumn (function : AggregateFunction) (distinct : Bool) (reference : String) :
    AggregateCall :=
  ⟨function, .column reference, distinct⟩

/-- The cells of a column that are there, in the order of the rows. -/
def cellsOf (reference primary : String) (rows : List Row) : List Value :=
  rows.filterMap fun row => row.resolve? reference primary

theorem mapM_resolve_eq_error_iff {e : QueryError} :
    rows.mapM (Row.resolve · reference primary) = .error e ↔
      e = .unknownField reference ∧ ∃ row ∈ rows, row.resolve? reference primary = none := by
  induction rows with
  | nil => simp [pure, Except.pure]
  | cons row rows ih =>
    rw [List.mapM_cons, Row.resolve]
    cases hrow : row.resolve? reference primary with
    | none => simp [hrow, bind, Except.bind, eq_comm]
    | some v =>
      have hskip : (∃ r ∈ row :: rows, r.resolve? reference primary = none) ↔
          ∃ r ∈ rows, r.resolve? reference primary = none := by simp [hrow]
      rw [hskip, ← ih]
      cases rows.mapM (Row.resolve · reference primary) <;>
        simp [bind, Except.bind, pure, Except.pure]

/-- **A call on a column fails** where some row does not have the column, with its name. -/
theorem value_eq_error_iff {function : AggregateFunction} {distinct : Bool} {e : QueryError} :
    (function.onColumn distinct reference).value primary rows = .error e ↔
      e = .unknownField reference ∧ ∃ row ∈ rows, row.resolve? reference primary = none := by
  rw [← mapM_resolve_eq_error_iff]
  change (rows.mapM (Row.resolve · reference primary)).map (function.reduce distinct) = _ ↔ _
  cases rows.mapM (Row.resolve · reference primary) <;> simp [Except.map]

/-- One value is at most another, in the order of conditions. -/
def AtMost (v w : Value) : Prop := (v.compare? w).any Ordering.isLE = true

theorem atMost_countValue {m n : Nat} (h : m ≤ n) : AtMost (countValue m) (countValue n) :=
  Binary64.isLE_compare?_ofNat h

/-- What calls give on rows that all have a column.  The number of different cells, of cells and of
rows are in order, also as the numbers that they are given as. -/
structure Reduces (reference primary : String) (rows : List Row) : Prop where
  star : (⟨count, .star, false⟩ : AggregateCall).value primary rows = .ok (countValue rows.length)
  present : (count.onColumn false reference).value primary rows =
    .ok (countValue (presentCells reference primary rows).length)
  different : ∃ d, (count.onColumn true reference).value primary rows = .ok (countValue d) ∧
    d ≤ (presentCells reference primary rows).length ∧
    AtMost (countValue d) (countValue (presentCells reference primary rows).length)
  fewer : (presentCells reference primary rows).length ≤ rows.length ∧
    AtMost (countValue (presentCells reference primary rows).length) (countValue rows.length)
  exact : rows.length ≤ 2 ^ (53 : Nat) → ∀ n ≤ rows.length,
    (Binary64.ofNat n).toInt? = some (n : Int)
  null_iff : ∀ function ∈ [avg, min, max], ∀ distinct : Bool,
    (onColumn function distinct reference).value primary rows = .ok .null ↔
      ∀ v ∈ cellsOf reference primary rows, v.asNumber = none
  extreme : ∀ function beyond, beyond? function = some beyond →
    (∃ v ∈ cellsOf reference primary rows, v.asNumber.isSome) → ∀ distinct : Bool, ∃ x,
      (onColumn function distinct reference).value primary rows = .ok (.number x) ∧
        IsExtreme beyond (cellsOf reference primary rows) x

theorem reduces_of_isSome (h : ∀ row ∈ rows, (row.resolve? reference primary).isSome)
    (hfinite : ∀ v ∈ cellsOf reference primary rows, v.IsFinite) :
    Reduces reference primary rows where
  star := rfl
  present := value_column h _ _
  different :=
    have hle : countDistinct (cellsOf reference primary rows) ≤
        (presentCells reference primary rows).length := (Relation.firsts_sublist _ _).length_le
    ⟨_, value_column h _ _, hle, atMost_countValue hle⟩
  fewer :=
    have hle : (presentCells reference primary rows).length ≤ rows.length :=
      (List.length_filter_le _ _).trans (List.length_filterMap_le _ _)
    ⟨hle, atMost_countValue hle⟩
  exact := fun hrows n hn => Binary64.toInt?_ofNat (hn.trans hrows)
  null_iff := by
    intro function hfunction distinct
    rw [value_column h, Except.ok.injEq]
    exact reduce_eq_null_iff hfunction distinct
  extreme := by
    intro function beyond hbeyond hnumber distinct
    obtain ⟨x, hx, hextreme⟩ := exists_isExtreme hbeyond hfinite hnumber distinct
    exact ⟨x, (value_column h _ _).trans (congrArg Except.ok hx), hextreme⟩

/-! ## 4. The order of the rows -/

theorem isSome_of_value {function : AggregateFunction} {distinct : Bool} {v : Value}
    (h : (function.onColumn distinct reference).value primary rows = .ok v) :
    ∀ row ∈ rows, (row.resolve? reference primary).isSome := by
  intro row hrow
  by_contra hnone
  have herror : (function.onColumn distinct reference).value primary rows =
      .error (.unknownField reference) :=
    value_eq_error_iff.mpr ⟨rfl, row, hrow, Option.not_isSome_iff_eq_none.mp hnone⟩
  rw [h] at herror
  simp at herror

/-- **Counts do not depend on the order of the rows.** -/
theorem value_count_perm (h : rows.Perm rows') (distinct : Bool) :
    (count.onColumn distinct reference).value primary rows' =
      (count.onColumn distinct reference).value primary rows := by
  cases hvalue : (count.onColumn distinct reference).value primary rows with
  | error e =>
    obtain ⟨he, row, hrow, hnone⟩ := value_eq_error_iff.mp hvalue
    exact value_eq_error_iff.mpr ⟨he, row, h.mem_iff.mp hrow, hnone⟩
  | ok v =>
    have hsome := isSome_of_value hvalue
    have hsome' : ∀ row ∈ rows', (row.resolve? reference primary).isSome :=
      fun row hrow => hsome row (h.mem_iff.mpr hrow)
    have hcells : (presentCells reference primary rows).Perm
        (presentCells reference primary rows') :=
      (h.filterMap _).filter _
    rw [← hvalue, value_column hsome, value_column hsome']
    have hkeys : countDistinct (cellsOf reference primary rows') =
        countDistinct (cellsOf reference primary rows) := by
      rw [countDistinct, countDistinct, Relation.length_firsts, Relation.length_firsts]
      exact congrArg Finset.card (List.toFinset_eq_of_perm _ _ (hcells.map _)).symm
    cases distinct with
    | false => exact congrArg (Except.ok ∘ countValue) hcells.length_eq.symm
    | true => exact congrArg (Except.ok ∘ countValue) hkeys

/-- **Extremes are equal in any order of the rows.** -/
theorem value_extreme_perm {function : AggregateFunction} {beyond : Ordering} {distinct : Bool}
    {v : Value} (h : rows.Perm rows') (hbeyond : function.beyond? = some beyond)
    (hfinite : ∀ v ∈ cellsOf reference primary rows, v.IsFinite)
    (hv : (function.onColumn distinct reference).value primary rows = .ok v) :
    ∃ v', (function.onColumn distinct reference).value primary rows' = .ok v' ∧
      v.looselyEquals v' = true := by
  have hsome := isSome_of_value hv
  have hsome' : ∀ row ∈ rows', (row.resolve? reference primary).isSome :=
    fun row hrow => hsome row (h.mem_iff.mpr hrow)
  rw [value_column hsome, Except.ok.injEq] at hv
  refine ⟨_, value_column hsome' _ _, ?_⟩
  rw [← hv]
  exact looselyEquals_reduce_of_perm hbeyond (h.filterMap _) hfinite distinct

/-- **Aggregates are the reductions they name.**  Calls on a column fail just where a row does not
have it.  Else they give the counts, the mean and the extremes of the cells, and neither the counts
nor, up to the sign of a zero, the extremes depend on the order of the rows. -/
theorem reductions
    (h : ∀ row ∈ rows, ∀ v, row.resolve? reference primary = some v → v.IsFinite) :
    (∀ (function : AggregateFunction) (distinct : Bool) (e : QueryError),
      (function.onColumn distinct reference).value primary rows = .error e ↔
        e = .unknownField reference ∧ ∃ row ∈ rows, row.resolve? reference primary = none) ∧
      ((∀ row ∈ rows, (row.resolve? reference primary).isSome) →
        Reduces reference primary rows) ∧
      ∀ rows', rows.Perm rows' → ∀ distinct : Bool,
        (count.onColumn distinct reference).value primary rows' =
          (count.onColumn distinct reference).value primary rows ∧
        ∀ function ∈ [min, max], ∀ v,
          (onColumn function distinct reference).value primary rows = .ok v →
            ∃ v', (onColumn function distinct reference).value primary rows' = .ok v' ∧
              v.looselyEquals v' = true := by
  have hfinite : ∀ v ∈ cellsOf reference primary rows, v.IsFinite := by
    intro v hv
    obtain ⟨row, hrow, hresolve⟩ := List.mem_filterMap.mp hv
    exact h row hrow v hresolve
  refine ⟨fun function distinct e => value_eq_error_iff,
    fun hsome => reduces_of_isSome hsome hfinite, fun rows' hperm distinct => ?_⟩
  refine ⟨value_count_perm hperm distinct, fun function hfunction v hv => ?_⟩
  obtain ⟨beyond, hbeyond⟩ : ∃ beyond, function.beyond? = some beyond := by
    rcases List.mem_pair.mp hfunction with rfl | rfl <;> exact ⟨_, rfl⟩
  exact value_extreme_perm hperm hbeyond hfinite hv

end Rows

/-- A number in two spellings, both zeros, a text and a null. -/
def measuredRows : List Row :=
  [.text "7", .null, .text "-0", .text "x", .text "7.0", .number (.zero false)].map fun v =>
    Row.ofList [("c", v)]

theorem reductions_measured :
    (∀ row ∈ measuredRows, ∀ v, row.resolve? "t.c" "t" = some v → v.IsFinite) ∧
      (∃ x, (min.onColumn false "t.c").value "t" measuredRows = .ok (.number x) ∧
        IsExtreme .lt (cellsOf "t.c" "t" measuredRows) x) ∧
      (count.onColumn false "t.c").value "t" measuredRows = .ok (countValue 5) ∧
      (Binary64.ofNat 5).toInt? = some 5 := by
  have hrows : ∀ row ∈ measuredRows, ∃ v ∈ row.resolve? "t.c" "t", v.IsFinite := by
    decide +kernel
  have hfinite : ∀ row ∈ measuredRows, ∀ v, row.resolve? "t.c" "t" = some v → v.IsFinite := by
    intro row hrow v hv
    obtain ⟨w, hw, hwfinite⟩ := hrows row hrow
    obtain rfl : w = v := Option.some.inj (hw.symm.trans hv)
    exact hwfinite
  have hsome : ∀ row ∈ measuredRows, (row.resolve? "t.c" "t").isSome := by
    intro row hrow
    obtain ⟨v, hv, -⟩ := hrows row hrow
    exact Option.isSome_iff_exists.mpr ⟨v, hv⟩
  have hreduces := (reductions hfinite).2.1 hsome
  have hnumber : ∃ v ∈ cellsOf "t.c" "t" measuredRows, v.asNumber.isSome := by decide +kernel
  have hlength : (presentCells "t.c" "t" measuredRows).length = 5 := by decide +kernel
  refine ⟨hfinite, hreduces.extreme min .lt rfl hnumber false, ?_, ?_⟩
  · rw [hreduces.present, hlength]
  · exact hreduces.exact (by decide) 5 (by decide)

end AggregateFunction
end Tabular
