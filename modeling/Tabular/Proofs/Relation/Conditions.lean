/-
# Conditions on rows

Conditions are looked at in order on one row after the other, and the first one that does not hold
ends the search on its row.  So a field that a row does not have counts only where it is reached,
which is where all conditions in front of it hold (`Row.StopsAt`).

* `Row.satisfiesAll_eq_error_iff`: nothing else makes the conditions on a row fail;
* `filterOk_eq_error_iff`: a list of rows fails with the first row that does;
* **`restrict_stops_or_keeps`**: so restriction fails exactly if a row stops at a field, with the
  field of the first such row, and else keeps exactly the rows on which every condition holds.
  Where all fields are there, neither the order of the conditions matters nor whether they are
  looked at together or one after the other.
-/
import Tabular.Proofs.Relation.Restrict

namespace Tabular

/-! ## 1. One row -/

namespace Row

variable {row : Row} {primary : String} {condition : Condition} {conditions : List Condition}

/-- Is the condition true on the row?  A field that is not there makes no condition true. -/
def meets (row : Row) (primary : String) (condition : Condition) : Bool :=
  match row.satisfies condition primary with
  | .ok b => b
  | .error _ => false

/-- The field of this condition is not there, and all conditions in front of it are true. -/
def StopsAt (row : Row) (primary : String) (conditions : List Condition) (condition : Condition) :
    Prop :=
  ∃ front back, conditions = front ++ condition :: back ∧
    (∀ c ∈ front, row.meets primary c = true) ∧ row.resolve? condition.field primary = none

theorem satisfies_of_none (h : row.resolve? condition.field primary = none) :
    row.satisfies condition primary = .error (.unknownField condition.field) := by
  rw [satisfies, resolve, h]
  rfl

theorem satisfies_of_isSome (h : (row.resolve? condition.field primary).isSome) :
    row.satisfies condition primary = .ok (row.meets primary condition) := by
  obtain ⟨v, hv⟩ := Option.isSome_iff_exists.mp h
  rw [meets, satisfies, resolve, hv]
  rfl

theorem not_stopsAt_nil : ¬row.StopsAt primary [] condition := by
  rintro ⟨front, back, h, -⟩
  simp at h

/-- A row stops at the first condition, or this one is true and the row stops at another. -/
theorem stopsAt_cons_iff {first : Condition} : row.StopsAt primary (first :: conditions) condition ↔
    (condition = first ∧ row.resolve? first.field primary = none) ∨
      (row.meets primary first = true ∧ row.StopsAt primary conditions condition) := by
  constructor
  · rintro ⟨front, back, h, hfront, hnone⟩
    rcases List.cons_eq_append_iff.mp h with ⟨rfl, hhead⟩ | ⟨rest, rfl, htail⟩
    · obtain ⟨rfl, rfl⟩ := List.cons.inj hhead
      exact Or.inl ⟨rfl, hnone⟩
    · exact Or.inr ⟨hfront first List.mem_cons_self,
        rest, back, htail, fun c hc => hfront c (List.mem_cons_of_mem _ hc), hnone⟩
  · rintro (⟨rfl, hnone⟩ | ⟨hfirst, front, back, rfl, hfront, hnone⟩)
    · exact ⟨[], conditions, rfl, by simp, hnone⟩
    · refine ⟨first :: front, back, rfl, fun c hc => ?_, hnone⟩
      rcases List.mem_cons.mp hc with rfl | hc
      · exact hfirst
      · exact hfront c hc

/-- **The conditions on a row fail** exactly if the row stops at one of them, with its field. -/
theorem satisfiesAll_eq_error_iff {e : QueryError} :
    row.satisfiesAll primary conditions = .error e ↔
      ∃ condition, row.StopsAt primary conditions condition ∧
        e = .unknownField condition.field := by
  induction conditions with
  | nil => simp [satisfiesAll, not_stopsAt_nil]
  | cons first conditions ih =>
    simp only [stopsAt_cons_iff]
    cases hfirst : row.resolve? first.field primary with
    | none =>
      have hmeets : row.meets primary first = false := by
        rw [meets, satisfies_of_none hfirst]
      rw [satisfiesAll, satisfies_of_none hfirst]
      simp [hmeets, eq_comm]
    | some v =>
      have hsome : (row.resolve? first.field primary).isSome := by simp [hfirst]
      rw [satisfiesAll, satisfies_of_isSome hsome]
      cases hmeets : row.meets primary first with
      | false => simp
      | true => simp [ih]

/-- A row that does not stop has all conditions true, or one that is not. -/
theorem satisfiesAll_of_not_stopsAt (h : ∀ c, ¬row.StopsAt primary conditions c) :
    row.satisfiesAll primary conditions = .ok (conditions.all (row.meets primary)) := by
  induction conditions with
  | nil => rfl
  | cons first conditions ih =>
    simp only [stopsAt_cons_iff, not_or, not_and] at h
    have hsome : (row.resolve? first.field primary).isSome :=
      Option.isSome_iff_ne_none.mpr ((h first).1 rfl)
    rw [satisfiesAll, satisfies_of_isSome hsome, List.all_cons]
    cases hmeets : row.meets primary first with
    | false => rfl
    | true => exact ih fun c => (h c).2 hmeets

/-- A row with all fields does not stop. -/
theorem not_stopsAt_of_isSome
    (h : ∀ c ∈ conditions, (row.resolve? c.field primary).isSome) (condition : Condition) :
    ¬row.StopsAt primary conditions condition := by
  rintro ⟨front, back, rfl, -, hnone⟩
  have hsome := h condition (by simp)
  rw [hnone] at hsome
  exact absurd hsome (by decide)

end Row

/-! ## 2. A list of rows -/

namespace Relation

variable {ε : Type} {test : Row → Except ε Bool} {primary : String} {conditions : List Condition}
  {rows : List Row}

/-- **A list of rows fails** with the first row on which the test does. -/
theorem filterOk_eq_error_iff {e : ε} : filterOk test rows = .error e ↔
    ∃ front row back, rows = front ++ row :: back ∧ (∀ r ∈ front, ∃ b, test r = .ok b) ∧
      test row = .error e := by
  induction rows with
  | nil => simp [filterOk]
  | cons first rows ih =>
    cases hfirst : test first with
    | error e' =>
      have hfails : filterOk test (first :: rows) = .error e' := by rw [filterOk, hfirst]
      rw [hfails]
      constructor
      · intro h
        exact ⟨[], first, rows, rfl, by simp, hfirst.trans (congrArg _ (Except.error.inj h))⟩
      · rintro ⟨front, row, back, h, hfront, hrow⟩
        rcases List.cons_eq_append_iff.mp h with ⟨rfl, hhead⟩ | ⟨rest, rfl, -⟩
        · obtain ⟨rfl, -⟩ := List.cons.inj hhead
          exact congrArg _ (Except.error.inj (hfirst.symm.trans hrow))
        · obtain ⟨b, hb⟩ := hfront first List.mem_cons_self
          simp [hb] at hfirst
    | ok keep =>
      have hmap : filterOk test (first :: rows) = .error e ↔ filterOk test rows = .error e := by
        rw [filterOk, hfirst]
        cases filterOk test rows <;> simp [Except.map]
      rw [hmap, ih]
      constructor
      · rintro ⟨front, row, back, rfl, hfront, hrow⟩
        refine ⟨first :: front, row, back, rfl, fun r hr => ?_, hrow⟩
        rcases List.mem_cons.mp hr with rfl | hr
        · exact ⟨keep, hfirst⟩
        · exact hfront r hr
      · rintro ⟨front, row, back, h, hfront, hrow⟩
        rcases List.cons_eq_append_iff.mp h with ⟨rfl, hhead⟩ | ⟨rest, rfl, htail⟩
        · obtain ⟨rfl, -⟩ := List.cons.inj hhead
          simp [hrow] at hfirst
        · exact ⟨rest, row, back, htail, fun r hr => hfront r (List.mem_cons_of_mem _ hr), hrow⟩

/-- Where no row stops, the rows on which every condition is true are kept. -/
theorem restrict_of_not_stopsAt (h : ∀ row ∈ rows, ∀ c, ¬row.StopsAt primary conditions c) :
    restrict primary conditions rows =
      .ok (rows.filter fun row => conditions.all (row.meets primary)) :=
  filterOk_of_ok fun row hrow => Row.satisfiesAll_of_not_stopsAt (h row hrow)

theorem restrict_of_isSome
    (h : ∀ row ∈ rows, ∀ c ∈ conditions, (row.resolve? c.field primary).isSome) :
    restrict primary conditions rows =
      .ok (rows.filter fun row => conditions.all (row.meets primary)) :=
  restrict_of_not_stopsAt fun row hrow c => Row.not_stopsAt_of_isSome (h row hrow) c

/-- The rows fail with the first of them that stops. -/
theorem restrict_of_stopsAt {front back : List Row} {row : Row} {condition : Condition}
    (hfront : ∀ r ∈ front, ∀ c, ¬r.StopsAt primary conditions c)
    (hrow : row.StopsAt primary conditions condition) :
    restrict primary conditions (front ++ row :: back) = .error (.unknownField condition.field) :=
  filterOk_eq_error_iff.mpr ⟨front, row, back, rfl,
    fun r hr => ⟨_, Row.satisfiesAll_of_not_stopsAt (hfront r hr)⟩,
    Row.satisfiesAll_eq_error_iff.mpr ⟨condition, hrow, rfl⟩⟩

/-- **One condition after the other** leaves what all of them leave together. -/
theorem foldlM_restrict
    (h : ∀ row ∈ rows, ∀ c ∈ conditions, (row.resolve? c.field primary).isSome) :
    conditions.foldlM (fun kept c => restrict primary [c] kept) rows =
      restrict primary conditions rows := by
  rw [restrict_of_isSome h]
  induction conditions generalizing rows with
  | nil =>
    have hall : (rows.filter fun row => [].all (row.meets primary)) = rows :=
      List.filter_eq_self.mpr fun _ _ => rfl
    rw [hall]
    rfl
  | cons first conditions ih =>
    have hfirst : restrict primary [first] rows =
        .ok (rows.filter (Row.meets · primary first)) := by
      rw [restrict_of_isSome fun row hrow c hc =>
        h row hrow c (List.mem_singleton.mp hc ▸ List.mem_cons_self)]
      simp
    have hrest : ∀ row ∈ rows.filter (Row.meets · primary first), ∀ c ∈ conditions,
        (row.resolve? c.field primary).isSome :=
      fun row hrow c hc => h row (List.mem_filter.mp hrow).1 c (List.mem_cons_of_mem _ hc)
    have hboth : (rows.filter (Row.meets · primary first)).filter
        (fun row => conditions.all (row.meets primary)) =
          rows.filter fun row => (first :: conditions).all (row.meets primary) := by
      simp only [List.filter_filter, List.all_cons, Bool.and_comm]
    rw [List.foldlM_cons, hfirst, ← hboth]
    exact ih hrest

/-! ## 3. The whole -/

/-- **What restriction does, for all rows and conditions.**  It fails if and only if some row stops
at a condition, and then with the field of the first row that does.  If no row stops, it keeps in
their order the rows on which every condition is true.  If all rows have all fields, conditions in
another order keep the same rows, and so do the conditions one after the other. -/
theorem restrict_stops_or_keeps (primary : String) (conditions : List Condition)
    (rows : List Row) :
    ((∃ e, restrict primary conditions rows = .error e) ↔
        ∃ row ∈ rows, ∃ c, row.StopsAt primary conditions c) ∧
      (∀ front row back c, rows = front ++ row :: back →
        (∀ r ∈ front, ∀ d, ¬r.StopsAt primary conditions d) → row.StopsAt primary conditions c →
          restrict primary conditions rows = .error (.unknownField c.field)) ∧
      ((∀ row ∈ rows, ∀ c, ¬row.StopsAt primary conditions c) →
        restrict primary conditions rows =
          .ok (rows.filter fun row => conditions.all (row.meets primary))) ∧
      ((∀ row ∈ rows, ∀ c ∈ conditions, (row.resolve? c.field primary).isSome) →
        ∃ kept, ∀ others : List Condition, others.Perm conditions →
          restrict primary others rows = .ok kept ∧
          others.foldlM (fun left c => restrict primary [c] left) rows = .ok kept) := by
  refine ⟨⟨?_, ?_⟩, ?_, restrict_of_not_stopsAt, ?_⟩
  · rintro ⟨e, he⟩
    obtain ⟨front, row, back, rfl, -, hrow⟩ := filterOk_eq_error_iff.mp he
    obtain ⟨c, hstops, -⟩ := Row.satisfiesAll_eq_error_iff.mp hrow
    exact ⟨row, by simp, c, hstops⟩
  · rintro ⟨row, hrow, c, hstops⟩
    cases hall : restrict primary conditions rows with
    | error e => exact ⟨e, rfl⟩
    | ok kept =>
      -- A test that fails on no row does not fail on this one.
      obtain ⟨p, hp⟩ := exists_of_filterOk hall
      have herror := Row.satisfiesAll_eq_error_iff.mpr ⟨c, hstops, rfl⟩
      rw [hp row hrow] at herror
      exact absurd herror (by simp)
  · rintro front row back c rfl hfront hrow
    exact restrict_of_stopsAt hfront hrow
  · intro h
    refine ⟨rows.filter fun row => conditions.all (row.meets primary), fun others hperm => ?_⟩
    have hothers : ∀ row ∈ rows, ∀ c ∈ others, (row.resolve? c.field primary).isSome :=
      fun row hrow c hc => h row hrow c (hperm.mem_iff.mp hc)
    have hkept : restrict primary others rows =
        .ok (rows.filter fun row => conditions.all (row.meets primary)) := by
      rw [restrict_of_isSome hothers]
      simp only [hperm.all_eq]
    exact ⟨hkept, by rw [foldlM_restrict hothers, hkept]⟩

/-- The conditions `a = 1` and `t.b > 2`. -/
def oneAndMore : List Condition := [⟨"a", .equal, "1"⟩, ⟨"t.b", .greater, "2"⟩]

/-- A row with both fields. -/
def fullRow : Row := Row.ofList [("a", .text "1.0"), ("b", .text "3")]

/-- Rows without the second field: on the first one it is not reached. -/
def partialRows : Row × Row := (Row.ofList [("a", .text "2")], Row.ofList [("a", .text " 1 ")])

theorem restrict_stops_or_keeps_partial :
    restrict "t" oneAndMore [partialRows.1, fullRow, partialRows.2, Row.empty] =
        .error (.unknownField "t.b") ∧
      restrict "t" oneAndMore [partialRows.1, fullRow] = .ok [fullRow] ∧
      restrict "t" oneAndMore.reverse [fullRow] = restrict "t" oneAndMore [fullRow] := by
  have hreaches : ∀ row ∈ [partialRows.1, fullRow], ∀ c, ¬row.StopsAt "t" oneAndMore c := by
    intro row hrow c
    rcases List.mem_cons.mp hrow with rfl | hrow
    · have hfield : partialRows.1.resolve? "a" "t" ≠ none := by decide
      have hmeets : partialRows.1.meets "t" ⟨"a", .equal, "1"⟩ = false := by decide +kernel
      simp [oneAndMore, Row.stopsAt_cons_iff, hmeets, hfield]
    · obtain rfl := List.mem_singleton.mp hrow
      exact Row.not_stopsAt_of_isSome (by decide) c
  have hstops : partialRows.2.StopsAt "t" oneAndMore ⟨"t.b", .greater, "2"⟩ :=
    ⟨[⟨"a", .equal, "1"⟩], [], rfl, by decide +kernel, by decide⟩
  obtain ⟨-, hfails, -, -⟩ := restrict_stops_or_keeps "t" oneAndMore
    [partialRows.1, fullRow, partialRows.2, Row.empty]
  obtain ⟨-, -, hkeeps, -⟩ := restrict_stops_or_keeps "t" oneAndMore [partialRows.1, fullRow]
  obtain ⟨-, -, -, horder⟩ := restrict_stops_or_keeps "t" oneAndMore [fullRow]
  refine ⟨hfails _ _ _ _ rfl hreaches hstops, ?_, ?_⟩
  · have hkept : [partialRows.1, fullRow].filter (fun row => oneAndMore.all (row.meets "t")) =
        [fullRow] := by decide +kernel
    rw [hkeeps hreaches, hkept]
  · obtain ⟨kept, hkept⟩ := horder (by decide)
    rw [(hkept _ oneAndMore.reverse_perm).1, (hkept _ (.refl _)).1]

end Relation
end Tabular
