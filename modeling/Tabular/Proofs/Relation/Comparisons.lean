/-
# Comparisons of one field with one literal

Equality and order are two relations on values, each with rules of its own, and the operators of a
condition draw on both: `=` and `!=` on equality, `<`, `>`, `<=` and `>=` on the order.  On finite
values the two meet in all but one place: a null is ordered as zero is and equals nothing but a
null, so against a literal that reads as zero it is neither less nor greater nor equal, and yet at
least and at most (`Value.IsNullAtZero`).

* `Value.compare?_eq_eq_iff`: the order says "equal" where values are equal, and in that one place;
* **`comparisons_cohere`**: what this means for the operators and for the rows that they keep.
-/
import Tabular.Proofs.Relation.Conditions
import Tabular.Proofs.Value.Reading

namespace Tabular

/-! ## 1. Equality and order of values -/

namespace Value

variable {v : Value} {literal : String}

/-- A null, compared with a literal that reads as zero. -/
def IsNullAtZero (v : Value) (literal : String) : Prop :=
  v = .null ∧ (Value.text literal).reading = some (.inl 0)

instance : Decidable (v.IsNullAtZero literal) :=
  inferInstanceAs (Decidable (v = .null ∧ (Value.text literal).reading = some (.inl 0)))

/-- A text is never read as a null. -/
theorem coerce_text_ne_null (s : String) : (Value.text s).coerce ≠ .null := by
  rw [coerce, ofLiteral]
  cases readNumber (Text.unquote (Text.trim s.toList)) <;> simp

theorem coerce_eq_null_iff : v.coerce = .null ↔ v = .null := by
  cases v with
  | null => simp [coerce]
  | number x => simp [coerce]
  | text s => simp [coerce_text_ne_null s]

/-- **A value and a literal are ordered as equals** if they are equal, or if the value is a null and
the literal reads as zero. -/
theorem compare?_eq_eq_iff (hv : v.IsFinite) : v.compare? (.text literal) = some .eq ↔
    v.looselyEquals (.text literal) = true ∨ v.IsNullAtZero literal := by
  have hliteral : (Value.text literal).IsFinite := trivial
  rw [looselyEquals_iff hv hliteral, IsNullAtZero, ← coerce_eq_null_iff]
  rcases hliteral.readsAs with hnull' | ⟨y, j, hnumber', -, hj⟩ | ⟨t, htext'⟩
  · exact absurd hnull' (coerce_text_ne_null literal)
  all_goals rcases hv.readsAs with hnull | ⟨x, i, hnumber, -, hi⟩ | ⟨s, htext⟩
  case number.null =>
    have hzero := Binary64.place?_zero false
    simp only [compare?, Binary64.compare?, reading, hnull, hnumber', hj, hzero, Option.map_some,
      Option.some.injEq, Std.compare_eq_iff_eq, Sum.inl.injEq, reduceCtorEq, false_or, true_and]
    exact eq_comm
  all_goals simp [compare?, Binary64.compare?, reading, *]

/-- A null that is ordered as zero is not equal to it. -/
theorem IsNullAtZero.looselyEquals_eq_false (h : v.IsNullAtZero literal) :
    v.looselyEquals (.text literal) = false := by
  obtain ⟨rfl, hzero⟩ := h
  have hnull : Value.null.IsFinite := trivial
  have hliteral : (Value.text literal).IsFinite := trivial
  rw [← Bool.not_eq_true, looselyEquals_iff hnull hliteral, hzero]
  simp [reading, coerce]

end Value

/-! ## 2. Operators on one value -/

namespace Comparison

variable {v : Value} {literal : String}

/-- The comparison that is left of another one without equal values. -/
def strict? : Comparison → Option Comparison
  | atLeast => some greater
  | atMost => some less
  | _ => none

/-- **A weak comparison holds** where the strict one does, where the values are equal, and for a
null at zero. -/
theorem holds_iff_of_strict? {weak strict : Comparison} (h : weak.strict? = some strict)
    (hv : v.IsFinite) : weak.holds v literal = true ↔
      strict.holds v literal = true ∨ equal.holds v literal = true ∨ v.IsNullAtZero literal := by
  have hequal : equal.holds v literal = v.looselyEquals (.text literal) := rfl
  rw [hequal, ← Value.compare?_eq_eq_iff hv]
  unfold strict? at h
  split at h <;> cases h
  all_goals
    cases horder : v.compare? (.text literal) with
    | none => simp [holds, horder]
    | some order => cases order <;> simp [holds, horder]

/-- A null at zero is neither less nor equal nor greater. -/
theorem holds_of_isNullAtZero (h : v.IsNullAtZero literal) :
    ∀ comparison ∈ [less, equal, greater], comparison.holds v literal = false := by
  have hfinite : v.IsFinite := h.1 ▸ trivial
  have horder := (Value.compare?_eq_eq_iff hfinite).mpr (Or.inr h)
  simp [holds, horder, h.looselyEquals_eq_false]

/-- Of less, equal and greater at most one holds. -/
theorem pairwise_holds (hv : v.IsFinite) : [less, equal, greater].Pairwise fun c d =>
    ¬(c.holds v literal = true ∧ d.holds v literal = true) := by
  have hless : less.holds v literal = true → v.compare? (.text literal) = some .lt := by
    simp [holds]
  have hgreater : greater.holds v literal = true → v.compare? (.text literal) = some .gt := by
    simp [holds]
  have hequal : equal.holds v literal = true → v.compare? (.text literal) = some .eq :=
    fun h => (Value.compare?_eq_eq_iff hv).mpr (Or.inl h)
  have hapart : ∀ o o' : Ordering, o ≠ o' → v.compare? (.text literal) = some o →
      v.compare? (.text literal) ≠ some o' :=
    fun o o' hne h h' => hne (Option.some.inj (h.symm.trans h'))
  simp only [List.pairwise_cons, List.mem_cons, List.not_mem_nil, or_false, forall_eq_or_imp,
    forall_eq, not_and]
  exact ⟨⟨fun h h' => hapart .lt .eq (by decide) (hless h) (hequal h'),
    fun h h' => hapart .lt .gt (by decide) (hless h) (hgreater h')⟩,
    fun h h' => hapart .eq .gt (by decide) (hequal h) (hgreater h'), by simp⟩

end Comparison

/-! ## 3. Operators on rows -/

namespace Row

variable {row : Row} {primary field literal : String}

/-- Does a field of the row compare with a literal in this way? -/
def compares (row : Row) (primary field literal : String) (comparison : Comparison) : Bool :=
  row.meets primary ⟨field, comparison, literal⟩

/-- Is the field a null, and does the literal read as zero? -/
def isNullAtZero (row : Row) (primary field literal : String) : Bool :=
  (row.resolve? field primary).any fun v => v.IsNullAtZero literal

theorem compares_of_resolve? {v : Value} (h : row.resolve? field primary = some v)
    (comparison : Comparison) :
    row.compares primary field literal comparison = comparison.holds v literal := by
  rw [compares, meets, satisfies, resolve, h]
  rfl

/-- The operators agree on a field and a literal: each has an answer, `!=` is the opposite of `=`,
at most one of `<`, `=` and `>` holds, and `>=` and `<=` hold where the strict operator or `=` does
and for a null at zero, for which the other three do not. -/
structure Coheres (primary field literal : String) (row : Row) : Prop where
  answers : ∀ comparison, row.satisfies ⟨field, comparison, literal⟩ primary =
    .ok (row.compares primary field literal comparison)
  notEqual_iff : row.compares primary field literal .notEqual = true ↔
    ¬row.compares primary field literal .equal = true
  apart : [Comparison.less, .equal, .greater].Pairwise fun c d =>
    ¬(row.compares primary field literal c = true ∧ row.compares primary field literal d = true)
  weak_iff : ∀ weak strict : Comparison, weak.strict? = some strict →
    (row.compares primary field literal weak = true ↔
      row.compares primary field literal strict = true ∨
        row.compares primary field literal .equal = true ∨
          row.isNullAtZero primary field literal = true)
  nullAtZero : row.isNullAtZero primary field literal = true →
    ∀ c ∈ [Comparison.less, .equal, .greater], row.compares primary field literal c = false

/-- **The operators agree** on every finite value. -/
theorem coheres_of_resolve? {v : Value} (h : row.resolve? field primary = some v)
    (hv : v.IsFinite) : row.Coheres primary field literal := by
  have hnull : row.isNullAtZero primary field literal = true ↔ v.IsNullAtZero literal := by
    simp [isNullAtZero, h]
  constructor
  case answers => exact fun comparison => satisfies_of_isSome (by simp [h])
  all_goals simp only [compares_of_resolve? h, hnull]
  case notEqual_iff => simp [Comparison.holds]
  case apart => exact Comparison.pairwise_holds hv
  case weak_iff => exact fun weak strict hstrict => Comparison.holds_iff_of_strict? hstrict hv
  case nullAtZero => exact Comparison.holds_of_isNullAtZero

end Row

namespace Relation

variable {primary field literal : String} {rows : List Row}

/-- **The comparison operators cohere.**  On rows that all have a field, with finite values there,
the operators agree with one another on every row.  So `>=` keeps exactly the rows that `>` or `=`
keeps, and `<=` those that `<` or `=` keeps, but that both keep the nulls too if the literal reads
as zero. -/
theorem comparisons_cohere
    (h : ∀ row ∈ rows, ∃ v, row.resolve? field primary = some v ∧ v.IsFinite) :
    (∀ row ∈ rows, row.Coheres primary field literal) ∧
      (∀ comparison, restrict primary [⟨field, comparison, literal⟩] rows =
        .ok (rows.filter fun row => row.compares primary field literal comparison)) ∧
      ∀ weak strict : Comparison, weak.strict? = some strict →
        restrict primary [⟨field, weak, literal⟩] rows =
          .ok (rows.filter fun row => row.compares primary field literal strict ||
            row.compares primary field literal .equal ||
              row.isNullAtZero primary field literal) := by
  have hcoheres : ∀ row ∈ rows, row.Coheres primary field literal := by
    intro row hrow
    obtain ⟨v, hv, hfinite⟩ := h row hrow
    exact Row.coheres_of_resolve? hv hfinite
  have hkeeps : ∀ comparison, restrict primary [⟨field, comparison, literal⟩] rows =
      .ok (rows.filter fun row => row.compares primary field literal comparison) := by
    intro comparison
    rw [restrict_of_isSome]
    · simp [Row.compares]
    · intro row hrow c hc
      obtain ⟨v, hv, -⟩ := h row hrow
      simp [List.mem_singleton.mp hc, hv]
  refine ⟨hcoheres, hkeeps, fun weak strict hstrict => ?_⟩
  rw [hkeeps, List.filter_congr fun row hrow => ?_]
  rw [Bool.eq_iff_iff, (hcoheres row hrow).weak_iff weak strict hstrict]
  simp [or_assoc]

/-- Numbers in several spellings, both zeros, a text and a null. -/
def comparedRows : List Row :=
  [.text "-1", .text "0.0", .text "'7'", .null, .text "x", .number (.zero true)].map fun v =>
    Row.ofList [("c", v)]

theorem comparisons_cohere_at_zero :
    (∀ row ∈ comparedRows, ∃ v, row.resolve? "t.c" "t" = some v ∧ v.IsFinite) ∧
      restrict "t" [⟨"t.c", .atLeast, "0"⟩] comparedRows =
        .ok ([.text "0.0", .text "'7'", .null, .number (.zero true)].map fun v =>
          Row.ofList [("c", v)]) := by
  have hrows : ∀ row ∈ comparedRows, ∃ v, row.resolve? "t.c" "t" = some v ∧ v.IsFinite := by
    have hcells : ∀ row ∈ comparedRows, ∃ v ∈ row.resolve? "t.c" "t", v.IsFinite := by
      decide +kernel
    exact hcells
  refine ⟨hrows, ?_⟩
  rw [(comparisons_cohere hrows).2.2 .atLeast .greater rfl]
  refine congrArg Except.ok ?_
  decide +kernel

/-- **At least zero, and neither more than zero nor equal to it**: this is what a null is. -/
theorem null_at_least_zero :
    (Row.ofList [("c", .null)]).satisfies ⟨"c", .atLeast, "0"⟩ "t" = .ok true ∧
      (Row.ofList [("c", .null)]).satisfies ⟨"c", .greater, "0"⟩ "t" = .ok false ∧
      (Row.ofList [("c", .null)]).satisfies ⟨"c", .equal, "0"⟩ "t" = .ok false := by
  have hsome : ((Row.ofList [("c", .null)]).resolve? "c" "t").isSome := by decide
  have hmeets : ([.atLeast, .greater, .equal].map fun comparison =>
      (Row.ofList [("c", .null)]).meets "t" ⟨"c", comparison, "0"⟩) = [true, false, false] := by
    decide +kernel
  simp only [List.map_cons, List.cons.injEq] at hmeets
  simp only [Row.satisfies_of_isSome, hsome, hmeets, and_self]

end Relation
end Tabular
