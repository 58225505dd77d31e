/-
# Rows that a test leaves

`discard` goes through the rows and fails where its test fails.  If the test fails on no row, the
rows that it does not accept are left (`discard_of_ok`); in any case, what is left of the rows
is left in their order (`sublist_of_discard`).
-/
import Tabular.Store.Basic

namespace Tabular

namespace Relation

variable {ε : Type} {test : Row → Except ε Bool} {rows : List Row}

theorem filterOk_of_ok {p : Row → Bool} (h : ∀ row ∈ rows, test row = .ok (p row)) :
    filterOk test rows = .ok (rows.filter p) := by
  induction rows with
  | nil => rfl
  | cons row rows ih =>
    have hrest := ih fun r hr => h r (List.mem_cons_of_mem _ hr)
    rw [filterOk, h row List.mem_cons_self, hrest]
    cases hp : p row <;> simp [Except.map, hp]

/-- Without conditions no row is left out. -/
theorem restrict_nil (primary : String) (rows : List Row) :
    restrict primary [] rows = .ok rows := by
  have hall : restrict primary [] rows = .ok (rows.filter fun _ => true) :=
    filterOk_of_ok fun _ _ => rfl
  rw [hall, List.filter_eq_self.mpr fun _ _ => rfl]

theorem discard_of_ok {p : Row → Bool} (h : ∀ row ∈ rows, test row = .ok (p row)) :
    discard test rows = .ok (rows.countP p, rows.filter (!p ·)) := by
  have hnot : ∀ row ∈ rows, (test row).map not = .ok (!p row) := by
    intro row hrow
    rw [h row hrow]
    rfl
  have hcount := List.length_eq_countP_add_countP p (l := rows)
  have hlen : rows.length - (rows.filter (!p ·)).length = rows.countP p := by
    rw [← List.countP_eq_length_filter]
    simp only [Bool.not_eq_true, Bool.decide_eq_false] at hcount
    omega
  rw [discard, filterOk_of_ok hnot]
  simp only [Except.map, hlen]

/-- Where the whole does not fail, the test fails on no row. -/
theorem exists_of_filterOk {kept : List Row} (h : filterOk test rows = .ok kept) :
    ∃ p : Row → Bool, ∀ row ∈ rows, test row = .ok (p row) := by
  refine ⟨fun row => match test row with | .ok b => b | .error _ => false, ?_⟩
  induction rows generalizing kept with
  | nil => simp
  | cons row rows ih =>
    rw [filterOk] at h
    split at h
    · simp at h
    · rename_i keep hkeep
      cases hrest : filterOk test rows with
      | error e => simp [hrest, Except.map] at h
      | ok kept' =>
        intro row' hrow'
        rcases List.mem_cons.mp hrow' with rfl | hrow'
        · simp [hkeep]
        · exact ih hrest row' hrow'

theorem exists_of_discard {r : Nat × List Row} (h : discard test rows = .ok r) :
    ∃ p : Row → Bool, ∀ row ∈ rows, test row = .ok (p row) := by
  rw [discard] at h
  cases hkept : filterOk (fun row => (test row).map not) rows with
  | error e =>
    rw [hkept] at h
    exact absurd h (by simp [Except.map])
  | ok kept =>
    obtain ⟨p, hp⟩ := exists_of_filterOk hkept
    refine ⟨fun row => !p row, fun row hrow => ?_⟩
    have hrow := hp row hrow
    cases htest : test row with
    | error e => simp [htest, Except.map] at hrow
    | ok b =>
      rw [htest] at hrow
      have hb : (!b) = p row := Except.ok.inj hrow
      show Except.ok b = Except.ok (!p row)
      rw [← hb, Bool.not_not]

theorem sublist_of_filterOk {kept : List Row} (h : filterOk test rows = .ok kept) :
    kept.Sublist rows := by
  induction rows generalizing kept with
  | nil =>
    obtain rfl := Except.ok.inj h
    exact List.Sublist.refl _
  | cons row rows ih =>
    rw [filterOk] at h
    split at h
    · simp at h
    · rename_i keep _
      cases hrest : filterOk test rows with
      | error e => simp [hrest, Except.map] at h
      | ok kept' =>
        rw [hrest] at h
        obtain rfl := Except.ok.inj h
        cases keep with
        | true => exact (ih hrest).cons_cons row
        | false => exact (ih hrest).cons row

/-- **What is left of the rows is left in order.** -/
theorem sublist_of_discard {count : Nat} {kept : List Row}
    (h : discard test rows = .ok (count, kept)) : kept.Sublist rows := by
  rw [discard] at h
  cases hkept : filterOk (fun row => (test row).map not) rows with
  | error e =>
    rw [hkept] at h
    exact absurd h (by simp [Except.map])
  | ok kept' =>
    rw [hkept] at h
    obtain ⟨-, rfl⟩ := Prod.mk.inj (Except.ok.inj h)
    exact sublist_of_filterOk hkept

end Relation

end Tabular
