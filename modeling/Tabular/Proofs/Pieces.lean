/-
# Lists put together from pieces

Texts are written piece by piece, with a character between the pieces (`List.intercalate`) or with
nothing (`List.flatMap`).  What is known of the pieces is known of the whole: its members, its
length, and where in it a piece stands.
-/
import Mathlib.Algebra.Ring.Nat
import Mathlib.Data.List.Basic

namespace Tabular

variable {α β : Type}

/-! ## 1. Pieces with something between them -/

theorem length_intercalate (x : α) {parts : List (List α)} (hne : parts ≠ []) :
    ([x].intercalate parts).length + 1 = (parts.map fun part => part.length + 1).sum := by
  induction parts with
  | nil => exact absurd rfl hne
  | cons part parts ih =>
    cases parts with
    | nil => simp
    | cons next parts =>
      have hrest := ih (by simp)
      rw [List.intercalate_cons_cons, List.length_append, List.length_append, List.length_singleton,
        List.map_cons, List.sum_cons]
      omega

/-- What no piece holds stands between the pieces, or nowhere. -/
theorem count_intercalate [DecidableEq α] {x y : α} {parts : List (List α)}
    (h : ∀ part ∈ parts, x ∉ part) :
    ([y].intercalate parts).count x = if x = y then parts.length - 1 else 0 := by
  induction parts with
  | nil => simp
  | cons part parts ih =>
    have hpart : part.count x = 0 := List.count_eq_zero_of_not_mem (h part List.mem_cons_self)
    cases parts with
    | nil => simp [hpart]
    | cons next parts =>
      have hrest := ih fun p hp => h p (List.mem_cons_of_mem _ hp)
      rw [List.intercalate_cons_cons, List.count_append, List.count_append, hrest, hpart]
      by_cases hx : x = y
      · simp [hx, Nat.add_comm]
      · have hx' : y ≠ x := fun e => hx e.symm
        simp [hx, hx']

theorem notMem_intercalate [DecidableEq α] {x y : α} (hne : x ≠ y) {parts : List (List α)}
    (h : ∀ part ∈ parts, x ∉ part) : x ∉ [y].intercalate parts := by
  rw [← List.count_eq_zero, count_intercalate h, if_neg hne]

/-- What stands behind every separator and in front of the whole is a part of the pieces. -/
theorem append_intercalate (x : α) {parts : List (List α)} (hne : parts ≠ []) (lead : List α) :
    lead ++ (x :: lead).intercalate parts = [x].intercalate (parts.map (lead ++ ·)) := by
  induction parts with
  | nil => exact absurd rfl hne
  | cons part parts ih =>
    cases parts with
    | nil => simp
    | cons next parts => simpa using ih (by simp)

/-- A separator in front of the last piece ends the one before it. -/
theorem intercalate_concat (x : α) (parts : List (List α)) (last : List α) :
    [x].intercalate (parts ++ [last]) = parts.flatMap (· ++ [x]) ++ last := by
  induction parts with
  | nil => simp
  | cons part parts ih =>
    cases parts with
    | nil => simp
    | cons next parts => simpa using ih

/-! ## 2. Pieces with nothing between them -/

/-- A piece stands behind the lengths of those before it. -/
theorem take_drop_flatMap (f : α → List β) {l : List α} {j : Nat} {a : α} (h : l[j]? = some a) :
    ((l.flatMap f).drop ((l.take j).map fun x => (f x).length).sum).take (f a).length = f a := by
  obtain ⟨hj, ha⟩ := List.getElem?_eq_some_iff.mp h
  have hlist : l = l.take j ++ a :: l.drop (j + 1) := by
    rw [← ha, List.getElem_cons_drop, List.take_append_drop]
  have hpieces : l.flatMap f = (l.take j).flatMap f ++ (f a ++ (l.drop (j + 1)).flatMap f) := by
    conv_lhs => rw [hlist]
    rw [List.flatMap_append, List.flatMap_cons]
  rw [hpieces, ← List.length_flatMap, List.drop_left, List.take_left]

end Tabular
