/-
# First occurrences

Both `DISTINCT` and `GROUP BY` go by the first rows of their kind.  `firsts key l` keeps of every
class of elements with one key the first; `groups key l` lists with each of them its whole class.

* `mem_keys_firsts`: no key is lost;
* `nodup_keys_firsts`: no key is kept twice;
* `firsts_sublist`: the order stays.
-/
namespace Tabular
namespace Relation

variable {α κ : Type} [DecidableEq κ]

/-- The elements whose key no earlier element has. -/
def firsts (key : α → κ) : List α → List α
  | [] => []
  | a :: l => a :: (firsts key l).filter fun b => key b ≠ key a

/-- The elements with the key of `a`. -/
def classOf (key : α → κ) (l : List α) (a : α) : List α := l.filter fun b => key b = key a

/-- Every first element with the elements that have its key. -/
def groups (key : α → κ) (l : List α) : List (α × List α) :=
  (firsts key l).map fun a => (a, classOf key l a)

theorem firsts_sublist (key : α → κ) (l : List α) : (firsts key l).Sublist l := by
  induction l with
  | nil => exact .slnil
  | cons a l ih => exact (List.filter_sublist.trans ih).cons_cons a

theorem mem_keys_firsts (key : α → κ) (l : List α) (k : κ) :
    k ∈ (firsts key l).map key ↔ k ∈ l.map key := by
  induction l with
  | nil => rfl
  | cons a l ih =>
    by_cases h : k = key a
    · simp [firsts, h]
    · simp only [List.mem_map] at ih
      simp only [firsts, List.map_cons, List.mem_cons, h, false_or, List.mem_map, List.mem_filter,
        decide_eq_true_eq, ← ih]
      constructor
      · rintro ⟨b, ⟨hb, -⟩, rfl⟩; exact ⟨b, hb, rfl⟩
      · rintro ⟨b, hb, rfl⟩; exact ⟨b, ⟨hb, h⟩, rfl⟩

theorem nodup_keys_firsts (key : α → κ) (l : List α) : ((firsts key l).map key).Nodup := by
  induction l with
  | nil => exact List.nodup_nil
  | cons a l ih =>
    rw [firsts, List.map_cons, List.nodup_cons]
    refine ⟨?_, ih.sublist (List.filter_sublist.map key)⟩
    simp only [List.mem_map, List.mem_filter, decide_eq_true_eq, not_exists, not_and]
    rintro b ⟨-, hb⟩ h
    exact hb h

end Relation
end Tabular
