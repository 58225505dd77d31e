/-
# First occurrences

`firsts key l` leaves out what has a key that came up before.  The first occurrences can be found
in other ways as well: by keeping the keys that were seen aside (`unseen_eq`), or by looking back
from every place for a thing that is the same (`firstsBy`).

* `firsts_append`: what a longer list adds;
* `firsts_congr`: all that matters of the keys is which of them are equal;
* `length_firsts`: there are as many first occurrences as kinds;
* `firsts_eq_firstsBy`: keys find what looking back finds, if they are equal where things are the
  same.
-/
import Tabular.Relation.Distinct
import Mathlib.Data.Finset.Card
import Mathlib.Data.Finset.Dedup
import Mathlib.Data.List.Enum

namespace Tabular
namespace Relation

variable {α κ : Type} [DecidableEq κ] {key : α → κ} {l : List α}

/-! ## 1. Kinds -/

theorem firsts_append (key : α → κ) (l more : List α) : firsts key (l ++ more) =
    firsts key l ++ (firsts key more).filter fun b => key b ∉ l.map key := by
  induction l with
  | nil => simp [firsts]
  | cons a l ih =>
    rw [List.cons_append, firsts, ih, firsts, List.cons_append, List.filter_append,
      List.filter_filter]
    congr 2
    refine List.filter_congr fun b _ => ?_
    simp [not_or]

/-- Kinds that agree on the things have the same first ones. -/
theorem firsts_congr {κ' : Type} [DecidableEq κ'] {key' : α → κ'}
    (h : ∀ a ∈ l, ∀ b ∈ l, key a = key b ↔ key' a = key' b) : firsts key l = firsts key' l := by
  induction l with
  | nil => rfl
  | cons a l ih =>
    rw [firsts, firsts, ih fun b hb c hc =>
      h b (List.mem_cons_of_mem _ hb) c (List.mem_cons_of_mem _ hc)]
    congr 1
    refine List.filter_congr fun b hb => ?_
    have hbl := List.mem_cons_of_mem a ((firsts_sublist key' l).subset hb)
    rw [decide_eq_decide, ne_eq, ne_eq, h b hbl a List.mem_cons_self]

/-- The first things of their kinds are as many as the kinds. -/
theorem length_firsts (key : α → κ) (l : List α) :
    (firsts key l).length = (l.map key).toFinset.card := by
  have hkinds : (l.map key).toFinset = ((firsts key l).map key).toFinset := by
    ext k
    rw [List.mem_toFinset, List.mem_toFinset, mem_keys_firsts]
  rw [hkinds, List.toFinset_card_of_nodup (nodup_keys_firsts key l), List.length_map]

/-! ## 2. Keys kept aside -/

/-- The things of kinds that were not seen, each kind once: what was met is kept aside. -/
def unseen (key : α → κ) : List κ → List α → List α
  | _, [] => []
  | seen, a :: l => if key a ∈ seen then unseen key seen l else a :: unseen key (key a :: seen) l

theorem unseen_eq (key : α → κ) (seen : List κ) (l : List α) :
    unseen key seen l = (firsts key l).filter fun a => key a ∉ seen := by
  induction l generalizing seen with
  | nil => rfl
  | cons a l ih =>
    rw [unseen, firsts, List.filter_cons]
    by_cases h : key a ∈ seen
    · -- Later things of the kind are left out as `a` is.
      rw [if_pos h, ih, if_neg (by simpa using h), List.filter_filter]
      refine List.filter_congr fun b _ => ?_
      by_cases hb : key b = key a <;> simp [hb, h]
    · rw [if_neg h, ih, if_pos (by simpa using h), List.filter_filter]
      congr 1
      refine List.filter_congr fun b _ => ?_
      simp [not_or, Bool.and_comm]

/-! ## 3. Looking back -/

section FirstsBy

variable {same : α → α → Prop} [DecidableRel same]

/-- The things at places where nothing that stands earlier is the same. -/
def firstsBy (same : α → α → Prop) [DecidableRel same] (l : List α) : List α :=
  (l.zipIdx.filter fun (place : α × Nat) =>
    decide (∀ earlier ∈ l.take place.2, ¬same earlier place.1)).map Prod.fst

theorem firstsBy_snoc (l : List α) (a : α) : firstsBy same (l ++ [a]) =
    firstsBy same l ++ if ∀ earlier ∈ l, ¬same earlier a then [a] else [] := by
  -- What stands before a place of `l` is in `l`.
  have hbefore : l.zipIdx.filter (fun (place : α × Nat) =>
      decide (∀ earlier ∈ (l ++ [a]).take place.2, ¬same earlier place.1)) =
        l.zipIdx.filter fun (place : α × Nat) =>
          decide (∀ earlier ∈ l.take place.2, ¬same earlier place.1) := by
    refine List.filter_congr fun place hplace => ?_
    have hlt : place.2 < l.length := by
      have := List.snd_lt_add_of_mem_zipIdx hplace
      omega
    rw [List.take_append_of_le_length hlt.le]
  rw [firstsBy, List.zipIdx_append, List.filter_append, hbefore, List.map_append, firstsBy]
  congr 1
  rw [Nat.zero_add, List.zipIdx_singleton, List.filter_singleton, List.take_left]
  by_cases h : ∀ earlier ∈ l, ¬same earlier a
  · rw [if_pos h, decide_eq_true h]
    rfl
  · rw [if_neg h, decide_eq_false h]
    rfl

/-- Keys find them, if two things have one key just where they are the same. -/
theorem firsts_eq_firstsBy (h : ∀ a ∈ l, ∀ b ∈ l, key a = key b ↔ same a b) :
    firsts key l = firstsBy same l := by
  induction l using List.reverseRecOn with
  | nil => rfl
  | append_singleton l a ih =>
    have hl : ∀ b ∈ l, b ∈ l ++ [a] := fun b hb => List.mem_append_left _ hb
    have hnew : key a ∉ l.map key ↔ ∀ earlier ∈ l, ¬same earlier a := by
      rw [List.mem_map, not_exists]
      refine forall_congr' fun b => ?_
      rw [not_and]
      exact forall_congr' fun hb =>
        not_congr (h b (hl b hb) a (List.mem_append_right _ List.mem_cons_self))
    rw [firsts_append, ih fun b hb c hc => h b (hl b hb) c (hl c hc), firstsBy_snoc]
    congr 1
    by_cases ha : ∀ earlier ∈ l, ¬same earlier a
    · rw [if_pos ha]
      exact List.filter_eq_self.mpr fun b hb => by
        rw [List.mem_singleton.mp hb]
        exact decide_eq_true (hnew.mpr ha)
    · have ha' : key a ∈ l.map key := not_not.mp fun hkey => ha (hnew.mp hkey)
      rw [if_neg ha]
      simpa [firsts] using ha'

theorem firstsBy_sublist {same' : α → α → Prop} [DecidableRel same']
    (h : ∀ a b, same' a b → same a b) (l : List α) :
    (firstsBy same l).Sublist (firstsBy same' l) := by
  refine (List.monotone_filter_right _ fun place hplace => ?_).map Prod.fst
  rw [decide_eq_true_eq] at hplace ⊢
  intro earlier hearlier hsame
  exact hplace earlier hearlier (h _ _ hsame)

end FirstsBy

end Relation
end Tabular
