/-
# Histories of entries

Nothing but `Entries.set` ever changes a list of entries.  So a list of entries has a history: the
names that were set, one after the other, with what they were set to.  What is left of a history
is each of its names once, at the place of its first entry, with what its last entry says.

* `IsFirsts`: a list without its repetitions, in the order of first occurrence; one element more
  goes to the end if it is new, and changes nothing if it is not (`IsFirsts.concat`);
* `Leaves.set`: one entry more in a history is one entry set;
* **`leaves_setAll`**: what a whole history leaves.
-/
import Tabular.Entries
import Mathlib.Data.Finset.Card

namespace Tabular

/-! ## 1. First occurrences -/

section Firsts

variable {α : Type} [DecidableEq α] {l xs : List α}

/-- The members of a list, each once and in the order in which they first occur. -/
structure IsFirsts (l xs : List α) : Prop where
  nodup : xs.Nodup
  mem_iff : ∀ x, x ∈ xs ↔ x ∈ l
  ordered : xs.Pairwise fun x y => l.idxOf x < l.idxOf y

theorem isFirsts_nil : IsFirsts ([] : List α) [] := ⟨List.nodup_nil, fun _ => Iff.rfl, .nil⟩

/-- **A new member occurs first at the end**, and any other one has occurred before. -/
theorem IsFirsts.concat (h : IsFirsts l xs) (a : α) :
    IsFirsts (l ++ [a]) (if a ∈ xs then xs else xs ++ [a]) := by
  have hkeep : ∀ x ∈ xs, (l ++ [a]).idxOf x = l.idxOf x :=
    fun x hx => List.idxOf_append_of_mem ((h.mem_iff x).mp hx)
  have hordered : xs.Pairwise fun x y => (l ++ [a]).idxOf x < (l ++ [a]).idxOf y := by
    refine h.ordered.imp_of_mem fun hx hy hlt => ?_
    rwa [hkeep _ hx, hkeep _ hy]
  split
  · rename_i ha
    refine ⟨h.nodup, fun x => ?_, hordered⟩
    rw [List.mem_append, List.mem_singleton, ← h.mem_iff, or_iff_left_of_imp]
    rintro rfl
    exact ha
  · rename_i ha
    have hal : a ∉ l := fun hmem => ha ((h.mem_iff a).mpr hmem)
    refine ⟨List.nodup_append.mpr ⟨h.nodup, List.nodup_singleton a, ?_⟩, fun x => ?_, ?_⟩
    · rintro x hx y hy rfl
      exact ha (List.mem_singleton.mp hy ▸ hx)
    · rw [List.mem_append, List.mem_append, h.mem_iff]
    · refine List.pairwise_append.mpr ⟨hordered, List.pairwise_singleton _ _, fun x hx y hy => ?_⟩
      rw [List.mem_singleton.mp hy, hkeep x hx, List.idxOf_append_of_notMem hal]
      exact Nat.lt_add_right _ (List.idxOf_lt_length_of_mem ((h.mem_iff x).mp hx))

/-- Dropping repetitions leaves the first occurrences. -/
theorem isFirsts_eraseDups (l : List α) : IsFirsts l l.eraseDups := by
  induction l using List.reverseRecOn with
  | nil => exact isFirsts_nil
  | append_singleton l a ih =>
    have hstep : (l ++ [a]).eraseDups =
        if a ∈ l.eraseDups then l.eraseDups else l.eraseDups ++ [a] := by
      rw [List.eraseDups_append]
      by_cases ha : a ∈ l
      · simp [List.removeAll, ih.mem_iff, ha]
      · simp [List.removeAll, ih.mem_iff, ha, List.eraseDups_cons]
    rw [hstep]
    exact ih.concat a

/-- There are as many of them as there are different members. -/
theorem IsFirsts.length_eq (h : IsFirsts l xs) : xs.length = l.toFinset.card := by
  have hset : xs.toFinset = l.toFinset := by
    ext x
    rw [List.mem_toFinset, List.mem_toFinset, h.mem_iff]
  rw [← hset, List.toFinset_card_of_nodup h.nodup]

end Firsts

/-! ## 2. Histories -/

namespace Entries

variable {α : Type} {history entries : Entries α}

/-- What is left of a history: its entries are set one after the other. -/
def setAll (history : Entries α) : Entries α :=
  history.foldl (fun entries entry => set entry.1 entry.2 entries) []

/-- What the last entry of a name says. -/
def last? (name : String) (history : Entries α) : Option α :=
  (history.filter fun entry => entry.1 = name).getLast?.map Prod.snd

/-- The entries are what a history leaves: each name once, in the order of the first entries, with
what the last entry says; and nothing else. -/
structure Leaves (history entries : Entries α) : Prop where
  names_firsts : IsFirsts history.names entries.names
  get?_eq : ∀ name, entries.get? name = history.last? name
  length_eq : entries.length = history.names.toFinset.card

theorem last?_concat (history : Entries α) (name : String) (a : α) (n : String) :
    last? n (history ++ [(name, a)]) = if n = name then some a else last? n history := by
  by_cases h : n = name
  · simp [last?, h]
  · have h' : name ≠ n := fun e => h e.symm
    simp [last?, h, h']

theorem leaves_nil : Leaves ([] : Entries α) [] := ⟨isFirsts_nil, fun _ => rfl, rfl⟩

/-- **One entry more**: setting it keeps up with the history. -/
theorem Leaves.set (h : Leaves history entries) (name : String) (a : α) :
    Leaves (history ++ [(name, a)]) (entries.set name a) := by
  have hnames : IsFirsts (names (history ++ [(name, a)])) (names (entries.set name a)) := by
    rw [names_set, names, List.map_append]
    exact h.names_firsts.concat name
  refine ⟨hnames, fun n => ?_, ?_⟩
  · rw [get?_set, last?_concat, h.get?_eq]
  · rw [← hnames.length_eq, names, List.length_map]

/-- A history may go on. -/
theorem Leaves.foldl (h : Leaves history entries) (more : Entries α) :
    Leaves (history ++ more)
      (more.foldl (fun entries entry => entries.set entry.1 entry.2) entries) := by
  induction more generalizing history entries with
  | nil => simpa using h
  | cons entry more ih =>
    have hstep := ih (h.set entry.1 entry.2)
    rwa [List.append_assoc, List.singleton_append] at hstep

/-- **What a history leaves**, whatever names are repeated in it. -/
theorem leaves_setAll (history : Entries α) : Leaves history (setAll history) :=
  leaves_nil.foldl history

end Entries
end Tabular
