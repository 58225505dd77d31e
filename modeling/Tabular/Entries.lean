/-
# Named entries

A list of names with what they stand for, in the order in which the names came.  Setting a name
that is there replaces its entry in place; any other name goes to the end.

* `names_set`: the names after an entry is set;
* `get?_set`: what every name stands for after it.
-/
namespace Tabular

/-- Names with what they stand for, in order. -/
abbrev Entries (α : Type) := List (String × α)

namespace Entries

variable {α : Type}

/-- The names. -/
def names (entries : Entries α) : List String := entries.map Prod.fst

/-- What a name stands for. -/
def get? (name : String) : Entries α → Option α
  | [] => none
  | (n, a) :: rest => if n = name then some a else get? name rest

/-- Sets the entry of a name: in place if it is there, else at the end. -/
def set (name : String) (a : α) : Entries α → Entries α
  | [] => [(name, a)]
  | (n, b) :: rest => if n = name then (n, a) :: rest else (n, b) :: set name a rest

theorem names_set (name : String) (a : α) (entries : Entries α) :
    names (set name a entries) =
      if name ∈ names entries then names entries else names entries ++ [name] := by
  induction entries with
  | nil => simp [names, set]
  | cons entry rest ih =>
    obtain ⟨n, b⟩ := entry
    by_cases h : n = name
    · subst h; simp [names, set]
    · have h' : name ≠ n := fun e => h e.symm
      simp only [names, List.map_cons] at ih ⊢
      simp only [set, h, if_false, List.map_cons, ih, List.mem_cons, h', false_or]
      by_cases hm : name ∈ List.map Prod.fst rest <;> simp [hm]

theorem nodup_names_set {name : String} {a : α} {entries : Entries α}
    (h : (names entries).Nodup) : (names (set name a entries)).Nodup := by
  rw [names_set]
  split
  · exact h
  · rename_i hn
    rw [List.nodup_append]
    refine ⟨h, by simp, ?_⟩
    rintro x hx y hy rfl
    rw [List.mem_singleton] at hy
    exact hn (hy ▸ hx)

theorem get?_set (name : String) (a : α) (entries : Entries α) (n : String) :
    get? n (set name a entries) = if n = name then some a else get? n entries := by
  induction entries with
  | nil => by_cases h : n = name <;> simp [set, get?, eq_comm, h]
  | cons entry rest ih =>
    obtain ⟨m, b⟩ := entry
    by_cases hm : m = name <;> by_cases hn : m = n <;> grind [set, get?]

end Entries

end Tabular
