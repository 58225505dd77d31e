/-
# Runs of steps that may fail

Statements are read and rows are reduced in runs of steps, and the first step that fails ends its
run.  So a run that succeeds is known from its steps: each of them has succeeded, and what they gave
is what the run gave (`mapM_eq_ok_iff`).
-/
import Mathlib.Data.List.Forall2

namespace Tabular

variable {ε α β γ : Type}

/-! ## 1. One step after another -/

theorem exists_of_bind_eq_ok {x : Except ε α} {f : α → Except ε β} {b : β}
    (h : (x >>= f) = .ok b) : ∃ a, x = .ok a ∧ f a = .ok b := by
  cases x with
  | error e => exact absurd h (by simp [bind, Except.bind])
  | ok a => exact ⟨a, rfl, h⟩

theorem exists_of_map_eq_ok {x : Except ε α} {f : α → β} {b : β}
    (h : x.map f = .ok b) : ∃ a, x = .ok a ∧ f a = b := by
  cases x with
  | error e => simp [Except.map] at h
  | ok a => exact ⟨a, rfl, Except.ok.inj h⟩

/-! ## 2. A step for every member of a list -/

variable {k k' : α → Except ε β} {xs : List α} {ys : List β}

theorem mapM_congr (h : ∀ x ∈ xs, k x = k' x) : xs.mapM k = xs.mapM k' := by
  induction xs with
  | nil => rfl
  | cons x xs ih =>
    rw [List.mapM_cons, List.mapM_cons, h x List.mem_cons_self,
      ih fun y hy => h y (List.mem_cons_of_mem _ hy)]

/-- **A run over a list succeeds** just if every step does, with what the steps give. -/
theorem mapM_eq_ok_iff :
    xs.mapM k = .ok ys ↔ List.Forall₂ (fun x y => k x = .ok y) xs ys := by
  constructor
  · intro h
    induction xs generalizing ys with
    | nil =>
      obtain rfl := Except.ok.inj h
      exact .nil
    | cons x xs ih =>
      rw [List.mapM_cons] at h
      obtain ⟨y, hy, h⟩ := exists_of_bind_eq_ok h
      obtain ⟨rest, hrest, h⟩ := exists_of_bind_eq_ok h
      obtain rfl := Except.ok.inj h
      exact .cons hy (ih hrest)
  · intro h
    induction h with
    | nil => rfl
    | cons hy _ ih =>
      rw [List.mapM_cons, hy, ih]
      rfl

theorem mapM_eq_ok_map {value : α → β} (h : ∀ x ∈ xs, k x = .ok (value x)) :
    xs.mapM k = .ok (xs.map value) := by
  rw [mapM_eq_ok_iff, List.forall₂_map_right_iff, List.forall₂_same]
  exact h

/-- Every entry of a list can be read, if each one can. -/
theorem mapM_eq_ok {R : γ → α → Prop} {value : γ → β} {as : List γ}
    (hrel : List.Forall₂ R as xs) (h : ∀ a x, R a x → k x = .ok (value a)) :
    xs.mapM k = .ok (as.map value) := by
  rw [mapM_eq_ok_iff, List.forall₂_map_right_iff]
  exact hrel.flip.imp fun x a hax => h a x hax

theorem ne_nil_of_mapM (h : xs.mapM k = .ok ys) (hxs : xs ≠ []) : ys ≠ [] := by
  rw [mapM_eq_ok_iff] at h
  rwa [ne_eq, ← List.length_eq_zero_iff, ← h.length_eq, List.length_eq_zero_iff]

theorem exists_of_mem_mapM (h : xs.mapM k = .ok ys) {y : β} (hy : y ∈ ys) :
    ∃ x ∈ xs, k x = .ok y := by
  rw [mapM_eq_ok_iff] at h
  induction h with
  | nil => exact absurd hy List.not_mem_nil
  | @cons x y' xs ys hx _ ih =>
    rcases List.mem_cons.mp hy with rfl | hy
    · exact ⟨x, List.mem_cons_self, hx⟩
    · obtain ⟨x', hx', hk⟩ := ih hy
      exact ⟨x', List.mem_cons_of_mem _ hx', hk⟩

theorem exists_ok_of_mem (h : xs.mapM k = .ok ys) {x : α} (hx : x ∈ xs) : ∃ y, k x = .ok y := by
  rw [mapM_eq_ok_iff] at h
  induction h with
  | nil => exact absurd hx List.not_mem_nil
  | cons hy _ ih =>
    rcases List.mem_cons.mp hx with rfl | hx
    · exact ⟨_, hy⟩
    · exact ih hx

theorem map_of_mapM_eq_ok {m : β → γ} {m' : α → γ} (h : xs.mapM k = .ok ys)
    (hk : ∀ x y, k x = .ok y → m y = m' x) : ys.map m = xs.map m' := by
  rw [mapM_eq_ok_iff] at h
  induction h with
  | nil => rfl
  | cons hx _ ih => rw [List.map_cons, List.map_cons, hk _ _ hx, ih]

/-- Where a step succeeds on everything, a run does, and what holds of each step holds of it. -/
theorem exists_mapM_eq_ok_forall₂ {P : α → β → Prop} (h : ∀ x ∈ xs, ∃ y, k x = .ok y ∧ P x y) :
    ∃ ys, xs.mapM k = .ok ys ∧ List.Forall₂ P xs ys := by
  induction xs with
  | nil => exact ⟨[], rfl, .nil⟩
  | cons x xs ih =>
    obtain ⟨y, hy, hP⟩ := h x List.mem_cons_self
    obtain ⟨ys, hys, hPs⟩ := ih fun x' hx' => h x' (List.mem_cons_of_mem _ hx')
    exact ⟨y :: ys, by rw [List.mapM_cons, hy, hys]; rfl, .cons hP hPs⟩

theorem exists_mapM_eq_ok (h : ∀ x ∈ xs, ∃ y, k x = .ok y) : ∃ ys, xs.mapM k = .ok ys := by
  have hsteps : ∀ x ∈ xs, ∃ y, k x = .ok y ∧ True := by simpa using h
  obtain ⟨ys, hys, -⟩ := exists_mapM_eq_ok_forall₂ hsteps
  exact ⟨ys, hys⟩

end Tabular
