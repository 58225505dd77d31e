/-
# Patterns

A pattern is a text in which `%` stands for any run of characters and `_` for any one
character; letter case does not count.  Matching goes through text and pattern together and
remembers one place only: what follows the last `%` met, with the text it was last tried on.
Where the two disagree it goes back there and lets that `%` take one character more.

A character of the text is compared with the pattern before the pattern is looked at for a `%`,
so a `%` in the text is taken by a `%` of the pattern as by any equal character.

* `State.step_lt`: every step decreases a triple of lengths, taken lexicographically, so
  matching ends.
-/
import Tabular.Text.Casing

namespace Tabular
namespace Pattern

/-! ## 1. States and steps -/

/-- How far a match has come. -/
structure State where
  /-- What is left of the text. -/
  text : List Char
  /-- What is left of the pattern. -/
  pattern : List Char
  /-- What follows the last `%` met, and the text that it was last tried on. -/
  resume : Option (List Char × List Char)
  /-- Matching goes on behind the place to return to. -/
  behind : ∀ r ∈ resume, pattern <:+ r.1 ∧ text <:+ r.2

namespace State

/-- Returns to the last `%` and lets it take one character more. -/
def retry : Option (List Char × List Char) → Option State
  | some (pattern, _ :: text) =>
    some ⟨text, pattern, some (pattern, text), by simp⟩
  | _ => none

/-- One step of a match, while there is text and a way to go on. -/
def step : State → Option State
  | ⟨c :: text, p :: pattern, resume, behind⟩ =>
    if p = '_' ∨ p = c then
      some ⟨text, pattern, resume, fun r hr =>
        ⟨(List.suffix_cons p pattern).trans (behind r hr).1,
          (List.suffix_cons c text).trans (behind r hr).2⟩⟩
    else if p = '%' then
      some ⟨c :: text, pattern, some (pattern, c :: text), by simp⟩
    else retry resume
  | ⟨_ :: _, [], resume, _⟩ => retry resume
  | ⟨[], _, _, _⟩ => none

/-- At the end of the text only `%` may be left of the pattern. -/
def accepts (m : State) : Bool := m.text.isEmpty && m.pattern.all (· = '%')

/-! ## 2. Every match ends -/

/-- How much pattern is open: what follows the last `%`, or all that is left and one more. -/
def openPattern (m : State) : Nat :=
  match m.resume with
  | none => m.pattern.length + 1
  | some r => r.1.length

/-- How much text the last `%` has not taken. -/
def openText (m : State) : Nat :=
  match m.resume with
  | none => 0
  | some r => r.2.length

/-- The order of states by pattern open, text open and text left, in this order. -/
def Before (m n : State) : Prop :=
  m.openPattern < n.openPattern ∨ m.openPattern = n.openPattern ∧
    (m.openText < n.openText ∨ m.openText = n.openText ∧ m.text.length < n.text.length)

theorem retry_lt {m n : State} (h : retry m.resume = some n) : Before n m := by
  unfold retry at h
  split at h
  · rename_i pattern c text hr
    obtain rfl := Option.some.inj h
    simp [Before, openPattern, openText, hr]
  · simp at h

theorem step_lt {m n : State} (h : m.step = some n) : Before n m := by
  unfold step at h
  split at h
  · rename_i c text p pattern resume behind
    split at h
    · obtain rfl := Option.some.inj h
      cases resume <;> simp [Before, openPattern, openText]
    · split at h
      · obtain rfl := Option.some.inj h
        cases resume with
        | none => simp only [Before, openPattern, List.length_cons]; omega
        | some r =>
          have := (behind r rfl).1.length_le
          simp only [Before, openPattern, List.length_cons] at this ⊢
          omega
      · exact retry_lt h
  · exact retry_lt h
  · simp at h

end State

/-! ## 3. Matching -/

/-- Goes on with a match to its end. -/
def run (m : State) : Bool :=
  match _h : m.step with
  | some n => run n
  | none => m.accepts
termination_by (m.openPattern, m.openText, m.text.length)
decreasing_by
  rcases State.step_lt _h with h | ⟨h, h' | ⟨h', h''⟩⟩
  · exact .left _ _ h
  · rw [h]; exact .right _ (.left _ _ h')
  · rw [h, h']; exact .right _ (.right _ h'')

/-- Does the pattern match the whole text, character by character? -/
def covers (pattern text : List Char) : Bool := run ⟨text, pattern, none, by simp⟩

/-- Does the pattern match the whole text, apart from letter case? -/
def like (text pattern : String) : Bool :=
  covers (Text.lower pattern).toList (Text.lower text).toList

end Pattern
end Tabular
