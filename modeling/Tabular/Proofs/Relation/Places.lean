/-
# Matching by places

`Pattern.run` drops from text and pattern what it has compared.  The same match can leave both as
they are and keep places in them: where it stands, and where the last `%` lets it return to
(`Places`).  A turn that reads a place which text or pattern does not have gives nothing (`turn`),
and neither does cutting off the rest of the pattern behind its end (`rest?`).

Neither place only grows, as a return takes both back.  What keeps them within text and pattern, and
makes the match end, is one invariant: a place to return to never lies behind the place where the
match stands (`Within`).

* `Within.of_turn`: a turn keeps it, and so does a run of turns (`Within.of_reaches`);
* `effort_lt`: under it every turn lowers the `effort`, a triple of lengths taken
  lexicographically: pattern behind the last `%`, text that this `%` has not taken, text left;
* `Shows.turn`: a turn is a step of `Pattern.run` (`exists_answer?_eq_run`);
* **`places_stay_within`**: all of it, for the match of a text with a pattern.
-/
import Tabular.Proofs.Relation.Pattern
import Mathlib.Data.Prod.Lex
import Mathlib.Logic.Relation

namespace Tabular
namespace Pattern

/-! ## 1. Places and turns -/

/-- Where a match stands in text and pattern, and where it may return to: the place behind the last
`%` met, and the place in the text that this `%` was last tried at. -/
structure Places where
  text : Nat
  pattern : Nat
  resume : Option (Nat × Nat)
  deriving DecidableEq

/-- How a match goes on. -/
inductive Turn where
  /-- From other places. -/
  | next (places : Places)
  /-- Not at all: the two disagree, and there is nowhere to return to. -/
  | refuse
  /-- Not at all: the text is at its end, and the rest of the pattern decides. -/
  | finish
  deriving DecidableEq

namespace Places

/-- Nothing is compared yet. -/
def start : Places := ⟨0, 0, none⟩

/-- Does the pattern go on with a character that takes the next one of the text? -/
def agrees? (pattern text : List Char) (m : Places) : Option Bool :=
  if m.pattern < pattern.length then
    pattern[m.pattern]?.bind fun p =>
      if p = '_' then some true else text[m.text]?.map fun c => decide (p = c)
  else some false

/-- Does the pattern go on with a `%`? -/
def isFree? (pattern : List Char) (m : Places) : Option Bool :=
  if m.pattern < pattern.length then pattern[m.pattern]?.map fun p => decide (p = '%')
  else some false

/-- Returns to the last `%` and lets it take one character more. -/
def goBack (m : Places) : Turn :=
  match m.resume with
  | some (p, t) => .next ⟨t + 1, p, some (p, t + 1)⟩
  | none => .refuse

/-- One turn of a match.  There is none if it reads a place that text or pattern does not have. -/
def turn (pattern text : List Char) (m : Places) : Option Turn :=
  if m.text < text.length then
    (m.agrees? pattern text).bind fun agrees =>
      if agrees then some (.next ⟨m.text + 1, m.pattern + 1, m.resume⟩)
      else (m.isFree? pattern).map fun free =>
        if free then .next ⟨m.text, m.pattern + 1, some (m.pattern + 1, m.text)⟩ else m.goBack
  else some .finish

/-- The rest of the pattern, if the place is one of the pattern or its end. -/
def rest? (pattern : List Char) (m : Places) : Option (List Char) :=
  if m.pattern ≤ pattern.length then some (pattern.drop m.pattern) else none

/-- The answer of a match that does not go on. -/
def answer? (pattern text : List Char) (m : Places) : Option Bool :=
  match m.turn pattern text with
  | some .refuse => some false
  | some .finish => (m.rest? pattern).map (·.all (· = '%'))
  | _ => none

/-- The places that are reached from others in any number of turns. -/
def Reaches (pattern text : List Char) : Places → Places → Prop :=
  Relation.ReflTransGen fun m n => m.turn pattern text = some (.next n)

variable {pattern text : List Char} {m n : Places}

/-! ## 2. What a turn can do -/

theorem agrees?_of_lt (ht : m.text < text.length) (hp : m.pattern < pattern.length) :
    m.agrees? pattern text =
      some (decide (pattern[m.pattern] = '_' ∨ pattern[m.pattern] = text[m.text])) := by
  rw [agrees?, if_pos hp, List.getElem?_eq_getElem hp, List.getElem?_eq_getElem ht]
  by_cases h : pattern[m.pattern] = '_' <;> simp [h]

/-- A turn at a character of the pattern. -/
theorem turn_of_lt (ht : m.text < text.length) (hp : m.pattern < pattern.length) :
    m.turn pattern text = some
      (if pattern[m.pattern] = '_' ∨ pattern[m.pattern] = text[m.text] then
        .next ⟨m.text + 1, m.pattern + 1, m.resume⟩
      else if pattern[m.pattern] = '%' then
        .next ⟨m.text, m.pattern + 1, some (m.pattern + 1, m.text)⟩
      else m.goBack) := by
  rw [turn, if_pos ht, agrees?_of_lt ht hp, isFree?, if_pos hp, List.getElem?_eq_getElem hp]
  simp only [Option.bind_some, Option.map_some, decide_eq_true_eq]
  split <;> rfl

/-- A turn at the end of the pattern. -/
theorem turn_of_le (ht : m.text < text.length) (hp : pattern.length ≤ m.pattern) :
    m.turn pattern text = some m.goBack := by
  have hnot : ¬m.pattern < pattern.length := by omega
  simp [turn, ht, agrees?, isFree?, hnot]

theorem turn_of_text_le (ht : text.length ≤ m.text) : m.turn pattern text = some .finish := by
  rw [turn, if_neg (by omega)]

/-- **Every turn reads places that are there.** -/
theorem exists_turn (pattern text : List Char) (m : Places) :
    ∃ t, m.turn pattern text = some t := by
  rcases Nat.lt_or_ge m.text text.length with ht | ht
  · rcases Nat.lt_or_ge m.pattern pattern.length with hp | hp
    · exact ⟨_, turn_of_lt ht hp⟩
    · exact ⟨_, turn_of_le ht hp⟩
  · exact ⟨_, turn_of_text_le ht⟩

/-- The three ways to go on: in step, from a new `%`, or from the last one. -/
theorem next_cases (h : m.turn pattern text = some (.next n)) : m.text < text.length ∧
    ((m.pattern < pattern.length ∧ n = ⟨m.text + 1, m.pattern + 1, m.resume⟩) ∨
      (m.pattern < pattern.length ∧ n = ⟨m.text, m.pattern + 1, some (m.pattern + 1, m.text)⟩) ∨
      ∃ p t, m.resume = some (p, t) ∧ n = ⟨t + 1, p, some (p, t + 1)⟩) := by
  have hback : m.goBack = .next n →
      ∃ p t, m.resume = some (p, t) ∧ n = ⟨t + 1, p, some (p, t + 1)⟩ := by
    intro hback
    unfold goBack at hback
    split at hback
    · rename_i p t hresume
      exact ⟨p, t, hresume, (Turn.next.inj hback).symm⟩
    · simp at hback
  rcases Nat.lt_or_ge m.text text.length with ht | ht
  · refine ⟨ht, ?_⟩
    rcases Nat.lt_or_ge m.pattern pattern.length with hp | hp
    · rw [turn_of_lt ht hp, Option.some.injEq] at h
      split_ifs at h
      · exact Or.inl ⟨hp, (Turn.next.inj h).symm⟩
      · exact Or.inr (Or.inl ⟨hp, (Turn.next.inj h).symm⟩)
      · exact Or.inr (Or.inr (hback h))
    · rw [turn_of_le ht hp, Option.some.injEq] at h
      exact Or.inr (Or.inr (hback h))
  · simp [turn_of_text_le ht] at h

/-! ## 3. Places stay within text and pattern -/

/-- No place lies outside, and none to return to behind the place where the match stands. -/
structure Within (pattern text : List Char) (m : Places) : Prop where
  text_le : m.text ≤ text.length
  pattern_le : m.pattern ≤ pattern.length
  resume_le : ∀ r ∈ m.resume, r.1 ≤ m.pattern ∧ r.2 ≤ m.text

theorem within_start (pattern text : List Char) : start.Within pattern text :=
  ⟨Nat.zero_le _, Nat.zero_le _, fun _ hr => by simp [start] at hr⟩

/-- **A turn stays within** text and pattern, a return included. -/
theorem Within.of_turn (hm : m.Within pattern text)
    (h : m.turn pattern text = some (.next n)) : n.Within pattern text := by
  obtain ⟨ht, ⟨hp, rfl⟩ | ⟨hp, rfl⟩ | ⟨p, t, hresume, rfl⟩⟩ := next_cases h
  · refine ⟨ht, hp, fun r hr => ?_⟩
    have := hm.resume_le r hr
    exact ⟨by simp only; omega, by simp only; omega⟩
  · refine ⟨ht.le, hp, fun r hr => ?_⟩
    obtain rfl := Option.some.inj hr
    exact ⟨le_rfl, le_rfl⟩
  · -- The place to return to is not behind `m`, and `m` has text left.
    obtain ⟨hp, ht'⟩ := hm.resume_le (p, t) hresume
    refine ⟨by simp only at ht' ⊢; omega, hp.trans hm.pattern_le, fun r hr => ?_⟩
    obtain rfl := Option.some.inj hr
    exact ⟨le_rfl, le_rfl⟩

theorem Within.of_reaches (hm : m.Within pattern text) (h : Reaches pattern text m n) :
    n.Within pattern text := by
  induction h with
  | refl => exact hm
  | tail _ hturn ih => exact ih.of_turn hturn

/-- The rest of the pattern can be cut off. -/
theorem Within.rest?_eq (hm : m.Within pattern text) :
    m.rest? pattern = some (pattern.drop m.pattern) := if_pos hm.pattern_le

/-! ## 4. Every turn is a step forward -/

/-- What is still open: the pattern behind the last `%`, or all that is left and one more; the text
that this `%` has not taken; and the text that is left. -/
def effort (pattern text : List Char) (m : Places) : ℕ ×ₗ ℕ ×ₗ ℕ :=
  match m.resume with
  | none => toLex (pattern.length - m.pattern + 1, toLex (0, text.length - m.text))
  | some (p, t) => toLex (pattern.length - p, toLex (text.length - t, text.length - m.text))

theorem wellFounded_effort (pattern text : List Char) :
    WellFounded fun m n : Places => m.effort pattern text < n.effort pattern text :=
  InvImage.wf (effort pattern text) wellFounded_lt

/-- **Every turn lowers the effort.**  In step there is less text left, behind a new `%` there is
less pattern, and a return leaves less text to the last `%`. -/
theorem effort_lt (hm : m.Within pattern text) (h : m.turn pattern text = some (.next n)) :
    n.effort pattern text < m.effort pattern text := by
  obtain ⟨ht, ⟨hp, rfl⟩ | ⟨hp, rfl⟩ | ⟨p, t, hresume, rfl⟩⟩ := next_cases h
  · rcases hresume : m.resume with _ | ⟨p, t⟩
    · simp only [effort, hresume, Prod.Lex.toLex_lt_toLex]
      exact Or.inl (by omega)
    · simp only [effort, hresume, Prod.Lex.toLex_lt_toLex, true_and]
      exact Or.inr (Or.inr (by omega))
  · rcases hresume : m.resume with _ | ⟨p, t⟩
    · simp only [effort, hresume, Prod.Lex.toLex_lt_toLex]
      exact Or.inl (by omega)
    · have hp' : p ≤ m.pattern := (hm.resume_le (p, t) hresume).1
      simp only [effort, hresume, Prod.Lex.toLex_lt_toLex]
      exact Or.inl (by omega)
  · have ht' : t ≤ m.text := (hm.resume_le (p, t) hresume).2
    simp only [effort, hresume, Prod.Lex.toLex_lt_toLex, true_and]
    exact Or.inr (Or.inl (by omega))

/-! ## 5. Turns are the steps of a match -/

/-- The places say what is left of text and pattern. -/
structure Shows (pattern text : List Char) (m : Places) (s : State) : Prop where
  text_eq : s.text = text.drop m.text
  pattern_eq : s.pattern = pattern.drop m.pattern
  resume_eq : s.resume = m.resume.map fun r => (pattern.drop r.1, text.drop r.2)

theorem shows_start (pattern text : List Char) {behind} :
    start.Shows pattern text ⟨text, pattern, none, behind⟩ := ⟨rfl, rfl, rfl⟩

variable {s s' : State}

/-- A return to the last `%` is the return of the match. -/
theorem Shows.goBack (hs : m.Shows pattern text s) (hm : m.Within pattern text)
    (ht : m.text < text.length) :
    (State.retry s.resume = none ∧ m.goBack = .refuse) ∨
      ∃ n s', State.retry s.resume = some s' ∧ m.goBack = .next n ∧ n.Shows pattern text s' := by
  rcases hresume : m.resume with _ | ⟨p, t⟩
  · refine Or.inl ⟨?_, by simp [Places.goBack, hresume]⟩
    simp [hs.resume_eq, hresume, State.retry]
  · have ht' : t < text.length := lt_of_le_of_lt (hm.resume_le (p, t) hresume).2 ht
    have hs' : s.resume = some (pattern.drop p, text[t] :: text.drop (t + 1)) := by
      rw [hs.resume_eq, hresume, ← List.drop_eq_getElem_cons ht']
      rfl
    refine Or.inr ⟨⟨t + 1, p, some (p, t + 1)⟩, _, by rw [hs', State.retry], ?_, ⟨rfl, rfl, rfl⟩⟩
    simp [Places.goBack, hresume]

/-- **A turn is a step of the match**, and where the one ends the other does, with one answer. -/
theorem Shows.turn (hs : m.Shows pattern text s) (hm : m.Within pattern text) :
    (s.step = none ∧ m.answer? pattern text = some s.accepts) ∨
      ∃ n s', s.step = some s' ∧ m.turn pattern text = some (.next n) ∧
        n.Shows pattern text s' := by
  have hback := hs.goBack hm
  obtain ⟨sText, sPattern, sResume, behind⟩ := s
  obtain ⟨htext, hpattern, hresume⟩ := hs
  simp only at htext hpattern hresume hback
  rcases Nat.lt_or_ge m.text text.length with ht | ht
  · rw [List.drop_eq_getElem_cons ht] at htext
    subst htext
    -- Where there is no return, both refuse.
    have hrefuse : m.goBack = .refuse → m.turn pattern text = some m.goBack →
        m.answer? pattern text =
          some (State.accepts ⟨text[m.text] :: text.drop (m.text + 1), sPattern, _, behind⟩) := by
      intro hrefuse hturn
      rw [answer?, hturn, hrefuse]
      rfl
    rcases Nat.lt_or_ge m.pattern pattern.length with hp | hp
    · rw [List.drop_eq_getElem_cons hp] at hpattern
      subst hpattern
      rw [turn_of_lt ht hp] at hrefuse ⊢
      rw [State.step]
      split_ifs with hc hfree
      · exact Or.inr ⟨_, _, rfl, rfl, ⟨rfl, rfl, hresume⟩⟩
      · have hrest := (List.drop_eq_getElem_cons ht).symm
        exact Or.inr ⟨_, _, rfl, rfl, ⟨hrest, rfl,
          congrArg (fun rest => some (pattern.drop (m.pattern + 1), rest)) hrest⟩⟩
      · rcases hback ht with ⟨hstep, hgo⟩ | ⟨n, s', hstep, hgo, hn⟩
        · exact Or.inl ⟨hstep, hrefuse hgo (by rw [if_neg hc, if_neg hfree])⟩
        · exact Or.inr ⟨n, s', hstep, by rw [hgo], hn⟩
    · rw [List.drop_eq_nil_of_le hp] at hpattern
      subst hpattern
      rw [turn_of_le ht hp] at hrefuse ⊢
      rw [State.step]
      rcases hback ht with ⟨hstep, hgo⟩ | ⟨n, s', hstep, hgo, hn⟩
      · exact Or.inl ⟨hstep, hrefuse hgo rfl⟩
      · exact Or.inr ⟨n, s', hstep, by rw [hgo], hn⟩
  · rw [List.drop_eq_nil_of_le ht] at htext
    subst htext hpattern
    refine Or.inl ⟨rfl, ?_⟩
    simp [answer?, turn_of_text_le ht, hm.rest?_eq, State.accepts]

/-- **The turns of a match end**, with the answer of `Pattern.run`. -/
theorem exists_answer?_eq_run (s : State) (hs : m.Shows pattern text s)
    (hm : m.Within pattern text) :
    ∃ n, Reaches pattern text m n ∧ n.answer? pattern text = some (run s) := by
  induction s using run.induct generalizing m with
  | case1 s s' hstep ih =>
    rcases hs.turn hm with ⟨hnone, -⟩ | ⟨n, t, hstep', hturn, hn⟩
    · simp [hstep] at hnone
    · obtain rfl : s' = t := Option.some.inj (hstep.symm.trans hstep')
      obtain ⟨last, hreaches, hanswer⟩ := ih hn (hm.of_turn hturn)
      refine ⟨last, Relation.ReflTransGen.head hturn hreaches, ?_⟩
      rw [hanswer, run_of_step hstep]
  | case2 s hstep =>
    rcases hs.turn hm with ⟨-, hanswer⟩ | ⟨n, t, hstep', -⟩
    · exact ⟨m, .refl, by rw [hanswer, run_of_step_eq_none hstep]⟩
    · simp [hstep] at hstep'

/-! ## 6. The match of a text with a pattern -/

/-- **Places stay within text and pattern**, whatever these are: in every state that is reached no
place lies outside, and a turn reads only places that are there and lowers the effort, so that the
match ends; the rest of the pattern can be cut off at its end, and the answer is that of `like`. -/
theorem places_stay_within (text pattern : String) :
    let t := (Text.lower text).toList
    let p := (Text.lower pattern).toList
    (∀ m, Reaches p t start m → m.Within p t ∧ (m.turn p t).isSome = true ∧
      (m.rest? p).isSome = true ∧
      ∀ n, m.turn p t = some (.next n) → n.effort p t < m.effort p t) ∧
    (WellFounded fun m n : Places => m.effort p t < n.effort p t) ∧
    ∃ m, Reaches p t start m ∧ m.answer? p t = some (like text pattern) := by
  intro t p
  refine ⟨fun m hm => ?_, wellFounded_effort p t,
    exists_answer?_eq_run ⟨t, p, none, by simp⟩ (shows_start p t) (within_start p t)⟩
  have hwithin := (within_start p t).of_reaches hm
  refine ⟨hwithin, ?_, by rw [hwithin.rest?_eq, Option.isSome_some],
    fun n hturn => effort_lt hwithin hturn⟩
  exact Option.isSome_iff_exists.mpr (exists_turn p t m)

/-- A return from the end of the pattern takes both places back, and stays within. -/
theorem places_stay_within_return :
    let t := "abab".toList
    let p := "%ab".toList
    Reaches p t start ⟨1, 1, some (1, 1)⟩ ∧
      turn p t ⟨2, 3, some (1, 0)⟩ = some (.next ⟨1, 1, some (1, 1)⟩) ∧
      Within p t ⟨1, 1, some (1, 1)⟩ ∧
      effort p t ⟨2, 1, some (1, 2)⟩ < effort p t ⟨1, 1, some (1, 1)⟩ := by
  intro t p
  have hfree : turn p t start = some (.next ⟨0, 1, some (1, 0)⟩) := by rfl
  have hfirst : turn p t ⟨0, 1, some (1, 0)⟩ = some (.next ⟨1, 2, some (1, 0)⟩) := by rfl
  have hsecond : turn p t ⟨1, 2, some (1, 0)⟩ = some (.next ⟨2, 3, some (1, 0)⟩) := by rfl
  have hreturn : turn p t ⟨2, 3, some (1, 0)⟩ = some (.next ⟨1, 1, some (1, 1)⟩) := by rfl
  have hreaches : Reaches p t start ⟨1, 1, some (1, 1)⟩ :=
    .tail (.tail (.tail (.single hfree) hfirst) hsecond) hreturn
  obtain ⟨hall, -, -⟩ := places_stay_within "abab" "%ab"
  have ht : (Text.lower "abab").toList = t := by decide +kernel
  have hp : (Text.lower "%ab").toList = p := by decide +kernel
  rw [ht, hp] at hall
  obtain ⟨hwithin, -, -, hlt⟩ := hall _ hreaches
  exact ⟨hreaches, hreturn, hwithin, hlt ⟨2, 1, some (1, 2)⟩ (by rfl)⟩

end Places
end Pattern
end Tabular
