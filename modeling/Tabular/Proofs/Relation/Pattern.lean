/-
# What a pattern matches

A pattern is meant to match a text if its `%` can be given runs of characters and its `_` single
characters so that the two become equal (`Matches`).  Matching finds such an arrangement without
trying them all: it remembers the last `%` only.  It misses the ones in which a `%` of the pattern
takes more, or less, than a `%` of the text that it meets, because it compares characters first.
What it finds are the arrangements without that (`Takes`).

* `covers_iff_takes`: matching finds exactly these, for every text and pattern;
* **`like_iff_takes`**: so it is right about all patterns for the texts without a `%`, about all
  texts for the patterns without a `%`, and about no others.

That one place to return to is enough is `Aligned.exists_takes`.  Since the last `%`, pattern and
text have been compared character by character.  An arrangement that starts later in the text
stays behind on every stretch that was compared: to catch up it would have to give a `%` no
character where the comparison gave it a `%`, and there it has no choice.
-/
import Tabular.Proofs.Text.Lowercase
import Tabular.Relation.Pattern
import Mathlib.Data.List.Forall2

namespace Tabular
namespace Pattern

/-! ## 1. Two meanings of a pattern -/

/-- The documented meaning of a pattern, given with the text: `%` stands for any run of
characters, `_` for any one character, and every other character for itself. -/
def Matches : List Char → List Char → Prop
  | [], text => text = []
  | p :: pattern, text =>
    if p = '%' then ∃ rest, rest <:+ text ∧ Matches pattern rest
    else ∃ c rest, text = c :: rest ∧ (p = '_' ∨ p = c) ∧ Matches pattern rest

/-- The same, but a `%` in front of a `%` of the text stands for this one character. -/
def Takes : List Char → List Char → Prop
  | [], text => text = []
  | p :: pattern, text =>
    if p = '%' ∧ text.head? ≠ some '%' then ∃ rest, rest <:+ text ∧ Takes pattern rest
    else ∃ c rest, text = c :: rest ∧ (p = '_' ∨ p = c) ∧ Takes pattern rest

variable {p c : Char} {pattern text : List Char}

theorem takes_cons_cons (h : p = '_' ∨ p = c) :
    Takes (p :: pattern) (c :: text) ↔ Takes pattern text := by
  have hfree : ¬(p = '%' ∧ (c :: text).head? ≠ some '%') := by
    rintro ⟨rfl, hhead⟩
    rcases h with h | rfl
    · exact absurd h (by decide)
    · exact hhead rfl
  rw [Takes, if_neg hfree]
  constructor
  · rintro ⟨c', rest, htext, -, hrest⟩
    obtain ⟨rfl, rfl⟩ := List.cons.inj htext
    exact hrest
  · exact fun hrest => ⟨c, text, rfl, h, hrest⟩

theorem takes_percent (h : text.head? ≠ some '%') :
    Takes ('%' :: pattern) text ↔ ∃ rest, rest <:+ text ∧ Takes pattern rest := by
  rw [Takes, if_pos ⟨rfl, h⟩]

theorem not_takes_cons_cons (h : ¬(p = '_' ∨ p = c)) (hp : p ≠ '%') :
    ¬Takes (p :: pattern) (c :: text) := by
  rw [Takes, if_neg fun hfree => hp hfree.1]
  rintro ⟨c', rest, htext, heq, -⟩
  obtain ⟨rfl, rfl⟩ := List.cons.inj htext
  exact h heq

/-- Whatever the first character of a pattern takes, the rest is left an end of the text. -/
theorem exists_takes_of_cons (h : Takes (p :: pattern) text) :
    ∃ rest, rest <:+ text ∧ Takes pattern rest := by
  rw [Takes] at h
  split at h
  · exact h
  · obtain ⟨c, rest, rfl, -, hrest⟩ := h
    exact ⟨rest, List.suffix_cons c rest, hrest⟩

theorem takes_nil_iff : Takes pattern [] ↔ pattern.all (· = '%') = true := by
  induction pattern with
  | nil => simp [Takes]
  | cons p pattern ih =>
    by_cases hp : p = '%'
    · subst hp
      rw [takes_percent (by simp)]
      simp [ih]
    · simp [Takes, hp]

/-! ## 2. Stretches that were compared character by character -/

/-- A stretch of a pattern and one of a text, equal but for the `_` of the pattern. -/
def Aligned (front front' : List Char) : Prop :=
  List.Forall₂ (fun p c => p = '_' ∨ p = c) front front'

namespace Aligned

variable {front front' : List Char}

theorem takes_iff (h : Aligned front front') :
    Takes (front ++ pattern) (front' ++ text) ↔ Takes pattern text := by
  induction h with
  | nil => rfl
  | cons hc _ ih => exact (takes_cons_cons hc).trans ih

/-- **An arrangement that starts later is behind at the end of the stretch**: what it leaves for
the rest of the pattern is an end of the rest of the text. -/
theorem exists_takes (h : Aligned front front') {start : List Char}
    (hstart : start <:+ front' ++ text) (htakes : Takes (front ++ pattern) start) :
    ∃ rest, rest <:+ text ∧ Takes pattern rest := by
  induction h generalizing start with
  | nil => exact ⟨start, hstart, htakes⟩
  | cons hc _ ih =>
    rcases List.suffix_cons_iff.mp hstart with rfl | hlater
    · -- in step with the comparison, where even a `%` takes the one character
      exact ih List.suffix_rfl ((takes_cons_cons hc).mp htakes)
    · obtain ⟨rest, hrest, htakes⟩ := exists_takes_of_cons htakes
      exact ih (hrest.trans hlater) htakes

theorem concat (h : Aligned front front') (hc : p = '_' ∨ p = c) :
    Aligned (front ++ [p]) (front' ++ [c]) :=
  List.rel_append h (.cons hc .nil)

end Aligned

/-! ## 3. What a match is heading for -/

namespace State

/-- The match has compared pattern and text character by character since the last `%`. -/
def Anchored (m : State) : Prop :=
  ∀ r ∈ m.resume, ∃ front front', Aligned front front' ∧
    r.1 = front ++ m.pattern ∧ r.2 = front' ++ m.text

/-- What the match is to find out: can the last `%` leave an end of the text that the pattern
behind it takes?  Without a `%` there is only one way to go on. -/
def Succeeds (m : State) : Prop :=
  match m.resume with
  | none => Takes m.pattern m.text
  | some r => ∃ rest, rest <:+ r.2 ∧ Takes r.1 rest

variable {m n : State}

/-- Going on as before is one way to succeed. -/
theorem Anchored.succeeds_of_takes (h : m.Anchored) (htakes : Takes m.pattern m.text) :
    m.Succeeds := by
  unfold Succeeds
  split
  · exact htakes
  · rename_i r hr
    obtain ⟨front, front', halign, hpattern, htext⟩ := h r hr
    refine ⟨r.2, List.suffix_rfl, ?_⟩
    rw [hpattern, htext]
    exact halign.takes_iff.mpr htakes

/-- All other ways come later in the text. -/
theorem Anchored.exists_takes_of_succeeds (h : m.Anchored) (hm : m.Succeeds) :
    ∃ rest, rest <:+ m.text ∧ Takes m.pattern rest := by
  unfold Succeeds at hm
  split at hm
  · exact ⟨m.text, List.suffix_rfl, hm⟩
  · rename_i r hr
    obtain ⟨front, front', halign, hpattern, htext⟩ := h r hr
    obtain ⟨start, hstart, htakes⟩ := hm
    exact halign.exists_takes (htext ▸ hstart) (hpattern ▸ htakes)

/-- Behind a new `%` the match is anchored again. -/
theorem anchored_here {pattern text : List Char} {behind} :
    Anchored ⟨text, pattern, some (pattern, text), behind⟩ := by
  intro r hr
  obtain rfl := Option.some.inj hr
  exact ⟨[], [], .nil, rfl, rfl⟩

/-- Where the match cannot go on, the last `%` has to take one character more. -/
theorem retry_spec (hm : m.Anchored) (htakes : ¬Takes m.pattern m.text)
    (h : retry m.resume = some n) : n.Anchored ∧ (n.Succeeds ↔ m.Succeeds) := by
  unfold retry at h
  split at h
  · rename_i pattern c text hr
    obtain rfl := Option.some.inj h
    refine ⟨anchored_here, ?_⟩
    have hfirst : ¬Takes pattern (c :: text) := by
      obtain ⟨front, front', halign, hpattern, htext⟩ := hm _ hr
      simp only at hpattern htext
      rw [hpattern, htext, halign.takes_iff]
      exact htakes
    simp only [Succeeds, hr]
    constructor
    · rintro ⟨rest, hrest, hrun⟩
      exact ⟨rest, hrest.trans (List.suffix_cons c text), hrun⟩
    · rintro ⟨rest, hrest, hrun⟩
      rcases List.suffix_cons_iff.mp hrest with rfl | hrest
      · exact absurd hrun hfirst
      · exact ⟨rest, hrest, hrun⟩
  · simp at h

/-- **A step keeps what the match is heading for.** -/
theorem step_spec (hm : m.Anchored) (h : m.step = some n) :
    n.Anchored ∧ (n.Succeeds ↔ m.Succeeds) := by
  unfold step at h
  split at h
  · rename_i c text p pattern resume behind
    split at h
    · -- the characters agree
      rename_i hc
      obtain rfl := Option.some.inj h
      refine ⟨?_, ?_⟩
      · intro r hr
        obtain ⟨front, front', halign, hpattern, htext⟩ := hm r hr
        exact ⟨front ++ [p], front' ++ [c], halign.concat hc, by simpa using hpattern,
          by simpa using htext⟩
      · cases resume with
        | none => exact (takes_cons_cons hc).symm
        | some r => rfl
    · rename_i hc
      split at h
      · -- a `%` in front of another character forgets the `%` before it
        rename_i hp
        subst hp
        obtain rfl := Option.some.inj h
        have hhead : (c :: text).head? ≠ some '%' := by
          simpa [eq_comm] using hc
        refine ⟨anchored_here, fun hn => ?_, fun hm' => ?_⟩
        · exact hm.succeeds_of_takes ((takes_percent hhead).mpr hn)
        · obtain ⟨start, hstart, htakes⟩ := hm.exists_takes_of_succeeds hm'
          obtain ⟨rest, hrest, htakes⟩ := exists_takes_of_cons htakes
          exact ⟨rest, hrest.trans hstart, htakes⟩
      · rename_i hp
        exact retry_spec hm (not_takes_cons_cons hc hp) h
  · exact retry_spec hm (by simp [Takes]) h
  · simp at h

/-- A match that cannot go on has found out. -/
theorem accepts_iff_succeeds (hm : m.Anchored) (h : m.step = none) :
    m.accepts = true ↔ m.Succeeds := by
  obtain ⟨text, pattern, resume, behind⟩ := m
  cases text with
  | nil =>
    have hall : State.accepts ⟨[], pattern, resume, behind⟩ = pattern.all (· = '%') := rfl
    rw [hall, ← takes_nil_iff]
    refine ⟨hm.succeeds_of_takes, fun hm' => ?_⟩
    obtain ⟨rest, hrest, htakes⟩ := hm.exists_takes_of_succeeds hm'
    rwa [List.suffix_nil.mp hrest] at htakes
  | cons c text =>
    -- the last `%` would have text left to take
    have hretry : retry resume = none → resume = none := by
      intro hretry
      cases resume with
      | none => rfl
      | some r =>
        obtain ⟨front, front', -, -, htext⟩ := hm r rfl
        obtain ⟨r₁, r₂⟩ := r
        simp only at htext
        cases front' <;> simp [htext, retry] at hretry
    have hstuck : resume = none ∧ ¬Takes pattern (c :: text) := by
      cases pattern with
      | nil => exact ⟨hretry h, by simp [Takes]⟩
      | cons p pattern =>
        rw [step] at h
        split_ifs at h with hc hp
        exact ⟨hretry h, not_takes_cons_cons hc hp⟩
    obtain ⟨rfl, htakes⟩ := hstuck
    simp [accepts, Succeeds, htakes]

end State

/-! ## 4. Whole matches -/

theorem run_of_step {m n : State} (h : m.step = some n) : run m = run n := by
  rw [run]
  split
  · rename_i n' h'
    rw [Option.some.inj (h.symm.trans h')]
  · rename_i h'
    simp [h] at h'

theorem run_of_step_eq_none {m : State} (h : m.step = none) : run m = m.accepts := by
  rw [run]
  split
  · rename_i n' h'
    simp [h] at h'
  · rfl

theorem run_iff_succeeds {m : State} (hm : m.Anchored) : run m = true ↔ m.Succeeds := by
  induction m using run.induct with
  | case1 m n h ih =>
    obtain ⟨hn, hiff⟩ := State.step_spec hm h
    rw [run_of_step h, ih hn, hiff]
  | case2 m h => rw [run_of_step_eq_none h, State.accepts_iff_succeeds hm h]

/-- **Matching finds exactly what a pattern takes.** -/
theorem covers_iff_takes (pattern text : List Char) :
    covers pattern text = true ↔ Takes pattern text :=
  run_iff_succeeds fun _ hr => by simp at hr

/-! ## 5. Where both meanings are the same -/

theorem Aligned.matches {front front' : List Char} (h : Aligned front front')
    (hm : Matches pattern text) : Matches (front ++ pattern) (front' ++ text) := by
  induction h with
  | nil => exact hm
  | @cons p c front front' hc _ ih =>
    rw [List.cons_append, List.cons_append, Matches]
    split
    · exact ⟨front' ++ text, List.suffix_cons c _, ih⟩
    · exact ⟨c, front' ++ text, rfl, hc, ih⟩

/-- What a pattern takes it matches: one character is a run too. -/
theorem matches_of_takes (h : Takes pattern text) : Matches pattern text := by
  induction pattern generalizing text with
  | nil => exact h
  | cons p pattern ih =>
    rw [Takes] at h
    rw [Matches]
    split at h
    · rename_i hp
      obtain ⟨rest, hrest, htakes⟩ := h
      rw [if_pos hp.1]
      exact ⟨rest, hrest, ih htakes⟩
    · obtain ⟨c, rest, rfl, hc, htakes⟩ := h
      split
      · exact ⟨rest, List.suffix_cons c rest, ih htakes⟩
      · exact ⟨c, rest, rfl, hc, ih htakes⟩

/-- In a text without `%` every `%` of the pattern is free. -/
theorem takes_of_matches (htext : '%' ∉ text) (h : Matches pattern text) : Takes pattern text := by
  induction pattern generalizing text with
  | nil => exact h
  | cons p pattern ih =>
    rw [Matches] at h
    split at h
    · rename_i hp
      subst hp
      obtain ⟨rest, hrest, hm⟩ := h
      rw [takes_percent fun hhead => htext (List.mem_of_head? hhead)]
      exact ⟨rest, hrest, ih (fun hmem => htext (hrest.subset hmem)) hm⟩
    · obtain ⟨c, rest, rfl, hc, hm⟩ := h
      exact (takes_cons_cons hc).mpr (ih (fun hmem => htext (List.mem_cons_of_mem c hmem)) hm)

/-- A pattern without `%` has one way to match. -/
theorem takes_of_matches_of_notMem (hpattern : '%' ∉ pattern) (h : Matches pattern text) :
    Takes pattern text := by
  induction pattern generalizing text with
  | nil => exact h
  | cons p pattern ih =>
    obtain ⟨hp, hrest⟩ := not_or.mp (List.mem_cons.not.mp hpattern)
    rw [Matches, if_neg (Ne.symm hp)] at h
    obtain ⟨c, rest, rfl, hc, hm⟩ := h
    exact (takes_cons_cons hc).mpr (ih hrest hm)

theorem length_eq_of_takes (hpattern : '%' ∉ pattern) (h : Takes pattern text) :
    pattern.length = text.length := by
  induction pattern generalizing text with
  | nil => simp [show text = [] from h]
  | cons p pattern ih =>
    obtain ⟨hp, hrest⟩ := not_or.mp (List.mem_cons.not.mp hpattern)
    rw [Takes, if_neg fun hfree => hp hfree.1.symm] at h
    obtain ⟨c, rest, rfl, -, htakes⟩ := h
    simp [ih hrest htakes]

/-! ## 6. Where they differ -/

theorem aligned_underscores (cs : List Char) : Aligned (List.replicate cs.length '_') cs := by
  induction cs with
  | nil => exact .nil
  | cons c cs ih => exact .cons (Or.inl rfl) ih

theorem aligned_self (cs : List Char) : Aligned cs cs := List.forall₂_same.mpr fun _ _ => Or.inr rfl

/-- A `%` in a text is missed by a pattern of `_`, one for every character, with a `%` in front of
the `_` for this one. -/
theorem exists_missed_pattern (h : '%' ∈ text) : ∃ pattern, (∀ c ∈ pattern, c = '_' ∨ c = '%') ∧
    Matches pattern text ∧ ¬Takes pattern text := by
  obtain ⟨front, rest, rfl⟩ := List.append_of_mem h
  have hfront := aligned_underscores front
  have hunderscores : ∀ cs : List Char, ∀ c ∈ List.replicate cs.length '_', c = '_' :=
    fun cs c hc => List.eq_of_mem_replicate hc
  refine ⟨List.replicate front.length '_' ++ '%' :: List.replicate ('%' :: rest).length '_',
    ?_, ?_, ?_⟩
  · intro c hc
    rcases List.mem_append.mp hc with hc | hc
    · exact Or.inl (hunderscores _ c hc)
    · rcases List.mem_cons.mp hc with hc | hc
      · exact Or.inr hc
      · exact Or.inl (hunderscores _ c hc)
  · refine hfront.matches ?_
    rw [Matches, if_pos rfl]
    refine ⟨'%' :: rest, List.suffix_rfl, ?_⟩
    simpa using (aligned_underscores ('%' :: rest)).matches (show Matches [] [] from rfl)
  · rw [hfront.takes_iff, takes_cons_cons (Or.inr rfl)]
    intro htakes
    have hlength := length_eq_of_takes (fun hmem => absurd (hunderscores _ _ hmem) (by decide))
      htakes
    simp at hlength

/-- A pattern with a `%` misses the text that is the pattern itself with its last `%` doubled. -/
theorem exists_missed_text (h : '%' ∈ pattern) : ∃ text, (∀ c ∈ text, c ∈ pattern) ∧
    Matches pattern text ∧ ¬Takes pattern text := by
  obtain ⟨rest, front, hsplit, hlast⟩ :=
    List.eq_append_cons_of_mem (List.mem_reverse.mpr h)
  obtain rfl : pattern = front.reverse ++ '%' :: rest.reverse := by
    rw [← List.reverse_reverse pattern, hsplit]
    simp
  have hfront := aligned_self front.reverse
  refine ⟨front.reverse ++ '%' :: '%' :: rest.reverse, by simp, ?_, ?_⟩
  · refine hfront.matches ?_
    rw [Matches, if_pos rfl]
    refine ⟨rest.reverse, (List.suffix_cons '%' _).trans (List.suffix_cons '%' _), ?_⟩
    simpa using (aligned_self rest.reverse).matches (show Matches [] [] from rfl)
  · rw [hfront.takes_iff, takes_cons_cons (Or.inr rfl)]
    intro htakes
    have hlength := length_eq_of_takes (by simpa using hlast) htakes
    simp at hlength

/-! ## 7. Letter case -/

theorem like_iff (text pattern : String) : like text pattern = true ↔
    Takes (Text.lower pattern).toList (Text.lower text).toList := covers_iff_takes _ _

/-- **Matching is right** about all patterns exactly for the texts without a `%`, and about all
texts exactly for the patterns without a `%`.  In every case it finds what the pattern takes, and
nothing that the pattern does not match. -/
theorem like_iff_takes (text pattern : String) :
    (like text pattern = true ↔
      Takes (Text.lower pattern).toList (Text.lower text).toList) ∧
    (Takes (Text.lower pattern).toList (Text.lower text).toList →
      Matches (Text.lower pattern).toList (Text.lower text).toList) ∧
    ((∀ pattern', like text pattern' = true ↔
      Matches (Text.lower pattern').toList (Text.lower text).toList) ↔
        '%' ∉ (Text.lower text).toList) ∧
    ((∀ text', like text' pattern = true ↔
      Matches (Text.lower pattern).toList (Text.lower text').toList) ↔
        '%' ∉ (Text.lower pattern).toList) := by
  refine ⟨like_iff text pattern, matches_of_takes, ⟨fun h hmem => ?_, fun h pattern' => ?_⟩,
    ⟨fun h hmem => ?_, fun h text' => ?_⟩⟩
  · obtain ⟨missed, hsigns, hmatches, htakes⟩ := exists_missed_pattern hmem
    have hlower : (Text.lower (String.ofList missed)).toList = missed := by
      refine Text.toList_lower_of_settled fun c hc => ?_
      rcases hsigns c hc with rfl | rfl
      · exact Text.settled_ascii (c := '_') (by decide)
      · exact Text.settled_ascii (c := '%') (by decide)
    have hmissed := h (String.ofList missed)
    rw [like_iff, hlower] at hmissed
    exact htakes (hmissed.mpr hmatches)
  · rw [like_iff]
    exact ⟨matches_of_takes, takes_of_matches h⟩
  · obtain ⟨missed, hsubset, hmatches, htakes⟩ := exists_missed_text hmem
    have hlower : (Text.lower (String.ofList missed)).toList = missed :=
      Text.toList_lower_of_settled fun c hc => Text.settled_of_mem_lower c (hsubset c hc)
    have hmissed := h (String.ofList missed)
    rw [like_iff, hlower] at hmissed
    exact htakes (hmissed.mpr hmatches)
  · rw [like_iff]
    exact ⟨matches_of_takes, takes_of_matches_of_notMem h⟩

/-- The pattern `%` does not match the text `%a`. -/
theorem like_misses_percent : like "%a" "%" = false ∧
    Matches (Text.lower "%").toList (Text.lower "%a").toList := by
  have hpattern : (Text.lower "%").toList = ['%'] := by decide +kernel
  have htext : (Text.lower "%a").toList = ['%', 'a'] := by decide +kernel
  rw [← Bool.not_eq_true, like_iff, hpattern, htext]
  refine ⟨?_, ?_⟩
  · rw [takes_cons_cons (Or.inr rfl)]
    simp [Takes]
  · rw [Matches, if_pos rfl]
    exact ⟨[], List.nil_suffix, rfl⟩

end Pattern
end Tabular
