/-
# Parts of a list of tokens

The readers of a statement cut its tokens into parts: at keywords, at separators, at blanks.  This
file says what they do on a list that is put together from parts, so that a reader can be
followed from one part to the next.

* Blanks around a part do not matter (`skipBlanks_blanks`, `render_blanks`,
  `significant_blanks`).
* A part that closes what it opens and has none of the keywords looked for (`Shows`) is passed
  over as a whole (`splitAtKeywords_append_of_forall`, `splitTopLevel_append_of_forall`).
* Hence a clause is split off in front of its keyword (`splitClause_append`), and a list is parted
  at its separators.
-/
import Tabular.Proofs.Sql.ClauseOrder

namespace Tabular
namespace Sql

/-! ## 1. Blanks around a part -/

/-- Blanks in a row. -/
def blanks (n : Nat) : List Token := List.replicate n .blank

/-- The text that a run of blanks is rendered as. -/
def gapText (n : Nat) : String := if n = 0 then "" else " "

theorem isBlank_of_mem_blanks {n : Nat} : ∀ t ∈ blanks n, t.isBlank = true := by
  intro t ht
  rw [(List.mem_replicate.mp ht).2]
  rfl

@[simp]
theorem skipBlanks_blanks (n : Nat) (ts : List Token) :
    skipBlanks (blanks n ++ ts) = skipBlanks ts :=
  List.dropWhile_append_of_pos isBlank_of_mem_blanks

@[simp]
theorem skipBlanks_blanks_nil (n : Nat) : skipBlanks (blanks n) = [] := by
  simpa [skipBlanks] using skipBlanks_blanks n []

theorem skipBlanks_nil : skipBlanks [] = [] := rfl

theorem skipBlanks_cons {t : Token} (h : t.isBlank = false) (ts : List Token) :
    skipBlanks (t :: ts) = t :: ts := by
  simp [skipBlanks, h]

@[simp]
theorem significant_append (ts us : List Token) :
    significant (ts ++ us) = significant ts ++ significant us :=
  List.filter_append ..

@[simp]
theorem significant_blanks (n : Nat) : significant (blanks n) = [] := by
  rw [significant, List.filter_eq_nil_iff]
  intro t ht
  simp [isBlank_of_mem_blanks t ht]

theorem significant_cons {t : Token} (h : t.isBlank = false) (ts : List Token) :
    significant (t :: ts) = t :: significant ts := by
  simp [significant, h]

/-- A part without blanks at its ends. -/
structure Solid (ts : List Token) : Prop where
  head : ∀ t ∈ ts.head?, t.isBlank = false
  last : ∀ t ∈ ts.getLast?, t.isBlank = false

theorem Solid.skipBlanks_append {ts : List Token} (h : Solid ts) (hne : ts ≠ [])
    (rest : List Token) : skipBlanks (ts ++ rest) = ts ++ rest := by
  cases ts with
  | nil => exact absurd rfl hne
  | cons t ts => exact skipBlanks_cons (h.head t (by simp)) _

/-- Only the blanks around a part are trimmed. -/
theorem Solid.trimTokens {ts : List Token} (h : Solid ts) (m n : Nat) :
    trimTokens (blanks m ++ (ts ++ blanks n)) = ts := by
  have hreverse : (blanks n).reverse = blanks n := List.reverse_replicate ..
  cases hts : ts with
  | nil => simp [Sql.trimTokens, skipBlanks_nil]
  | cons t rest =>
    have hne : ts ≠ [] := by simp [hts]
    have hend : Solid ts.reverse := ⟨by simpa using h.last, by simpa using h.head⟩
    have hskip := hend.skipBlanks_append (by simpa using hne) []
    rw [List.append_nil] at hskip
    rw [← hts, Sql.trimTokens, skipBlanks_blanks, h.skipBlanks_append hne, List.reverse_append,
      hreverse, skipBlanks_blanks, hskip, List.reverse_reverse]

/-- **Blanks around a part are not rendered.** -/
theorem Solid.render_blanks {ts : List Token} (h : Solid ts) (m n : Nat) :
    render (blanks m ++ (ts ++ blanks n)) = String.join ((collapse ts).map Token.print) := by
  rw [render, h.trimTokens]

theorem collapse_cons {t : Token} (h : t.isBlank = false) (ts : List Token) :
    collapse (t :: ts) = t :: collapse ts := by
  simp [collapse, h]

/-- A run of blanks before a token is rendered as one space. -/
theorem join_collapse_blanks (n : Nat) {t : Token} (h : t.isBlank = false) (ts : List Token) :
    String.join ((collapse (blanks n ++ t :: ts)).map Token.print) =
      gapText n ++ (t.print ++ String.join ((collapse ts).map Token.print)) := by
  have hcons := collapse_cons h ts
  induction n with
  | zero => simp [blanks, gapText, hcons]
  | succ n ih =>
    have hnext : blanks (n + 1) ++ t :: ts = .blank :: (blanks n ++ t :: ts) := rfl
    have hblank : Token.blank.isBlank = true := rfl
    cases n with
    | zero =>
      have hstop : ¬(Token.blank.isBlank = true ∧ (t :: ts).head?.any Token.isBlank = true) := by
        simp [h]
      rw [hnext, collapse, if_neg (by simpa [blanks] using hstop)]
      simp [blanks, hcons, gapText, Token.print]
    | succ n =>
      rw [hnext, collapse, if_pos ⟨hblank, by simp [blanks, List.replicate_succ, hblank]⟩, ih]
      rfl

theorem collapse_append {ts : List Token} (h : ∀ t ∈ ts.getLast?, t.isBlank = false)
    (us : List Token) : collapse (ts ++ us) = collapse ts ++ collapse us := by
  induction ts with
  | nil => rfl
  | cons t ts ih =>
    cases ts with
    | nil =>
      have ht : t.isBlank = false := h t rfl
      simp [collapse, ht]
    | cons t' ts =>
      have hrest := ih (by simpa using h)
      have hstep : ∀ vs, collapse (t :: t' :: vs) =
          if t.isBlank ∧ t'.isBlank then collapse (t' :: vs) else t :: collapse (t' :: vs) :=
        fun _ => rfl
      simp only [List.cons_append] at hrest ⊢
      rw [hstep, hstep, hrest]
      split <;> rfl

/-- A part without blanks at its ends, and its text. -/
structure Prints (ts : List Token) (text : String) : Prop where
  solid : Solid ts
  ne_empty : text ≠ ""
  print : String.join ((collapse ts).map Token.print) = text

namespace Prints

variable {ts us : List Token} {text text' : String}

theorem ne_nil (h : Prints ts text) : ts ≠ [] := by
  rintro rfl
  exact h.ne_empty h.print.symm

theorem singleton {t : Token} (hblank : t.isBlank = false) (hne : t.print ≠ "") :
    Prints [t] t.print where
  solid := ⟨by simpa using hblank, by simpa using hblank⟩
  ne_empty := hne
  print := by simp [collapse, hblank]

/-- Two parts with blanks between them are one part. -/
theorem append (h : Prints ts text) (n : Nat) (h' : Prints us text') :
    Prints (ts ++ (blanks n ++ us)) (text ++ (gapText n ++ text')) where
  solid := by
    have hne := h.ne_nil
    have hne' := h'.ne_nil
    constructor
    · intro t ht
      rw [List.head?_append_of_ne_nil _ hne] at ht
      exact h.solid.head t ht
    · intro t ht
      rw [List.getLast?_append_of_ne_nil _ (by simp [hne']), List.getLast?_append_of_ne_nil _ hne']
        at ht
      exact h'.solid.last t ht
  ne_empty := by simp [h.ne_empty]
  print := by
    obtain ⟨u, us, rfl⟩ := List.exists_cons_of_ne_nil h'.ne_nil
    have hu : u.isBlank = false := h'.solid.head u rfl
    have hprint := h'.print
    rw [collapse_cons hu, List.map_cons, String.join_cons] at hprint
    rw [collapse_append h.solid.last, List.map_append, String.join_append, h.print,
      join_collapse_blanks n hu, hprint]

/-- **The text of a part** does not depend on the blanks around it. -/
theorem render_blanks (h : Prints ts text) (m n : Nat) :
    render (blanks m ++ (ts ++ blanks n)) = text := by
  rw [h.solid.render_blanks, h.print]

end Prints

/-! ## 2. Parts that are passed over -/

/-- The keywords of changes alone.  A reader of queries for rows looks for none of them. -/
def changeKeywords : List Keyword := [.INSERT, .INTO, .VALUES, .DELETE]

/-- What a part shows to a reader that looks for keywords: it closes what it opens, and its only
keywords are the given ones, and those of changes. -/
structure Shows (ks : List Keyword) (ts : List Token) : Prop where
  level : ∀ depth, ts.foldl depthAfter depth = depth
  keyword : ∀ t ∈ ts, ∀ k, t.keyword? = some k → k ∈ changeKeywords ++ ks

namespace Shows

variable {ks js : List Keyword} {ts us : List Token}

theorem nil : Shows ks [] := ⟨fun _ => rfl, by simp⟩

theorem blanks (n : Nat) : Shows ks (blanks n) where
  level depth := by
    induction n with
    | zero => rfl
    | succ n ih => exact ih
  keyword t ht k hk := by
    rw [(List.mem_replicate.mp ht).2] at hk
    simp [Token.keyword?] at hk

theorem append (h : Shows ks ts) (h' : Shows ks us) : Shows ks (ts ++ us) where
  level depth := by rw [List.foldl_append, h.level, h'.level]
  keyword t ht k hk := by
    rcases List.mem_append.mp ht with ht | ht
    · exact h.keyword t ht k hk
    · exact h'.keyword t ht k hk

theorem mono (h : Shows ks ts) (hsub : ks ⊆ js) : Shows js ts where
  level := h.level
  keyword t ht k hk :=
    List.mem_append.mpr ((List.mem_append.mp (h.keyword t ht k hk)).imp_right (@hsub k))

theorem concat (h : Shows ks ts) (h' : Shows js us) : Shows (ks ++ js) (ts ++ us) :=
  (h.mono (List.subset_append_left _ _)).append (h'.mono (List.subset_append_right _ _))

theorem flatMap {α : Type} {f : α → List Token} {l : List α} (h : ∀ x ∈ l, Shows ks (f x)) :
    Shows ks (l.flatMap f) := by
  induction l with
  | nil => exact nil
  | cons x l ih =>
    exact (h x List.mem_cons_self).append (ih fun y hy => h y (List.mem_cons_of_mem _ hy))

/-- A token that is neither a parenthesis nor another keyword. -/
theorem singleton {t : Token} (hlevel : ∀ depth, depthAfter depth t = depth)
    (hkeyword : ∀ k, t.keyword? = some k → k ∈ changeKeywords ++ ks) : Shows ks [t] where
  level depth := hlevel depth
  keyword s hs k hk := hkeyword k (by rw [← List.mem_singleton.mp hs]; exact hk)

theorem isKeyword_eq_false (h : Shows ks ts) {k : Keyword} (hk : k ∉ changeKeywords ++ ks) :
    ∀ t ∈ ts, t.isKeyword k = false := by
  intro t ht
  rw [Token.isKeyword, decide_eq_false_iff_not]
  exact fun he => hk (h.keyword t ht k he)

end Shows

variable {k : Keyword} {ks : List Keyword}

/-- A part without the keyword is passed over. -/
theorem splitAtKeywords_append_of_forall {pre : List Token} (h : ∀ t ∈ pre, t.isKeyword k = false)
    (depth : Nat) (rest : List Token) : splitAtKeywords k ks depth (pre ++ rest) =
      (splitAtKeywords k ks (pre.foldl depthAfter depth) rest).map fun p => (pre ++ p.1, p.2) := by
  induction pre generalizing depth with
  | nil => simp
  | cons t pre ih =>
    have ht := h t List.mem_cons_self
    rw [List.cons_append, splitAtKeywords, if_neg (by simp [ht]),
      ih fun s hs => h s (List.mem_cons_of_mem _ hs)]
    simp [Option.map_map, Function.comp_def]

theorem splitClause_append_of_forall {pre : List Token} (h : ∀ t ∈ pre, t.isKeyword k = false)
    (hlevel : pre.foldl depthAfter 0 = 0) (rest : List Token) : splitClause k ks (pre ++ rest) =
      (pre ++ (splitClause k ks rest).1, (splitClause k ks rest).2) := by
  rw [splitClause, splitClause, splitAtKeywords_append_of_forall h, hlevel]
  cases splitAtKeywords k ks 0 rest <;> rfl

theorem splitAtKeywords_eq_none {ts : List Token} (h : ∀ t ∈ ts, t.isKeyword k = false)
    (depth : Nat) : splitAtKeywords k ks depth ts = none := by
  rw [← List.append_nil ts, splitAtKeywords_append_of_forall h]
  rfl

/-- **A clause is split off** in front of its keyword. -/
theorem splitAtKeywords_of_isKeyword {js : List Keyword} {pre rest body : List Token} {u : Token}
    (hpre : Shows js pre) (hk : k ∉ changeKeywords ++ js) (hu : u.isKeyword k = true)
    (hmatch : matchKeywords ks rest = some body) :
    splitAtKeywords k ks 0 (pre ++ u :: rest) = some (pre, body) := by
  rw [splitAtKeywords_append_of_forall (hpre.isKeyword_eq_false hk), hpre.level, splitAtKeywords,
    if_pos ⟨depthAfter_of_isKeyword hu 0, hu⟩, hmatch]
  simp

theorem splitClause_append {js : List Keyword} {pre rest body : List Token} {u : Token}
    (hpre : Shows js pre) (hk : k ∉ changeKeywords ++ js) (hu : u.isKeyword k = true)
    (hmatch : matchKeywords ks rest = some body) :
    splitClause k ks (pre ++ u :: rest) = (pre, some body) := by
  rw [splitClause, splitAtKeywords_of_isKeyword hpre hk hu hmatch]

theorem splitClause_of_shows {js : List Keyword} {ts : List Token} (h : Shows js ts)
    (hk : k ∉ changeKeywords ++ js) : splitClause k ks ts = (ts, none) := by
  rw [splitClause, splitAtKeywords_eq_none (h.isKeyword_eq_false hk)]

/-- A part without separators belongs to the first part that is found. -/
theorem splitTopLevel_append_of_forall {isSeparator : Token → Bool} {pre : List Token}
    (h : ∀ t ∈ pre, isSeparator t = false) (depth : Nat) (rest : List Token) :
    splitTopLevel isSeparator depth (pre ++ rest) =
      (splitTopLevel isSeparator (pre.foldl depthAfter depth) rest).modifyHead (pre ++ ·) := by
  induction pre generalizing depth with
  | nil => cases hrest : splitTopLevel isSeparator depth rest <;> simp [hrest]
  | cons t pre ih =>
    have ht := h t List.mem_cons_self
    rw [List.cons_append, splitTopLevel, if_neg (by simp [ht]),
      ih fun s hs => h s (List.mem_cons_of_mem _ hs)]
    obtain ⟨part, parts, hparts⟩ := List.exists_cons_of_ne_nil
      (splitTopLevel_ne_nil isSeparator ((t :: pre).foldl depthAfter depth) rest)
    rw [List.foldl_cons] at hparts ⊢
    simp [hparts]

/-- A part that is closed and has no separators is one part. -/
theorem splitTopLevel_of_forall {isSeparator : Token → Bool} {ts : List Token}
    (h : ∀ t ∈ ts, isSeparator t = false) (depth : Nat) :
    splitTopLevel isSeparator depth ts = [ts] := by
  rw [← List.append_nil ts, splitTopLevel_append_of_forall h]
  simp [splitTopLevel]

/-- **A part ends at a separator** outside parentheses. -/
theorem splitTopLevel_cons_of_separator {isSeparator : Token → Bool} {pre : List Token}
    (hlevel : pre.foldl depthAfter 0 = 0) (h : ∀ t ∈ pre, isSeparator t = false) {s : Token}
    (hs : isSeparator s = true) (rest : List Token) :
    splitTopLevel isSeparator 0 (pre ++ s :: rest) = pre :: splitTopLevel isSeparator 0 rest := by
  rw [splitTopLevel_append_of_forall h, hlevel, splitTopLevel, if_pos ⟨rfl, hs⟩]
  simp

theorem splitFirst_append {p : Token → Bool} {pre : List Token} {u : Token}
    (hpre : ∀ t ∈ pre, p t = false) (hu : p u = true) (rest : List Token) :
    splitFirst p (pre ++ u :: rest) = some (pre, u, rest) := by
  induction pre with
  | nil => rw [List.nil_append, splitFirst, if_pos hu]
  | cons t pre ih =>
    have ht := hpre t List.mem_cons_self
    rw [List.cons_append, splitFirst, if_neg (by simp [ht]),
      ih fun s hs => hpre s (List.mem_cons_of_mem _ hs)]
    rfl

theorem splitFirst_eq_none {p : Token → Bool} {ts : List Token} (h : ∀ t ∈ ts, p t = false) :
    splitFirst p ts = none := by
  induction ts with
  | nil => rfl
  | cons t ts ih =>
    have ht := h t List.mem_cons_self
    rw [splitFirst, if_neg (by simp [ht]), ih fun s hs => h s (List.mem_cons_of_mem _ hs)]
    rfl

/-- No operator stands for a pattern match. -/
theorem comparison?_ne_like {t : Token} {comparison : Comparison}
    (h : comparison? t = some comparison) : comparison ≠ .like := by
  rintro rfl
  unfold comparison? at h
  split at h <;> simp at h

/-! ## 3. Reading from the front -/

theorem eatKeyword_cons {t : Token} (h : t.isKeyword k = true) (n : Nat) (rest : List Token) :
    eatKeyword k (blanks n ++ t :: rest) = some rest := by
  rw [eatKeyword, matchKeywords, skipBlanks_blanks,
    skipBlanks_cons (not_isBlank_of_isKeyword h)]
  simp [h, matchKeywords]

theorem eatKeyword_eq_none {t : Token} (hblank : t.isBlank = false)
    (h : t.isKeyword k = false) (n : Nat) (rest : List Token) :
    eatKeyword k (blanks n ++ t :: rest) = none := by
  rw [eatKeyword, matchKeywords, skipBlanks_blanks, skipBlanks_cons hblank]
  simp [h]

theorem eatKeyword_blanks (n : Nat) : eatKeyword k (blanks n) = none := by
  rw [eatKeyword, matchKeywords, skipBlanks_blanks_nil]

theorem expectKeyword_cons (clause : Clause) {t : Token} (h : t.isKeyword k = true) (n : Nat)
    (rest : List Token) : expectKeyword clause k (blanks n ++ t :: rest) = .ok rest := by
  rw [expectKeyword, eatKeyword_cons h]

theorem readName_cons (clause : Clause) (n : Nat) (text : String) (quotedBy : Option Char)
    (rest : List Token) : readName clause (blanks n ++ .word text quotedBy :: rest) =
      .ok (Text.lower text, rest) := by
  rw [readName, skipBlanks_blanks, skipBlanks_cons rfl]

theorem expectEnd_blanks (clause : Clause) (part : String) (n : Nat) :
    expectEnd clause part (blanks n) = .ok () := by
  rw [expectEnd, skipBlanks_blanks_nil, if_pos rfl]

end Sql
end Tabular
