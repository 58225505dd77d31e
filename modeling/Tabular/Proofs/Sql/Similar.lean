/-
# Lists of tokens that differ in literals only

Two lists of tokens are similar if they differ in nothing but the texts of strings between single
quotes.  This file follows the relation through the functions that cut a list of tokens and read
it from the front.  No such function looks into a string, so it cuts similar lists at the same
places (`Similar.splitAtKeywords`, `Similar.splitTopLevel`, `Similar.splitFirst`).

What two readers return is compared by `Agree`: both fail with the same kind of error, or both
return values that are related.  Texts are compared by `Twins`: they are made in the same way from
similar lists.
-/
import Tabular.Sql.Statement
import Mathlib.Data.List.Forall2

namespace Tabular

/-! ## 1. Similar tokens -/

/-- Two tokens that are equal, or both strings between single quotes. -/
inductive Token.Similar : Token → Token → Prop
  | same (t : Token) : Similar t t
  | string (s s' : String) : Similar (.string s) (.string s')

namespace Token.Similar

variable {t t' : Token}

theorem isBlank_eq (h : Similar t t') : t.isBlank = t'.isBlank := by cases h <;> rfl

theorem keyword?_eq (h : Similar t t') : t.keyword? = t'.keyword? := by cases h <;> rfl

theorem isKeyword_eq (h : Similar t t') (k : Keyword) : t.isKeyword k = t'.isKeyword k := by
  rw [isKeyword, isKeyword, h.keyword?_eq]

/-- A string is different from every other kind of token. -/
theorem eq_iff (h : Similar t t') {u : Token} (hu : ∀ s, u ≠ .string s) : t = u ↔ t' = u := by
  cases h with
  | same t => rfl
  | string s s' => exact ⟨fun he => absurd he.symm (hu s), fun he => absurd he.symm (hu s')⟩

/-- A string is printed with its quotes, and so it has a text. -/
theorem print_eq_empty_iff (h : Similar t t') : t.print = "" ↔ t'.print = "" := by
  cases h with
  | same t => rfl
  | string s s' => simp [print]

end Token.Similar

theorem rel_map_option {α β γ δ : Type} {R : α → β → Prop} {S : γ → δ → Prop} {f : α → γ}
    {g : β → δ} {o : Option α} {o' : Option β} (h : Option.Rel R o o')
    (hfg : ∀ a b, R a b → S (f a) (g b)) : Option.Rel S (o.map f) (o'.map g) := by
  cases h with
  | none => exact .none
  | some h => exact .some (hfg _ _ h)

namespace Sql

/-- Lists that differ in nothing but the texts of strings. -/
def Similar (ts ts' : List Token) : Prop := List.Forall₂ Token.Similar ts ts'

theorem depthAfter_of_similar {t t' : Token} (h : Token.Similar t t') (depth : Nat) :
    depthAfter depth t = depthAfter depth t' := by cases h <;> rfl

theorem isComma_eq (t t' : Token) (h : Token.Similar t t') : isComma t = isComma t' := by
  rw [isComma, isComma]
  exact decide_eq_decide.mpr (h.eq_iff (by simp))

namespace Similar

variable {ts ts' us us' : List Token}

theorem refl (ts : List Token) : Similar ts ts :=
  List.forall₂_same.mpr fun t _ => .same t

theorem append (h : Similar ts ts') (h' : Similar us us') : Similar (ts ++ us) (ts' ++ us') :=
  List.rel_append h h'

theorem reverse (h : Similar ts ts') : Similar ts.reverse ts'.reverse :=
  List.forall₂_reverse_iff.mpr h

theorem mem_iff (h : Similar ts ts') {u : Token} (hu : ∀ s, u ≠ .string s) :
    u ∈ ts ↔ u ∈ ts' := by
  induction h with
  | nil => rfl
  | cons ht _ ih => rw [List.mem_cons, List.mem_cons, eq_comm, ht.eq_iff hu, ih, eq_comm]

/-- Without a string, similar lists are equal. -/
theorem eq_or_string (h : Similar ts ts') :
    ts = ts' ∨ (∃ s, .string s ∈ ts) ∧ ∃ s, .string s ∈ ts' := by
  induction h with
  | nil => exact Or.inl rfl
  | cons ht _ ih =>
    cases ht with
    | string s s' => exact Or.inr ⟨⟨s, List.mem_cons_self⟩, ⟨s', List.mem_cons_self⟩⟩
    | same t =>
      rcases ih with rfl | ⟨⟨s, hs⟩, ⟨s', hs'⟩⟩
      · exact Or.inl rfl
      · exact Or.inr ⟨⟨s, List.mem_cons_of_mem _ hs⟩, ⟨s', List.mem_cons_of_mem _ hs'⟩⟩

/-! ## 2. Cutting similar lists -/

theorem skipBlanks (h : Similar ts ts') : Similar (Sql.skipBlanks ts) (Sql.skipBlanks ts') := by
  induction h with
  | nil => exact .nil
  | @cons t t' ts ts' ht hrest ih =>
    unfold Sql.skipBlanks at ih ⊢
    rw [List.dropWhile_cons, List.dropWhile_cons, ht.isBlank_eq]
    split
    · exact ih
    · exact .cons ht hrest

theorem takeWhile_ne (h : Similar ts ts') {u : Token} (hu : ∀ s, u ≠ .string s) :
    Similar (ts.takeWhile fun t => decide (t ≠ u)) (ts'.takeWhile fun t => decide (t ≠ u)) := by
  induction h with
  | nil => exact .nil
  | @cons t t' ts ts' ht hrest ih =>
    have hne : decide (t ≠ u) = decide (t' ≠ u) := decide_eq_decide.mpr (not_congr (ht.eq_iff hu))
    rw [List.takeWhile_cons, List.takeWhile_cons, hne]
    split
    · exact .cons ht ih
    · exact .nil

theorem trimTokens (h : Similar ts ts') : Similar (Sql.trimTokens ts) (Sql.trimTokens ts') :=
  h.skipBlanks.reverse.skipBlanks.reverse

theorem significant (h : Similar ts ts') : Similar (Sql.significant ts) (Sql.significant ts') :=
  List.rel_filter (fun _ _ ht => by simp only [ht.isBlank_eq]) h

theorem any_isBlank_head? (h : Similar ts ts') :
    ts.head?.any Token.isBlank = ts'.head?.any Token.isBlank := by
  cases h with
  | nil => rfl
  | cons ht _ => simpa using ht.isBlank_eq

theorem collapse (h : Similar ts ts') : Similar (Sql.collapse ts) (Sql.collapse ts') := by
  induction h with
  | nil => exact .nil
  | @cons t t' ts ts' ht hrest ih =>
    rw [Sql.collapse, Sql.collapse, ht.isBlank_eq, any_isBlank_head? hrest]
    split
    · exact ih
    · exact .cons ht ih

theorem matchKeywords (ks : List Keyword) (h : Similar ts ts') :
    Option.Rel Similar (Sql.matchKeywords ks ts) (Sql.matchKeywords ks ts') := by
  induction ks generalizing ts ts' with
  | nil => exact .some h
  | cons k ks ih =>
    have hskip := h.skipBlanks
    rw [Sql.matchKeywords, Sql.matchKeywords]
    generalize Sql.skipBlanks ts = us at hskip
    generalize Sql.skipBlanks ts' = us' at hskip
    cases hskip with
    | nil => exact .none
    | cons ht hrest =>
      simp only [ht.isKeyword_eq k]
      split
      · exact ih hrest
      · exact .none

/-- Two pairs of similar lists. -/
def Parts (p p' : List Token × List Token) : Prop := Similar p.1 p'.1 ∧ Similar p.2 p'.2

theorem splitAtKeywords (k : Keyword) (ks : List Keyword) (depth : Nat) (h : Similar ts ts') :
    Option.Rel Parts (Sql.splitAtKeywords k ks depth ts) (Sql.splitAtKeywords k ks depth ts') := by
  induction h generalizing depth with
  | nil => exact .none
  | @cons t t' ts ts' ht hrest ih =>
    have hmatch := matchKeywords ks hrest
    have hnext := ih (depthAfter depth t)
    rw [Sql.splitAtKeywords, Sql.splitAtKeywords, ← depthAfter_of_similar ht, ht.isKeyword_eq k]
    have hbody : Option.Rel Similar
        (if depthAfter depth t = 0 ∧ t'.isKeyword k then Sql.matchKeywords ks ts else none)
        (if depthAfter depth t = 0 ∧ t'.isKeyword k then Sql.matchKeywords ks ts' else none) := by
      split
      · exact hmatch
      · exact .none
    revert hbody
    generalize (if depthAfter depth t = 0 ∧ t'.isKeyword k then Sql.matchKeywords ks ts else none) =
      body
    generalize (if depthAfter depth t = 0 ∧ t'.isKeyword k then Sql.matchKeywords ks ts' else none) =
      body'
    intro hbody
    cases hbody with
    | some hbody => exact .some ⟨.nil, hbody⟩
    | none => exact rel_map_option hnext fun _ _ hp => ⟨.cons ht hp.1, hp.2⟩

theorem splitClause (k : Keyword) (ks : List Keyword) (h : Similar ts ts') :
    Similar (Sql.splitClause k ks ts).1 (Sql.splitClause k ks ts').1 ∧
      Option.Rel Similar (Sql.splitClause k ks ts).2 (Sql.splitClause k ks ts').2 := by
  have hsplit := splitAtKeywords k ks 0 h
  rw [Sql.splitClause, Sql.splitClause]
  generalize Sql.splitAtKeywords k ks 0 ts = parts at hsplit
  generalize Sql.splitAtKeywords k ks 0 ts' = parts' at hsplit
  cases hsplit with
  | none => exact ⟨h, .none⟩
  | some hp => exact ⟨hp.1, .some hp.2⟩

theorem splitTopLevel {isSeparator : Token → Bool}
    (hsep : ∀ t t', Token.Similar t t' → isSeparator t = isSeparator t') (depth : Nat)
    (h : Similar ts ts') : List.Forall₂ Similar (Sql.splitTopLevel isSeparator depth ts)
      (Sql.splitTopLevel isSeparator depth ts') := by
  induction h generalizing depth with
  | nil => exact .cons .nil .nil
  | @cons t t' ts ts' ht hrest ih =>
    have hnext := ih (depthAfter depth t)
    rw [Sql.splitTopLevel, Sql.splitTopLevel, ← depthAfter_of_similar ht, hsep t t' ht]
    split
    · exact .cons .nil (ih depth)
    · generalize Sql.splitTopLevel isSeparator (depthAfter depth t) ts = parts at hnext
      generalize Sql.splitTopLevel isSeparator (depthAfter depth t) ts' = parts' at hnext
      cases hnext with
      | nil => exact .cons (.cons ht .nil) .nil
      | cons hpart hparts => exact .cons (.cons ht hpart) hparts

/-- The token that is looked for is of its kind in both lists. -/
theorem splitFirst {p : Token → Bool} (hp : ∀ t t', Token.Similar t t' → p t = p t')
    (h : Similar ts ts') : Option.Rel (fun s s' => Similar s.1 s'.1 ∧
      (Token.Similar s.2.1 s'.2.1 ∧ p s.2.1 = true) ∧ Similar s.2.2 s'.2.2)
        (Sql.splitFirst p ts) (Sql.splitFirst p ts') := by
  induction h with
  | nil => exact .none
  | cons ht hrest ih =>
    rw [Sql.splitFirst, Sql.splitFirst, hp _ _ ht]
    split
    · rename_i hfound
      exact .some ⟨.nil, ⟨ht, (hp _ _ ht).trans hfound⟩, hrest⟩
    · exact rel_map_option ih fun _ _ hs => ⟨.cons ht hs.1, hs.2⟩

theorem splitAtClosing (depth : Nat) (h : Similar ts ts') :
    Option.Rel Parts (Sql.splitAtClosing depth ts) (Sql.splitAtClosing depth ts') := by
  induction h generalizing depth with
  | nil => exact .none
  | @cons t t' ts ts' ht hrest ih =>
    have hclosing : (t = .symbol .rightParen) = (t' = .symbol .rightParen) :=
      propext (ht.eq_iff (by simp))
    rw [Sql.splitAtClosing, Sql.splitAtClosing, ← depthAfter_of_similar ht]
    simp only [hclosing]
    split
    · exact .some ⟨.nil, hrest⟩
    · exact rel_map_option (ih _) fun _ _ hp => ⟨.cons ht hp.1, hp.2⟩

/-! ## 3. Texts of similar lists -/

theorem join_eq_empty_iff (h : Similar ts ts') :
    String.join (ts.map Token.print) = "" ↔ String.join (ts'.map Token.print) = "" := by
  induction h with
  | nil => rfl
  | cons ht _ ih =>
    rw [List.map_cons, List.map_cons, String.join_cons, String.join_cons, String.append_eq_empty_iff,
      String.append_eq_empty_iff, ht.print_eq_empty_iff, ih]

/-- Similar lists have both a text or both none. -/
theorem render_eq_empty_iff (h : Similar ts ts') : render ts = "" ↔ render ts' = "" :=
  h.trimTokens.collapse.join_eq_empty_iff

end Similar

/-- Two texts that are made in the same way from similar lists. -/
def Twins (make : String → String) (s s' : String) : Prop :=
  ∃ ts ts', Similar ts ts' ∧ s = make (render ts) ∧ s' = make (render ts')

/-! ## 4. Results that agree -/

/-- Errors that differ at most in the text that a statement has behind its end. -/
inductive SameFault : QueryError → QueryError → Prop
  | refl (e : QueryError) : SameFault e e
  | trailing (clause : Clause) (part : String) {text text' : String} (h : Twins id text text') :
    SameFault (.malformed clause (.trailing part text)) (.malformed clause (.trailing part text'))
  | invalidSelect {e e' : QueryError} (h : SameFault e e') :
    SameFault (.invalidSelect e) (.invalidSelect e')

/-- Both results are errors of one kind, or both are values that are related. -/
inductive Agree {α : Type} (R : α → α → Prop) : Except QueryError α → Except QueryError α → Prop
  | ok {a a' : α} (h : R a a') : Agree R (.ok a) (.ok a')
  | error {e e' : QueryError} (h : SameFault e e') : Agree R (.error e) (.error e')

theorem SameFault.clause?_eq {e e' : QueryError} (h : SameFault e e') : e.clause? = e'.clause? := by
  induction h with
  | refl e => rfl
  | trailing clause part h => rfl
  | invalidSelect h ih => exact ih

namespace Agree

variable {α β : Type} {R : α → α → Prop} {S : β → β → Prop}

theorem fail (e : QueryError) : Agree R (.error e) (.error e) := .error (.refl e)

theorem of_eq {x x' : Except QueryError α} (h : x = x') : Agree Eq x x' := by
  subst h
  cases x with
  | error e => exact fail e
  | ok a => exact .ok rfl

theorem bind {x x' : Except QueryError α} {f f' : α → Except QueryError β} (h : Agree R x x')
    (hf : ∀ a a', R a a' → Agree S (f a) (f' a')) : Agree S (x >>= f) (x' >>= f') := by
  cases h with
  | ok h => exact hf _ _ h
  | error h => exact .error h

theorem map {x x' : Except QueryError α} {f : α → β} (h : Agree R x x')
    (hf : ∀ a a', R a a' → S (f a) (f a')) : Agree S (x.map f) (x'.map f) := by
  cases h with
  | ok h => exact .ok (hf _ _ h)
  | error h => exact .error h

/-- Lists of entries are read alike if each two entries are. -/
theorem mapM {γ : Type} {Q : γ → γ → Prop} {read : γ → Except QueryError α} {xs xs' : List γ}
    (h : List.Forall₂ Q xs xs') (hread : ∀ x x', Q x x' → Agree R (read x) (read x')) :
    Agree (List.Forall₂ R) (xs.mapM read) (xs'.mapM read) := by
  induction h with
  | nil => exact .ok .nil
  | cons hx _ ih =>
    rw [List.mapM_cons, List.mapM_cons]
    exact (hread _ _ hx).bind fun a a' ha => ih.bind fun as as' has => .ok (.cons ha has)

end Agree

/-! ## 5. Reading from the front -/

/-- A name, and similar rests. -/
def NameAndRest (p p' : String × List Token) : Prop := p.1 = p'.1 ∧ Similar p.2 p'.2

section

variable {ts ts' : List Token}

theorem agree_expectKeyword (clause : Clause) (k : Keyword) (h : Similar ts ts') :
    Agree Similar (expectKeyword clause k ts) (expectKeyword clause k ts') := by
  have heat := h.matchKeywords [k]
  rw [expectKeyword, expectKeyword, eatKeyword, eatKeyword]
  generalize matchKeywords [k] ts = o at heat
  generalize matchKeywords [k] ts' = o' at heat
  cases heat with
  | none => exact .fail _
  | some hrest => exact .ok hrest

theorem agree_readName (clause : Clause) (h : Similar ts ts') :
    Agree NameAndRest (readName clause ts) (readName clause ts') := by
  have hskip := h.skipBlanks
  rw [readName, readName]
  generalize skipBlanks ts = us at hskip
  generalize skipBlanks ts' = us' at hskip
  cases hskip with
  | nil => exact .fail _
  | @cons t t' rest rest' ht hrest =>
    cases ht with
    | string s s' => exact .fail _
    | same =>
      cases t with
      | word text quotedBy => exact .ok ⟨rfl, hrest⟩
      | _ => exact .fail _

theorem agree_readReference (clause : Clause) (h : Similar ts ts') :
    Agree NameAndRest (readReference clause ts) (readReference clause ts') := by
  have hname := agree_readName clause h
  rw [readReference, readReference]
  generalize readName clause ts = x at hname
  generalize readName clause ts' = x' at hname
  cases hname with
  | error he => exact .error he
  | @ok p p' hp =>
    obtain ⟨name, rest⟩ := p
    obtain ⟨name', rest'⟩ := p'
    obtain ⟨hname, hrest⟩ := hp
    obtain rfl : name = name' := hname
    cases hrest with
    | nil => exact .ok ⟨rfl, .nil⟩
    | @cons t t' rest rest' ht hrest =>
      cases ht with
      | string s s' => exact .ok ⟨rfl, .cons (.string s s') hrest⟩
      | same =>
        have hsame : Agree NameAndRest (.ok (name, t :: rest)) (.ok (name, t :: rest')) :=
          .ok ⟨rfl, .cons (.same t) hrest⟩
        cases t with
        | symbol s =>
          cases s with
          | period =>
            have hcolumn := agree_readName clause hrest
            simp only []
            generalize readName clause rest = y at hcolumn
            generalize readName clause rest' = y' at hcolumn
            cases hcolumn with
            | error he => exact .error he
            | ok hq => exact .ok ⟨by rw [hq.1], hq.2⟩
          | _ => exact hsame
        | _ => exact hsame

theorem agree_readParenthesized (clause : Clause) (h : Similar ts ts') :
    Agree Similar.Parts (readParenthesized clause ts) (readParenthesized clause ts') := by
  have hskip := h.skipBlanks
  rw [readParenthesized, readParenthesized]
  generalize skipBlanks ts = us at hskip
  generalize skipBlanks ts' = us' at hskip
  cases hskip with
  | nil => exact .fail _
  | @cons t t' rest rest' ht hrest =>
    have hclosing := Similar.splitAtClosing 0 hrest
    cases ht with
    | string s s' => exact .fail _
    | same =>
      cases t with
      | symbol s =>
        cases s with
        | leftParen =>
          simp only []
          generalize splitAtClosing 0 rest = parts at hclosing
          generalize splitAtClosing 0 rest' = parts' at hclosing
          cases hclosing with
          | none => exact .fail _
          | some hparts => exact .ok hparts
        | _ => exact .fail _
      | _ => exact .fail _

theorem agree_expectEnd (clause : Clause) (part : String) (h : Similar ts ts') :
    Agree (fun _ _ => True) (expectEnd clause part ts) (expectEnd clause part ts') := by
  have hskip := h.skipBlanks
  rw [expectEnd, expectEnd]
  generalize skipBlanks ts = us at hskip
  generalize skipBlanks ts' = us' at hskip
  cases hskip with
  | nil => exact .ok trivial
  | cons ht hrest => exact .error (.trailing clause part ⟨ts, ts', h, rfl, rfl⟩)

/-- Lists of texts have the same length, and their entries are made alike. -/
theorem agree_readList (clause : Clause) (entry : String) (h : Similar ts ts') :
    Agree (List.Forall₂ (Twins id)) (readList clause entry ts) (readList clause entry ts') := by
  refine Agree.mapM (h.splitTopLevel isComma_eq 0) ?_
  intro part part' hpart
  simp only [hpart.render_eq_empty_iff]
  split
  · exact .fail _
  · exact .ok ⟨part, part', hpart, rfl, rfl⟩

end

end Sql
end Tabular
