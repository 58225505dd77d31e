/-
# Words without quotes

A word between quotes can be any text, the empty one included.  A word without quotes starts with
a letter, an underscore or a sign, and goes on with letters, digits and few other characters
(`IsUnquoted`); only the character behind a sign is free, as the slash in `#/t`.

Every rule of the tokenizer keeps to this, most of them because they read no such word
(`rules_spell`).  So does the next token of a text, and so do all of them (`spelled_of_tokenize`).
-/
import Tabular.Proofs.Sql.Lexemes
import Mathlib.Data.List.TakeWhile

namespace Tabular
namespace Sql

variable {c : Char} {cs rest : List Char} {t : Token}

/-! ## 1. How words are spelled -/

/-- The signs that take the next character into a word, whichever it is. -/
def sigils : List (List Char) := [['#'], ['@'], ['@', '@']]

/-- A text that can be a word without quotes. -/
inductive IsUnquoted : List Char → Prop where
  | plain {c : Char} {cs : List Char} (start : isWordStart c = true)
      (parts : ∀ x ∈ cs, isWordPart x = true) : IsUnquoted (c :: cs)
  | sign {sigil : List Char} {c : Char} {cs : List Char} (mem : sigil ∈ sigils) (next : c ≠ ' ')
      (parts : ∀ x ∈ cs, isWordPart x = true) : IsUnquoted (sigil ++ c :: cs)

theorem IsUnquoted.ne_nil (h : IsUnquoted cs) : cs ≠ [] := by
  cases h with
  | plain => simp
  | sign => simp

/-- **A slash stands in a word without quotes** only behind the sign that it starts with. -/
theorem IsUnquoted.slash_mem_iff (h : IsUnquoted cs) :
    '/' ∈ cs ↔ ∃ sigil ∈ sigils, sigil ++ ['/'] <+: cs := by
  constructor
  · intro hslash
    have hparts : ∀ cs : List Char, (∀ x ∈ cs, isWordPart x = true) → '/' ∉ cs :=
      fun cs hcs hmem => absurd (hcs _ hmem) (by decide)
    cases h with
    | plain start parts =>
      rcases List.mem_cons.mp hslash with rfl | hslash
      · exact absurd start (by decide)
      · exact absurd hslash (hparts _ parts)
    | @sign sigil c cs mem next parts =>
      have hsigil : '/' ∉ sigil := by
        have hall : ∀ sigil ∈ sigils, '/' ∉ sigil := by decide
        exact hall sigil mem
      have hc : '/' = c := by simpa [hsigil, hparts cs parts] using hslash
      exact ⟨sigil, mem, cs, by rw [hc, List.append_assoc, List.singleton_append]⟩
  · rintro ⟨sigil, -, hprefix⟩
    exact hprefix.subset (by simp)

/-! ## 2. The rules -/

/-- The token is no word without quotes, or spelled like one. -/
def Spelled (t : Token) : Prop := ∀ text, t = .word text none → IsUnquoted text.toList

theorem spelled_blank : Spelled .blank := fun _ htext => Token.noConfusion htext

theorem spelled_symbol (s : Symbol) : Spelled (.symbol s) := fun _ htext => Token.noConfusion htext

theorem spelled_literal (printed : String) : Spelled (.literal printed) :=
  fun _ htext => Token.noConfusion htext

theorem spelled_scanWord {lead : List Char}
    (h : ∀ cs, (∀ x ∈ cs, isWordPart x = true) → IsUnquoted (lead ++ cs)) (cs : List Char) :
    Spelled (scanWord lead cs).1 := by
  intro text htext
  obtain ⟨rfl, -⟩ := Token.word.inj htext
  rw [String.toList_ofList]
  exact h _ fun x hx => List.mem_takeWhile_imp hx

theorem spelled_scanSigil {sigil : List Char} (h : sigil ∈ sigils) (cs : List Char) :
    Spelled (scanSigil sigil cs).1 := by
  cases cs with
  | nil => exact spelled_symbol _
  | cons c cs =>
    rw [scanSigil]
    split
    · exact spelled_symbol _
    · rename_i hc
      refine spelled_scanWord (fun more hmore => ?_) cs
      rw [List.append_assoc, List.singleton_append]
      exact .sign h hc hmore

theorem spelled_scanNumber (c : Char) (cs : List Char) : Spelled (scanNumber c cs).1 := by
  intro text htext
  simp only [scanNumber] at htext
  split_ifs at htext

theorem spelled_of_literalOr {fault : ScanError} {token : String → Token} {o : Option Scanned}
    (htoken : ∀ s, Spelled (token s)) (h : literalOr fault token o = .ok (t, rest)) :
    Spelled t := by
  cases o with
  | none => simp [literalOr] at h
  | some s =>
    obtain ⟨rfl, -⟩ : token (String.ofList s.1) = t ∧ s.2 = rest := by simpa [literalOr] using h
    exact htoken _

theorem spelled_printQuoted (letters : String) (q : Char) (text : String) :
    Spelled (printQuoted letters q text) := spelled_literal _

theorem spelled_of_scanRaw {q : Char} (h : scanRaw q cs = .ok (t, rest)) : Spelled t := by
  unfold scanRaw at h
  split_ifs at h
  · exact spelled_of_literalOr (fun _ => spelled_literal _) h
  · obtain ⟨rfl, -⟩ := Prod.mk.inj (Except.ok.inj h)
    exact spelled_printQuoted _ _ _
  · exact spelled_of_literalOr (spelled_printQuoted _ _) h

theorem spelled_of_scanUnicodeString (h : scanUnicodeString cs = .ok (t, rest)) : Spelled t := by
  unfold scanUnicodeString at h
  split at h
  · obtain ⟨rfl, -⟩ := Prod.mk.inj (Except.ok.inj h)
    exact spelled_printQuoted _ _ _
  · simp at h

theorem spelled_of_scanDollar (h : scanDollar cs = .ok (t, rest)) : Spelled t := by
  unfold scanDollar at h
  dsimp only at h
  split_ifs at h
  · exact spelled_of_literalOr (fun _ => spelled_literal _) h
  · exact spelled_of_literalOr (fun _ => spelled_literal _) h
  · obtain ⟨rfl, -⟩ := Prod.mk.inj (Except.ok.inj h)
    exact spelled_literal _

/-- The rule reads no word without quotes, or one that is spelled like one. -/
def Rule.Spells (rule : Rule) : Prop :=
  ∀ c cs t rest, rule c cs = some (.ok (t, rest)) → Spelled t

theorem spelled_of_some {s : Token × List Char}
    (h : some (Except.ok s : Scan) = some (.ok (t, rest))) (hs : Spelled s.1) : Spelled t := by
  cases h
  exact hs

theorem blankRule_spells : Rule.Spells blankRule := by
  intro c cs t rest h
  unfold blankRule at h
  split_ifs at h <;> exact spelled_of_some h spelled_blank

theorem commentRule_spells : Rule.Spells commentRule := by
  intro c cs t rest h
  unfold commentRule at h
  split_ifs at h
  · exact spelled_of_some h spelled_blank
  · split at h
    · exact spelled_of_some h spelled_blank
    · simp at h

theorem scanPrefixed_spells : Rule.Spells scanPrefixed := by
  intro c cs t rest h
  cases cs with
  | nil => simp [scanPrefixed] at h
  | cons q ds =>
    simp only [scanPrefixed] at h
    split_ifs at h
    · exact spelled_of_literalOr (spelled_printQuoted _ _) (Option.some.inj h)
    · exact spelled_of_scanRaw (Option.some.inj h)
    · exact spelled_of_literalOr (spelled_printQuoted _ _) (Option.some.inj h)
    · exact spelled_of_literalOr (spelled_printQuoted _ _) (Option.some.inj h)
    · exact spelled_of_literalOr (spelled_printQuoted _ _) (Option.some.inj h)
    · exact spelled_of_scanUnicodeString (Option.some.inj h)

theorem quoteRule_spells : Rule.Spells quoteRule := by
  intro c cs t rest h
  unfold quoteRule at h
  split_ifs at h
  · exact spelled_of_literalOr (fun _ _ htext => Token.noConfusion htext) (Option.some.inj h)
  · refine spelled_of_literalOr (fun s text htext => ?_) (Option.some.inj h)
    simp at htext

theorem numberRule_spells : Rule.Spells numberRule := by
  intro c cs t rest h
  unfold numberRule at h
  split_ifs at h
  exact spelled_of_some h (spelled_scanNumber _ _)

theorem operatorRule_spells : Rule.Spells operatorRule := by
  intro c cs t rest h
  obtain ⟨s, hs, he⟩ := Option.map_eq_some_iff.mp h
  cases he
  obtain ⟨o, -, heq⟩ := Option.map_eq_some_iff.mp hs
  obtain ⟨rfl, -⟩ := Prod.mk.inj heq
  exact spelled_symbol _

theorem sigilRule_spells : Rule.Spells sigilRule := by
  intro c cs t rest h
  unfold sigilRule at h
  split_ifs at h with hnumber hat hdouble
  · exact spelled_of_some h (spelled_scanSigil (hnumber ▸ by decide) _)
  · exact spelled_of_some h (spelled_scanSigil (hat ▸ by decide) _)
  · exact spelled_of_some h (spelled_scanSigil (hat ▸ by decide) _)

theorem placeholderRule_spells : Rule.Spells placeholderRule := by
  intro c cs t rest h
  unfold placeholderRule at h
  split_ifs at h
  exact spelled_of_some h (spelled_literal _)

theorem wordRule_spells : Rule.Spells wordRule := by
  intro c cs t rest h
  unfold wordRule at h
  split_ifs at h with hc
  exact spelled_of_some h (spelled_scanWord (fun _ hmore => .plain hc hmore) _)

theorem dollarRule_spells : Rule.Spells dollarRule := by
  intro c cs t rest h
  unfold dollarRule at h
  split_ifs at h
  exact spelled_of_scanDollar (Option.some.inj h)

theorem otherBlankRule_spells : Rule.Spells otherBlankRule := by
  intro c cs t rest h
  unfold otherBlankRule at h
  split_ifs at h
  exact spelled_of_some h spelled_blank

theorem rules_spell : ∀ rule ∈ rules, Rule.Spells rule := by
  intro rule h
  simp only [rules, List.mem_cons, List.not_mem_nil, or_false] at h
  rcases h with rfl | rfl | rfl | rfl | rfl | rfl | rfl | rfl | rfl | rfl | rfl
  · exact blankRule_spells
  · exact commentRule_spells
  · exact scanPrefixed_spells
  · exact quoteRule_spells
  · exact numberRule_spells
  · exact operatorRule_spells
  · exact sigilRule_spells
  · exact placeholderRule_spells
  · exact wordRule_spells
  · exact dollarRule_spells
  · exact otherBlankRule_spells

/-! ## 3. All tokens -/

theorem spelled_of_next (h : next c cs = .ok (t, rest)) : Spelled t := by
  unfold next at h
  split at h
  · rename_i scan hscan
    obtain ⟨rule, hrule, hr⟩ := List.exists_of_findSome?_eq_some hscan
    exact rules_spell rule hrule c cs t rest (by rw [hr, h])
  · exact spelled_of_some (congrArg some h) (spelled_symbol _)

theorem spelled_of_tokens {ts : List Token} (h : tokens cs = .ok ts) : ∀ t ∈ ts, Spelled t := by
  fun_induction tokens cs generalizing ts with
  | case1 =>
    obtain rfl := Except.ok.inj h
    simp
  | case2 => simp at h
  | case3 c cs t rest hnext hle ih =>
    cases hrest : tokens rest with
    | error e => simp [hrest, Except.map] at h
    | ok more =>
      rw [hrest] at h
      obtain rfl : t :: more = ts := Except.ok.inj h
      exact List.forall_mem_cons.mpr ⟨spelled_of_next hnext, ih hrest⟩

/-- **Every word without quotes in a statement is spelled like one.** -/
theorem spelled_of_tokenize {sql : String} {ts : List Token} (h : tokenize sql = .ok ts) :
    ∀ t ∈ ts, Spelled t := by
  unfold tokenize statementTokens at h
  cases hall : tokens sql.toList with
  | error e => simp [hall, Except.map] at h
  | ok all =>
    rw [hall] at h
    obtain rfl := Except.ok.inj h
    intro t ht
    have hmem := (List.dropWhile_suffix _).subset (List.mem_reverse.mp ht)
    exact spelled_of_tokens hall t (List.mem_reverse.mp hmem)

end Sql
end Tabular
