/-
# From text to tokens

`Sql.next` reads one token from the front of a text: the rules are tried in order, and the first
one that fits wins.  It leaves an end of the text (`next_suffix`), so that `Sql.tokens` can go
on to the end of the text.
-/
import Tabular.Sql.Lexeme
import Tabular.Sql.Literal

namespace Tabular
namespace Sql

/-! ## 1. Rules

A rule looks at a character and at what follows it, and reads a token or declines. -/

/-- A rule of the tokenizer. -/
abbrev Rule := Char → List Char → Option Scan

/-- Spaces, tabs and line ends; a carriage return and a line feed are one token. -/
def blankRule : Rule := fun c cs =>
  if c = ' ' ∨ c = '\t' ∨ c = '\n' then some (.ok (.blank, cs))
  else if c = '\r' then some (.ok (.blank, if cs.head? = some '\n' then cs.tail else cs))
  else none

/-- Comments: two dashes up to the end of the line, or a slash and a star up to their match. -/
def commentRule : Rule := fun c cs =>
  if c = '-' ∧ cs.head? = some '-' then some (.ok (.blank, (cs.dropWhile (· ≠ '\n')).tail))
  else if c = '/' ∧ cs.head? = some '*' then
    match skipComment 0 none cs.tail with
    | some rest => some (.ok (.blank, rest))
    | none => some (.error ⟨.openComment, []⟩)
  else none

/-- Strings between single quotes, and words between double quotes or backquotes. -/
def quoteRule : Rule := fun c cs =>
  if c = '\x27' then
    some (literalOr ⟨.unterminatedString, c :: cs⟩ .string (scanQuoted c cs))
  else if c = '\x22' ∨ c = '\x60' then
    some (literalOr ⟨.openWord c, c :: cs⟩ (fun text => .word text (some c)) (scanQuoted c cs))
  else none

/-- Numbers and periods. -/
def numberRule : Rule := fun c cs =>
  if c.isDigit ∨ c = '.' then some (.ok (scanNumber c cs)) else none

/-- Operators and punctuation. -/
def operatorRule : Rule := fun c cs => (scanOperator c cs).map .ok

/-- Number signs and at signs that no operator takes; two at signs belong together. -/
def sigilRule : Rule := fun c cs =>
  if c = '#' then some (.ok (scanSigil [c] cs))
  else if c = '@' then
    some (.ok (if cs.head? = some '@' then scanSigil [c, c] cs.tail else scanSigil [c] cs))
  else none

/-- Placeholders: a question mark and numerals. -/
def placeholderRule : Rule := fun c cs =>
  if c = '?' then
    some (.ok (.literal (String.ofList (c :: cs.takeWhile Text.isNumeric)),
      cs.dropWhile Text.isNumeric))
  else none

/-- Unquoted words. -/
def wordRule : Rule := fun c cs =>
  if isWordStart c then some (.ok (scanWord [c] cs)) else none

/-- Placeholders and strings with dollar signs. -/
def dollarRule : Rule := fun c cs => if c = '$' then some (scanDollar cs) else none

/-- The remaining blanks. -/
def otherBlankRule : Rule := fun c cs =>
  if Text.isBlank c then some (.ok (.blank, cs)) else none

/-- The rules in the order in which they are tried. -/
def rules : List Rule :=
  [blankRule, commentRule, scanPrefixed, quoteRule, numberRule, operatorRule, sigilRule,
   placeholderRule, wordRule, dollarRule, otherBlankRule]

/-! ## 2. One token, and all of them -/

/-- The token that starts with `c`: that of the first rule that fits, or else a symbol of that
character alone. -/
def next (c : Char) (cs : List Char) : Scan :=
  match rules.findSome? fun rule => rule c cs with
  | some scan => scan
  | none => .ok (.symbol (.other (String.ofList [c])), cs)

/-- The rule leaves an end of the text behind the first character. -/
def Rule.Shortens (rule : Rule) : Prop :=
  ∀ c cs t rest, rule c cs = some (.ok (t, rest)) → rest <:+ cs

theorem shortens_of_some {rest cs : List Char} {t : Token} {s : Token × List Char}
    (h : some (Except.ok s : Scan) = some (.ok (t, rest))) (hs : s.2 <:+ cs) : rest <:+ cs := by
  cases h; exact hs

theorem blankRule_shortens : Rule.Shortens blankRule := by
  intro c cs t rest h
  unfold blankRule at h
  split at h
  · exact shortens_of_some h List.suffix_rfl
  split at h
  · refine shortens_of_some h ?_
    dsimp only
    split
    · exact List.tail_suffix _
    · exact List.suffix_rfl
  · simp at h

theorem commentRule_shortens : Rule.Shortens commentRule := by
  intro c cs t rest h
  unfold commentRule at h
  split at h
  · exact shortens_of_some h ((List.tail_suffix _).trans (List.dropWhile_suffix _))
  split at h
  · split at h
    · rename_i r hr
      exact shortens_of_some h ((skipComment_suffix hr).trans (List.tail_suffix _))
    · simp at h
  · simp at h

theorem quoteRule_shortens : Rule.Shortens quoteRule := by
  intro c cs t rest h
  unfold quoteRule at h
  split at h
  · exact literalOr_suffix (fun _ _ e => scanQuoted_suffix e) (Option.some.inj h)
  split at h
  · exact literalOr_suffix (fun _ _ e => scanQuoted_suffix e) (Option.some.inj h)
  · simp at h

theorem numberRule_shortens : Rule.Shortens numberRule := by
  intro c cs t rest h
  unfold numberRule at h
  split at h
  · exact shortens_of_some h (scanNumber_suffix _ _)
  · simp at h

theorem operatorRule_shortens : Rule.Shortens operatorRule := by
  intro c cs t rest h
  obtain ⟨s, hs, he⟩ := Option.map_eq_some_iff.mp h
  cases he
  exact scanOperator_suffix hs

theorem sigilRule_shortens : Rule.Shortens sigilRule := by
  intro c cs t rest h
  unfold sigilRule at h
  split at h
  · exact shortens_of_some h (scanSigil_suffix _ _)
  split at h
  · refine shortens_of_some h ?_
    split
    · exact (scanSigil_suffix _ _).trans (List.tail_suffix _)
    · exact scanSigil_suffix _ _
  · simp at h

theorem placeholderRule_shortens : Rule.Shortens placeholderRule := by
  intro c cs t rest h
  unfold placeholderRule at h
  split at h
  · exact shortens_of_some h (List.dropWhile_suffix _)
  · simp at h

theorem wordRule_shortens : Rule.Shortens wordRule := by
  intro c cs t rest h
  unfold wordRule at h
  split at h
  · exact shortens_of_some h (scanWord_suffix _ _)
  · simp at h

theorem dollarRule_shortens : Rule.Shortens dollarRule := by
  intro c cs t rest h
  unfold dollarRule at h
  split at h
  · exact scanDollar_suffix (Option.some.inj h)
  · simp at h

theorem otherBlankRule_shortens : Rule.Shortens otherBlankRule := by
  intro c cs t rest h
  unfold otherBlankRule at h
  split at h
  · exact shortens_of_some h List.suffix_rfl
  · simp at h

theorem rules_shorten : ∀ rule ∈ rules, Rule.Shortens rule := by
  intro rule h
  simp only [rules, List.mem_cons, List.not_mem_nil, or_false] at h
  rcases h with rfl | rfl | rfl | rfl | rfl | rfl | rfl | rfl | rfl | rfl | rfl
  · exact blankRule_shortens
  · exact commentRule_shortens
  · exact fun _ _ _ _ h => scanPrefixed_suffix h
  · exact quoteRule_shortens
  · exact numberRule_shortens
  · exact operatorRule_shortens
  · exact sigilRule_shortens
  · exact placeholderRule_shortens
  · exact wordRule_shortens
  · exact dollarRule_shortens
  · exact otherBlankRule_shortens

/-- A token leaves an end of the text behind its first character. -/
theorem next_suffix {c : Char} {cs rest : List Char} {t : Token}
    (h : next c cs = .ok (t, rest)) : rest <:+ cs := by
  unfold next at h
  split at h
  · rename_i scan hs
    obtain ⟨rule, hrule, hr⟩ := List.exists_of_findSome?_eq_some hs
    exact rules_shorten rule hrule c cs t rest (by rw [hr, h])
  · exact shortens_of_some (congrArg some h) List.suffix_rfl

/-- The tokens of a text. -/
def tokens (cs : List Char) : Except ScanError (List Token) :=
  match cs with
  | [] => .ok []
  | c :: cs =>
    match h : next c cs with
    | .error e => .error e
    | .ok (t, rest) =>
      have := (next_suffix h).length_le
      (tokens rest).map (t :: ·)
termination_by cs.length

/-- Is the token dropped from the end of a statement?  Blanks and semicolons are. -/
def isTrailing : Token → Bool
  | .blank => true
  | .symbol .semicolon => true
  | _ => false

/-- The tokens of a statement: those of the text up to trailing blanks and semicolons. -/
def statementTokens (sql : String) : Except ScanError (List Token) :=
  (tokens sql.toList).map fun ts => (ts.reverse.dropWhile isTrailing).reverse

end Sql
end Tabular
