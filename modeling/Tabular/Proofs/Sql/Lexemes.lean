/-
# Statements as they are written

A statement is a text, and what is proved about it starts from its tokens.  A `Lexeme` is a piece
of a statement together with the way it is written: a space, a word with or without quotes, a
string between single quotes, or a sign.

* `next_lexeme`: the tokenizer reads a lexeme as its token, and goes on behind it;
* `tokens_write`: so a text that is written from lexemes has their tokens, whatever follows.

The tokenizer takes the longest token that it can.  So a word, a string or an equality sign must
not run into what follows; here a space or a closing parenthesis stands behind it (`isSpaced`).
-/
import Tabular.Sql.Statement
import Mathlib.Data.List.Basic

namespace Tabular
namespace Sql

/-! ## 1. Lexemes -/

/-- A letter or an underscore. -/
def isNameStart (c : Char) : Bool := Text.isAlphabetic c || c = '_'

/-- Can the text stand in a statement as a word without quotes? -/
def isBareWord (text : String) : Bool :=
  match text.toList with
  | [] => false
  | c :: cs => isNameStart c && cs.all isWordPart

/-- A word as a statement can write it: bare, or between double quotes or backquotes. -/
structure Spelling where
  text : String
  quotedBy : Option Char
  valid : match quotedBy with
    | none => isBareWord text = true
    | some q => q = '\x22' ∨ q = '\x60'

/-- A text with every quote in it written twice. -/
def doubled (q : Char) (cs : List Char) : List Char :=
  cs.flatMap fun c => if c = q then [q, q] else [c]

/-- A text between quotes. -/
def inQuotes (q : Char) (cs : List Char) : List Char := q :: (doubled q cs ++ [q])

namespace Spelling

/-- A word without quotes. -/
def bare (text : String) (h : isBareWord text = true) : Spelling := ⟨text, none, h⟩

/-- The word as it is written. -/
def chars (w : Spelling) : List Char :=
  match w.quotedBy with
  | none => w.text.toList
  | some q => inQuotes q w.text.toList

/-- The word in a statement. -/
def toString (w : Spelling) : String := String.ofList w.chars

/-- The word as a token. -/
def token (w : Spelling) : Token := .word w.text w.quotedBy

end Spelling

/-- A word that can be written without quotes and is no keyword. -/
structure Identifier where
  text : String
  bare : isBareWord text = true
  notKeyword : Keyword.ofWord? text = none

/-- The identifier as it is written. -/
def Identifier.spelling (i : Identifier) : Spelling := .bare i.text i.bare

theorem isBareWord_spelling (k : Keyword) : isBareWord k.spelling = true := by cases k <;> decide

/-- A keyword in capitals. -/
def keyword (k : Keyword) : Spelling := .bare k.spelling (isBareWord_spelling k)

/-- A text as a string between single quotes. -/
def literal (s : String) : String := String.ofList (inQuotes '\x27' s.toList)

/-- A sign that is not the beginning of a longer one, unless it is followed by one. -/
inductive Sign where
  | leftParen | rightParen | star | equal
  deriving DecidableEq

/-- A piece of a statement. -/
inductive Lexeme where
  | space
  | word (w : Spelling)
  | string (text : String)
  | sign (s : Sign)

/-- The character of a sign. -/
def Sign.char : Sign → Char
  | leftParen => '('
  | rightParen => ')'
  | star => '*'
  | equal => '='

/-- The symbol that a sign is read as. -/
def Sign.symbol : Sign → Symbol
  | leftParen => .leftParen
  | rightParen => .rightParen
  | star => .star
  | equal => .equal

namespace Lexeme

/-- The piece as it is written. -/
def chars : Lexeme → List Char
  | space => [' ']
  | word w => w.chars
  | string text => inQuotes '\x27' text.toList
  | sign s => [s.char]

/-- The piece as a token. -/
def token : Lexeme → Token
  | space => .blank
  | word w => w.token
  | string text => .string text
  | sign s => .symbol s.symbol

/-- Does the piece end by itself, whatever follows? -/
def endsItself : Lexeme → Bool
  | space => true
  | word _ => false
  | string _ => false
  | sign s => s ≠ .equal

/-- Does the piece end what stands before it? -/
def endsOther : Lexeme → Bool
  | space => true
  | sign s => s = .leftParen || s = .rightParen
  | _ => false

end Lexeme

/-- The text of a list of lexemes. -/
def write (ls : List Lexeme) : List Char := ls.flatMap Lexeme.chars

/-- Every lexeme ends by itself, or the next one ends it. -/
def isSpaced : List Lexeme → Bool
  | [] => true
  | [_] => true
  | l :: m :: ls => (l.endsItself || m.endsOther) && isSpaced (m :: ls)

/-- What may follow a lexeme that does not end by itself. -/
def Boundary (rest : List Char) : Prop := ∀ c ∈ rest.head?, c = ' ' ∨ c = '(' ∨ c = ')'

/-! ## 2. Single lexemes -/

/-- Behind the closing quote no other quote may stand. -/
theorem scanQuoted_doubled {q : Char} (cs : List Char) {rest : List Char}
    (h : rest.head? ≠ some q) : scanQuoted q (doubled q cs ++ q :: rest) = some (cs, rest) := by
  induction cs with
  | nil =>
    cases rest with
    | nil => simp [doubled, scanQuoted]
    | cons d ds =>
      have hd : d ≠ q := by simpa using h
      simp [doubled, scanQuoted, hd]
  | cons c cs ih =>
    have htail : doubled q (c :: cs) = (if c = q then [q, q] else [c]) ++ doubled q cs := rfl
    rw [htail]
    by_cases hc : c = q
    · simp [hc, scanQuoted, ih, push]
    · rw [if_neg hc, List.singleton_append, List.cons_append, scanQuoted.eq_def]
      simp [hc, ih, push]

/-- A literal that a letter introduces has a quote or an ampersand behind its letter. -/
theorem scanPrefixed_eq_none {c : Char} {cs : List Char}
    (h : c.toUpper ∉ ['B', 'R', 'N', 'X', 'E', 'U'] ∨
      ∀ d ∈ cs.head?, d ∉ ['\x27', '\x22', '&']) : scanPrefixed c cs = none := by
  cases cs with
  | nil => rfl
  | cons d ds =>
    rcases h with h | h
    · simp only [List.mem_cons, List.not_mem_nil, or_false, not_or] at h
      obtain ⟨hb, hr, hn, hx, he, hu⟩ := h
      simp [scanPrefixed, hb, hr, hn, hx, he, hu]
    · have hd := h d (by simp)
      simp only [List.mem_cons, List.not_mem_nil, or_false, not_or] at hd
      simp [scanPrefixed, Text.isQuote, hd]

theorem isAlphabetic_of_isDigit {c : Char} (h : c.isDigit = true) :
    Text.isAlphabetic c = false := by
  simp only [Char.isDigit, Bool.and_eq_true, decide_eq_true_eq, UInt32.le_iff_toNat_le,
    ge_iff_le] at h
  have hn : c.toNat = c.val.toNat := rfl
  have h9 : '9'.val.toNat = 57 := rfl
  have hA : 'A'.val.toNat = 65 := rfl
  have ha : 'a'.val.toNat = 97 := rfl
  have hlow : c.toNat < 128 := by omega
  have halpha : c.isAlpha = (decide (c.val ≥ 'A'.val ∧ c.val ≤ 'Z'.val) ||
    (decide (c.val ≥ 'a'.val) && decide (c.val ≤ 'z'.val))) := rfl
  rw [Text.isAlphabetic, if_pos hlow, halpha]
  simp only [Bool.or_eq_false_iff, Bool.and_eq_false_iff, decide_eq_false_iff_not,
    UInt32.le_iff_toNat_le, ge_iff_le]
  omega

/-- The characters that the rules before the one for words look for. -/
def signs : List Char :=
  [' ', '\t', '\n', '\r', '-', '/', '\x27', '\x22', '\x60', '.', '#', '@', '?', '<', '>', '=', '!',
   '~', '|', '&', '^', ':', '(', ')', ',', ';', '*']

theorem not_mem_signs_of_isNameStart {c : Char} (h : isNameStart c = true) : c ∉ signs := by
  have hsigns : signs.all (fun x => !isNameStart x) = true := by decide
  intro hm
  have hc := List.all_eq_true.mp hsigns c hm
  simp [h] at hc

theorem isDigit_of_isNameStart {c : Char} (h : isNameStart c = true) : c.isDigit = false := by
  rcases Bool.or_eq_true_iff.mp h with h | h
  · cases hd : c.isDigit with
    | false => rfl
    | true => simp [isAlphabetic_of_isDigit hd] at h
  · rw [of_decide_eq_true h]
    decide

theorem scanOperator_eq_none {c : Char} (h : c ∉ signs) (cs : List Char) :
    scanOperator c cs = none := by
  have hmem : ∀ o ∈ operators, o.1 ∈ signs := by decide
  rw [scanOperator, Option.map_eq_none_iff, List.find?_eq_none]
  intro o ho hfits
  simp only [Bool.and_eq_true, decide_eq_true_eq] at hfits
  exact h (hfits.1 ▸ hmem o ho)

/-- No rule before the one for words takes a word. -/
theorem next_bare {c : Char} {cs rest : List Char} (hc : isNameStart c = true)
    (hcs : cs.all isWordPart = true) (h : Boundary rest) :
    next c (cs ++ rest) = .ok (.word (String.ofList (c :: cs)) none, rest) := by
  have hrest : ∀ d ∈ rest.head?, isWordPart d = false ∧ d ∉ ['\x27', '\x22', '&'] := by
    intro d hd
    rcases h d hd with rfl | rfl | rfl <;> decide
  have hparts : ['\x27', '\x22', '&'].all (fun d => !isWordPart d) = true := by decide
  have hprefixed : scanPrefixed c (cs ++ rest) = none := by
    refine scanPrefixed_eq_none (Or.inr ?_)
    cases cs with
    | nil => exact fun d hd => (hrest d hd).2
    | cons d ds =>
      intro e he hm
      obtain rfl : d = e := by simpa using he
      have hpart := List.all_eq_true.mp hparts d hm
      rw [List.all_cons, Bool.and_eq_true] at hcs
      simp [hcs.1] at hpart
  have hsigns := not_mem_signs_of_isNameStart hc
  have hoperator : operatorRule c (cs ++ rest) = none := by
    rw [operatorRule, scanOperator_eq_none hsigns]
    rfl
  have hword : isWordStart c = true := by
    rcases Bool.or_eq_true_iff.mp hc with hc | hc
    · simp [isWordStart, hc]
    · simp [isWordStart, of_decide_eq_true hc]
  have hall := List.all_eq_true.mp hcs
  have htake : (cs ++ rest).takeWhile isWordPart = cs := by
    rw [List.takeWhile_append_of_pos hall]
    cases rest with
    | nil => simp
    | cons d ds => simp [(hrest d (by simp)).1]
  have hdrop : (cs ++ rest).dropWhile isWordPart = rest := by
    rw [List.dropWhile_append_of_pos hall]
    cases rest with
    | nil => simp
    | cons d ds => simp [(hrest d (by simp)).1]
  simp only [signs, List.mem_cons, List.not_mem_nil, or_false, not_or] at hsigns
  simp [next, rules, List.findSome?, blankRule, commentRule, hprefixed, quoteRule, numberRule,
    isDigit_of_isNameStart hc, hoperator, sigilRule, placeholderRule, wordRule, hword, scanWord,
    htake, hdrop, hsigns]

theorem next_quoted {q : Char} (hq : q = '\x27' ∨ q = '\x22' ∨ q = '\x60') (cs : List Char)
    {rest : List Char} (h : Boundary rest) :
    next q (doubled q cs ++ [q] ++ rest) =
      .ok (if q = '\x27' then .string (String.ofList cs) else .word (String.ofList cs) (some q),
        rest) := by
  have hrest : rest.head? ≠ some q := by
    intro hd
    rcases h q hd with rfl | rfl | rfl <;> simp at hq
  have hscan := scanQuoted_doubled cs hrest
  rw [List.append_assoc, List.singleton_append]
  rcases hq with rfl | rfl | rfl
  all_goals
    simp [next, rules, List.findSome?, blankRule, commentRule, scanPrefixed_eq_none, quoteRule,
      hscan, literalOr]

theorem next_sign (s : Sign) {rest : List Char} (h : s = .equal → Boundary rest) :
    next s.char rest = .ok (.symbol s.symbol, rest) := by
  have hprefixed : scanPrefixed s.char rest = none := by
    cases s <;> exact scanPrefixed_eq_none (Or.inl (by decide))
  have hoperator : operatorRule s.char rest = some (.ok (.symbol s.symbol, rest)) := by
    cases s with
    | equal =>
      cases rest with
      | nil => rfl
      | cons c cs => rcases h rfl c (by simp) with rfl | rfl | rfl <;> rfl
    | _ => cases rest <;> rfl
  cases s <;> simp only [Sign.char] at hprefixed hoperator ⊢ <;>
    simp [next, rules, List.findSome?, blankRule, commentRule, hprefixed, quoteRule, numberRule,
      hoperator]

/-- **A lexeme is read as its token**, where what follows does not belong to it. -/
theorem next_lexeme (l : Lexeme) {rest : List Char} (h : l.endsItself = true ∨ Boundary rest) :
    ∃ c cs, l.chars ++ rest = c :: cs ∧ next c cs = .ok (l.token, rest) := by
  cases l with
  | space => exact ⟨' ', rest, rfl, rfl⟩
  | word w =>
    have hrest : Boundary rest := by simpa [Lexeme.endsItself] using h
    obtain ⟨text, quotedBy, hvalid⟩ := w
    cases quotedBy with
    | none =>
      simp only [isBareWord] at hvalid
      cases htext : text.toList with
      | nil => simp [htext] at hvalid
      | cons c cs =>
        rw [htext] at hvalid
        simp only [Bool.and_eq_true] at hvalid
        refine ⟨c, cs ++ rest, by simp [Lexeme.chars, Spelling.chars, htext], ?_⟩
        rw [next_bare hvalid.1 hvalid.2 hrest, ← htext, String.ofList_toList]
        rfl
    | some q =>
      have hne : q ≠ '\x27' := by rcases hvalid with rfl | rfl <;> decide
      refine ⟨q, doubled q text.toList ++ [q] ++ rest, rfl, ?_⟩
      rw [next_quoted (Or.inr hvalid) text.toList hrest, if_neg hne, String.ofList_toList]
      rfl
  | string text =>
    have hrest : Boundary rest := by simpa [Lexeme.endsItself] using h
    refine ⟨'\x27', doubled '\x27' text.toList ++ ['\x27'] ++ rest, rfl, ?_⟩
    rw [next_quoted (Or.inl rfl) text.toList hrest, if_pos rfl, String.ofList_toList]
    rfl
  | sign s =>
    refine ⟨s.char, rest, rfl, next_sign s ?_⟩
    rintro rfl
    simpa [Lexeme.endsItself] using h

/-! ## 3. Texts of lexemes -/

theorem tokens_cons_of_next {c : Char} {cs rest : List Char} {t : Token}
    (h : next c cs = .ok (t, rest)) : tokens (c :: cs) = (tokens rest).map (t :: ·) := by
  rw [tokens]
  split
  · rename_i e he
    rw [h] at he
    simp at he
  · rename_i t' rest' he
    rw [h] at he
    simp only [Except.ok.injEq, Prod.mk.injEq] at he
    obtain ⟨rfl, rfl⟩ := he
    rfl

theorem boundary_of_endsOther {l : Lexeme} (h : l.endsOther = true) (rest : List Char) :
    Boundary (l.chars ++ rest) := by
  intro c hc
  cases l with
  | space => exact Or.inl (by simpa [Lexeme.chars, eq_comm] using hc)
  | sign s =>
    have hs : s = .leftParen ∨ s = .rightParen := by simpa [Lexeme.endsOther] using h
    obtain rfl : s.char = c := by simpa [Lexeme.chars] using hc
    rcases hs with rfl | rfl
    · exact Or.inr (Or.inl rfl)
    · exact Or.inr (Or.inr rfl)
  | _ => simp [Lexeme.endsOther] at h

/-- **A text of lexemes has their tokens**, and those of what follows.  The last lexeme ends by
itself, or what follows ends it. -/
theorem tokens_write {ls : List Lexeme} {rest : List Char} (h : isSpaced ls = true)
    (hrest : Boundary rest ∨ ∀ l ∈ ls.getLast?, l.endsItself = true) :
    tokens (write ls ++ rest) = (tokens rest).map (ls.map Lexeme.token ++ ·) := by
  induction ls with
  | nil =>
    cases htokens : tokens rest <;> simp [write, htokens, Except.map]
  | cons l ls ih =>
    have hfollow : l.endsItself = true ∨ Boundary (write ls ++ rest) := by
      cases ls with
      | nil =>
        rcases hrest with hrest | hlast
        · exact Or.inr hrest
        · exact Or.inl (hlast l (by simp))
      | cons m ls =>
        simp only [isSpaced, Bool.and_eq_true, Bool.or_eq_true] at h
        rcases h.1 with hl | hm
        · exact Or.inl hl
        · refine Or.inr ?_
          rw [write, List.flatMap_cons, List.append_assoc]
          exact boundary_of_endsOther hm _
    have hspaced : isSpaced ls = true := by
      cases ls with
      | nil => rfl
      | cons m ls =>
        simp only [isSpaced, Bool.and_eq_true] at h
        exact h.2
    have hlast : Boundary rest ∨ ∀ l ∈ ls.getLast?, l.endsItself = true := by
      refine hrest.imp_right fun hlast m hm => hlast m ?_
      rw [List.getLast?_cons, Option.mem_def.mp hm]
      rfl
    obtain ⟨c, cs, hchars, hnext⟩ := next_lexeme l hfollow
    have hwrite : write (l :: ls) ++ rest = c :: cs := by
      rw [← hchars, write, List.flatMap_cons, List.append_assoc]
      rfl
    rw [hwrite, tokens_cons_of_next hnext, ih hspaced hlast]
    cases tokens rest <;> rfl

theorem tokens_write_nil {ls : List Lexeme} (h : isSpaced ls = true) :
    tokens (write ls) = .ok (ls.map Lexeme.token) := by
  have hnil : Boundary [] := fun c hc => by simp at hc
  rw [← List.append_nil (write ls), tokens_write h (Or.inl hnil), tokens]
  simp [Except.map]

/-- Nothing is dropped from a list whose last token stays. -/
theorem dropWhile_reverse_of_getLast {ts : List Token}
    (h : ∀ t ∈ ts.getLast?, isTrailing t = false) :
    ts.reverse.dropWhile isTrailing = ts.reverse := by
  rcases List.eq_nil_or_concat ts with rfl | ⟨front, t, rfl⟩
  · rfl
  · have ht : isTrailing t = false := h t (by simp)
    simp [ht]

/-- A statement has the tokens of its lexemes, if the last one is not dropped as trailing. -/
theorem tokenize_of_write {ls : List Lexeme} {sql : String} (hsql : sql.toList = write ls)
    (h : isSpaced ls = true) (hlast : ∀ l ∈ ls.getLast?, isTrailing l.token = false) :
    tokenize sql = .ok (ls.map Lexeme.token) := by
  have htokens : ∀ t ∈ (ls.map Lexeme.token).getLast?, isTrailing t = false := by
    intro t ht
    rw [List.getLast?_map] at ht
    obtain ⟨l, hl, rfl⟩ := Option.map_eq_some_iff.mp ht
    exact hlast l hl
  rw [tokenize, statementTokens, hsql, tokens_write_nil h]
  simp only [Except.map, dropWhile_reverse_of_getLast htokens, List.reverse_reverse]

end Sql
end Tabular
