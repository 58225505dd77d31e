/-
# Values and literals

A literal reaches a condition as it is printed, with its quotes, and a cell holds the text between
them.  Both are trimmed and lose one pair of quotes before they are compared (`Value.coerce`).  So
a text equals the literal that is made from it exactly if it has neither blank ends nor quotes of
its own around it (`Value.looselyEquals_literal_iff`).

Numbers are no exception: a text that reads as a number holds neither blanks nor quotes, since it
is read from end to end (`all_isPart_of_readNumber`).
-/
import Tabular.Value
import Tabular.Proofs.Text.Trimming

namespace Tabular

/-! ## 1. The texts of numbers -/

namespace Decimal

/-- A character that the text of a finite number can hold. -/
def isPart (c : Char) : Bool :=
  c.isDigit || c = '.' || c = 'e' || c = 'E' || c = '+' || c = '-'

/-- No part of a number is dropped before a comparison. -/
theorem not_isBlank_of_isPart {c : Char} (h : isPart c = true) :
    Text.isBlank c = false ∧ Text.isQuote c = false := by
  simp only [isPart, Bool.or_eq_true, decide_eq_true_eq] at h
  rcases h with ((((hdigit | rfl) | rfl) | rfl) | rfl) | rfl
  · refine ⟨Text.not_isBlank_of_isDigit hdigit, ?_⟩
    rw [Text.isQuote, Bool.or_eq_false_iff, decide_eq_false_iff_not, decide_eq_false_iff_not]
    constructor
    · rintro rfl
      exact absurd hdigit (by decide)
    · rintro rfl
      exact absurd hdigit (by decide)
  all_goals exact ⟨by decide, by decide⟩

theorem all_isPart_of_digits {cs : List Char} (h : cs.all Char.isDigit = true) :
    cs.all isPart = true := by
  rw [List.all_eq_true] at h ⊢
  intro c hc
  simp [isPart, h c hc]

theorem all_isPart_of_takeSign {cs : List Char} (h : (takeSign cs).2.all isPart = true) :
    cs.all isPart = true := by
  have hminus : isPart '-' = true := by decide
  have hplus : isPart '+' = true := by decide
  unfold takeSign at h
  split at h
  · rw [List.all_cons, hminus, h]
    rfl
  · rw [List.all_cons, hplus, h]
    rfl
  · exact h

theorem all_isPart_of_exponent? {cs : List Char} {e : Int} (h : exponent? cs = some e) :
    cs.all isPart = true := by
  cases cs with
  | nil => rfl
  | cons c cs =>
    simp only [exponent?] at h
    split at h
    · rename_i hparts
      obtain ⟨hc, -, hdigits⟩ := hparts
      have hpart : isPart c = true := by
        rcases hc with rfl | rfl <;> decide
      rw [List.all_cons, hpart, all_isPart_of_takeSign (all_isPart_of_digits hdigits)]
      rfl
    · simp at h

theorem all_isPart_of_ofChars? {cs : List Char} {d : Decimal} (h : ofChars? cs = some d) :
    cs.all isPart = true := by
  have hsplit : ∀ r : List Char, (r.takeWhile Char.isDigit).all isPart = true ∧
      ((r.dropWhile Char.isDigit).all isPart = true → r.all isPart = true) := by
    intro r
    have hdigits : (r.takeWhile Char.isDigit).all isPart = true :=
      all_isPart_of_digits List.all_takeWhile
    refine ⟨hdigits, fun hrest => ?_⟩
    rw [← List.takeWhile_append_dropWhile (p := Char.isDigit) (l := r), List.all_append, hdigits,
      hrest]
    rfl
  have hpoint : isPart '.' = true := by decide
  refine (hsplit cs).2 ?_
  unfold ofChars? at h
  split at h
  rename_i fraction rest hparts
  obtain ⟨e, he⟩ : ∃ e, exponent? rest = some e := by
    simp only [] at h
    split at h
    · simp at h
    · obtain ⟨e, he, -⟩ := Option.map_eq_some_iff.mp h
      exact ⟨e, he⟩
  have hrest := all_isPart_of_exponent? he
  split at hparts
  · rename_i r hdrop
    rw [← (Prod.mk.inj hparts).2] at hrest
    rw [hdrop, List.all_cons, hpoint, (hsplit r).2 hrest]
    rfl
  · rw [← (Prod.mk.inj hparts).2] at hrest
    exact hrest

end Decimal

theorem Binary64.equals_self {x : Binary64} (h : x.isFinite = true) : x.equals x = true := by
  cases x with
  | finite negative units representable => simp [equals, compare?, place?]
  | _ => simp [isFinite] at h

namespace Value

/-- **A text that is read as a number holds nothing but the characters of numbers.** -/
theorem all_isPart_of_readNumber {cs : List Char} {x : Binary64} (h : readNumber cs = some x) :
    cs.all Decimal.isPart = true := by
  rw [readNumber, Option.filter_eq_some_iff] at h
  obtain ⟨hread, hfinite⟩ := h
  refine Decimal.all_isPart_of_takeSign ?_
  unfold Binary64.ofChars? at hread
  simp only [] at hread
  split at hread
  · rw [← Option.some.inj hread] at hfinite
    exact absurd hfinite (by simp [Binary64.isFinite])
  · rw [← Option.some.inj hread] at hfinite
    exact absurd hfinite (by simp [Binary64.isFinite])
  · rw [← Option.some.inj hread] at hfinite
    exact absurd hfinite (by simp [Binary64.isFinite])
  · obtain ⟨d, hd, -⟩ := Option.map_eq_some_iff.mp hread
    exact Decimal.all_isPart_of_ofChars? hd

/-- A number stands without blanks and without quotes. -/
theorem trim_unquote_of_readNumber {cs : List Char} {x : Binary64} (h : readNumber cs = some x) :
    Text.trim cs = cs ∧ Text.unquote cs = cs := by
  have hpart := all_isPart_of_readNumber h
  rw [List.all_eq_true] at hpart
  constructor
  · exact Text.trim_eq_self_iff.mpr
      ⟨fun c hc => (Decimal.not_isBlank_of_isPart (hpart c (List.mem_of_head? hc))).1,
        fun c hc => (Decimal.not_isBlank_of_isPart (hpart c (List.mem_of_getLast? hc))).1⟩
  · cases cs with
    | nil => rfl
    | cons c cs =>
      have hquote := (Decimal.not_isBlank_of_isPart (hpart c List.mem_cons_self)).2
      rw [Text.unquote, if_neg (by simp [hquote])]

/-! ## 2. A text and its literal -/

/-- The quotes of a literal are what is dropped from it. -/
theorem unquote_trim_literal (s : String) :
    Text.unquote (Text.trim ("'" ++ s ++ "'").toList) = s.toList := by
  have hchars : ("'" ++ s ++ "'").toList = '\x27' :: (s.toList ++ ['\x27']) := by simp
  have htrim : Text.trim ('\x27' :: (s.toList ++ ['\x27'])) = '\x27' :: (s.toList ++ ['\x27']) := by
    refine Text.trim_eq_self_iff.mpr ⟨?_, ?_⟩
    · intro c hc
      rw [List.head?_cons, Option.mem_some_iff] at hc
      rw [← hc]
      decide
    · intro c hc
      rw [← List.cons_append, List.getLast?_concat, Option.mem_some_iff] at hc
      rw [← hc]
      decide
  rw [hchars, htrim, Text.unquote_quoted (by decide)]

/-- A literal is compared as the text between its quotes, or the number that it is. -/
theorem coerce_literal (s : String) : (Value.text ("'" ++ s ++ "'")).coerce =
    match readNumber s.toList with
    | some x => .number x
    | none => .text s := by
  have hbare := unquote_trim_literal s
  cases hnumber : readNumber s.toList <;>
    simp only [coerce, ofLiteral, hbare, hnumber, String.ofList_toList]

/-- **A text equals its literal** iff it has no blank ends and no quotes around it. -/
theorem looselyEquals_literal_iff (s : String) :
    (Value.text s).looselyEquals (.text ("'" ++ s ++ "'")) = true ↔
      Text.trim s.toList = s.toList ∧ Text.unquote s.toList = s.toList := by
  have hcoerce := coerce_literal s
  constructor
  · intro h
    cases hnumber : readNumber s.toList with
    | some x => exact trim_unquote_of_readNumber hnumber
    | none =>
      simp only [hnumber] at hcoerce
      rw [looselyEquals, hcoerce, coerce, ofLiteral] at h
      cases hbare : readNumber (Text.unquote (Text.trim s.toList)) with
      | some y => simp [hbare] at h
      | none =>
        exact Text.unquote_trim_eq_self_iff.mp (by simpa [hbare, String.ext_iff] using h)
  · rintro ⟨htrim, hunquote⟩
    have hcell : (Value.text s).coerce = match readNumber s.toList with
        | some x => .number x
        | none => .text s := by
      cases hnumber : readNumber s.toList <;>
        simp only [coerce, ofLiteral, htrim, hunquote, hnumber, String.ofList_toList]
    cases hnumber : readNumber s.toList with
    | none =>
      simp only [hnumber] at hcoerce hcell
      simp [looselyEquals, hcoerce, hcell]
    | some x =>
      simp only [hnumber] at hcoerce hcell
      rw [readNumber, Option.filter_eq_some_iff] at hnumber
      simp [looselyEquals, hcoerce, hcell, Binary64.equals_self hnumber.2]

end Value
end Tabular
