/-
# Texts without quotes

Where no quote stands in a text, reading its records is plain splitting: the text is split into
lines, lines that are blank and hold no delimiter are left out, and every other line is split at the
delimiters (**`records_of_unquoted`**).  A line ends with a line feed, and a carriage return in
front of the line feed belongs to the end of the line.  Any other carriage return is a character
like all others, at the end of the text too.

The reader drops a carriage return when it sees the line feed behind it, one character ahead; in
`lines` the text is split at line feeds first, and then the carriage returns at the ends are dropped.
`lines_cons` shows that this is the same, character by character, and `splitOnP_marks` follows the
reader along the text with it.
-/
import Tabular.Proofs.Delimited.OnePass

namespace Tabular
namespace Delimited

variable {d : Char} {text line : List Char}

/-! ## 1. Lines -/

/-- A line without a carriage return at its end. -/
def dropCarriage (line : List Char) : List Char :=
  if line.getLast? = some '\r' then line.dropLast else line

/-- The parts between line feeds as lines: all but the last one were ended by a line feed, which
may have a carriage return before it. -/
def endLines : List (List Char) → List (List Char)
  | [] => []
  | [last] => [last]
  | line :: next :: more => dropCarriage line :: endLines (next :: more)

/-- The lines of a text.  Behind the last line break stands one more, which may be empty. -/
def lines (text : List Char) : List (List Char) := endLines (text.splitOn '\n')

theorem dropCarriage_cons (c : Char) (hne : line ≠ []) :
    dropCarriage (c :: line) = c :: dropCarriage line := by
  have hlast : (c :: line).getLast? = line.getLast? := by
    cases line with
    | nil => exact absurd rfl hne
    | cons x line => rw [List.getLast?_cons_cons]
  have hdrop : (c :: line).dropLast = c :: line.dropLast := by
    cases line with
    | nil => exact absurd rfl hne
    | cons x line => rfl
  rw [dropCarriage, dropCarriage, hlast, hdrop]
  split <;> rfl

theorem head?_of_splitOn_nil_cons {x : Char} {next : List Char} {more : List (List Char)}
    (h : text.splitOn x = [] :: next :: more) : text.head? = some x := by
  cases text with
  | nil => simp at h
  | cons c text =>
    rw [List.splitOn_cons_eq_if_modifyHead] at h
    split_ifs at h with hc
    · simpa using hc
    · cases hs : text.splitOn x with
      | nil => exact absurd hs (List.splitOn_ne_nil _ _)
      | cons part parts => simp [hs] at h

/-- **The lines of a text, character by character.** -/
theorem lines_cons (c : Char) (text : List Char) :
    lines (c :: text) =
      if c = '\n' then [] :: lines text
      else if c = '\r' ∧ text.head? = some '\n' then lines text
      else (lines text).modifyHead (c :: ·) := by
  obtain ⟨part, parts, hparts⟩ := List.exists_cons_of_ne_nil (List.splitOn_ne_nil '\n' text)
  rw [lines, lines, List.splitOn_cons_eq_if_modifyHead, hparts]
  by_cases hfeed : c = '\n'
  · rw [if_pos (beq_iff_eq.mpr hfeed), if_pos hfeed]
    rfl
  · rw [if_neg (by simpa using hfeed), if_neg hfeed]
    by_cases hreturn : c = '\r' ∧ text.head? = some '\n'
    · obtain ⟨rest, rfl⟩ := List.head?_eq_some_iff.mp hreturn.2
      rw [List.splitOn_cons_eq_if_modifyHead, if_pos (by simp)] at hparts
      obtain ⟨rfl, hrest⟩ := List.cons_eq_cons.mp hparts
      cases parts with
      | nil => exact absurd hrest (List.splitOn_ne_nil _ _)
      | cons next more => simp [endLines, dropCarriage, hreturn.1]
    · rw [if_neg hreturn]
      cases parts with
      | nil => rfl
      | cons next more =>
        by_cases hne : part = []
        · -- Only in front of a line feed does a carriage return end the line.
          have hnext := head?_of_splitOn_nil_cons (hne ▸ hparts)
          have hc : c ≠ '\r' := fun hc => hreturn ⟨hc, hnext⟩
          simp [endLines, hne, dropCarriage, hc]
        · simp [endLines, dropCarriage_cons c hne]

/-- A line holds characters of the text. -/
theorem mem_of_mem_lines {c : Char} (hline : line ∈ lines text) (hc : c ∈ line) : c ∈ text := by
  induction text generalizing line with
  | nil =>
    have hnil : lines [] = [[]] := rfl
    rw [hnil, List.mem_singleton] at hline
    exact absurd (hline ▸ hc) List.not_mem_nil
  | cons x text ih =>
    rw [lines_cons] at hline
    split_ifs at hline
    · rcases List.mem_cons.mp hline with rfl | hline
      · exact absurd hc List.not_mem_nil
      · exact List.mem_cons_of_mem _ (ih hline hc)
    · exact List.mem_cons_of_mem _ (ih hline hc)
    · cases hlines : lines text with
      | nil => simp [hlines] at hline
      | cons first more =>
        rw [hlines, List.modifyHead_cons] at hline
        rcases List.mem_cons.mp hline with rfl | hline
        · rcases List.mem_cons.mp hc with rfl | hc
          · exact List.mem_cons_self
          · exact List.mem_cons_of_mem _ (ih (hlines ▸ List.mem_cons_self) hc)
        · exact List.mem_cons_of_mem _ (ih (hlines ▸ List.mem_cons_of_mem _ hline) hc)

/-! ## 2. Reading without quotes -/

/-- **Without quotes the records of a text are its lines**, and every character of a line is an end
of a field or belongs to one. -/
theorem splitOnP_marks (hd : Separates d) (h : '\x22' ∉ text) (fresh : Bool) :
    (marks d false fresh text).splitOnP (· = .recordEnd) =
      (lines text).map (·.map (markOf d)) := by
  induction text generalizing fresh with
  | nil => rfl
  | cons c text ih =>
    rw [List.mem_cons, not_or] at h
    have hquote : ¬(c = '\x22' ∧ fresh = true) := fun hc => h.1 hc.1.symm
    have hchar : ∀ (m : Mark) (fresh' : Bool), m ≠ .recordEnd → m = markOf d c →
        (m :: marks d false fresh' text).splitOnP (· = .recordEnd) =
          ((lines text).modifyHead (c :: ·)).map (·.map (markOf d)) := by
      rintro m fresh' hm rfl
      rw [List.splitOnP_cons_eq_if_modifyHead, if_neg (by simpa using hm), ih h.2]
      cases lines text <;> rfl
    rw [marks_outside, if_neg hquote, lines_cons]
    by_cases hdelimiter : c = d
    · have hfeed : c ≠ '\n' := hdelimiter ▸ hd.lineFeed
      have hreturn : c ≠ '\r' := hdelimiter ▸ hd.carriage
      rw [if_pos hdelimiter, if_neg hfeed, if_neg fun hr => hreturn hr.1]
      exact hchar _ _ (by simp) (by rw [markOf, if_pos hdelimiter])
    · rw [if_neg hdelimiter]
      by_cases hreturn : c = '\r' ∧ text.head? = some '\n'
      · have hfeed : c ≠ '\n' := by
          rw [hreturn.1]
          decide
        rw [if_pos hreturn, if_neg hfeed, if_pos hreturn]
        exact ih h.2 fresh
      · rw [if_neg hreturn, if_neg hreturn]
        by_cases hfeed : c = '\n'
        · rw [if_pos hfeed, if_pos hfeed, List.splitOnP_cons_eq_if_modifyHead, if_pos (by simp),
            ih h.2]
          rfl
        · rw [if_neg hfeed, if_neg hfeed]
          exact hchar _ _ (by simp) (by rw [markOf, if_neg hdelimiter])

/-- The records of a text without quotes: its lines, but for blank ones without a delimiter, each
split at every delimiter. -/
def plainRecords (d : Char) (text : List Char) : List (List (List Char)) :=
  ((lines text).filter fun line => d ∈ line ∨ Text.trim line ≠ []).map (·.splitOn d)

/-- Marking a text without quotes and splitting the marks is splitting the text. -/
theorem records_eq_plainRecords (hd : Separates d) (h : '\x22' ∉ text) :
    records d text = plainRecords d text := by
  have hkept : ∀ line ∈ lines text, ((!isBlankLine ·) ∘ List.map (markOf d)) line =
      decide (d ∈ line ∨ Text.trim line ≠ []) := by
    intro line _
    simp only [Function.comp_apply, isBlankLine_map_markOf, ne_eq, Text.trim_eq_nil_iff]
    by_cases hmem : d ∈ line <;> simp [hmem]
  rw [records, splitOnP_marks hd h, List.filter_map, List.map_map, List.filter_congr hkept,
    plainRecords]
  exact List.map_congr_left fun line _ => fieldsOf_map_markOf line

/-- **Without quotes reading is splitting**: into lines, and each line into fields. -/
theorem records_of_unquoted (hd : d ∈ Document.candidates) (h : '\x22' ∉ text) :
    Reader.read d text = plainRecords d text ∧ records d text = plainRecords d text := by
  have hrecords := records_eq_plainRecords (Document.separates_of_mem_candidates hd) h
  exact ⟨by rw [Reader.read_eq_records, hrecords], hrecords⟩

/-- Both kinds of line breaks, blank lines, lone carriage returns, and no line break at the end. -/
theorem records_of_unquoted_breaks :
    Reader.read '|' "a|b\r\n\n \t\r\n|\nx\ry\r\r\n|z\r".toList =
        [["a".toList, "b".toList], [[], []], ["x\ry\r".toList], [[], "z\r".toList]] ∧
      records '|' "a|b\r\n\n \t\r\n|\nx\ry\r\r\n|z\r".toList =
        [["a".toList, "b".toList], [[], []], ["x\ry\r".toList], [[], "z\r".toList]] := by
  have hplain : plainRecords '|' "a|b\r\n\n \t\r\n|\nx\ry\r\r\n|z\r".toList =
      [["a".toList, "b".toList], [[], []], ["x\ry\r".toList], [[], "z\r".toList]] := by
    decide
  rw [← hplain]
  exact records_of_unquoted (by decide) (by decide)

end Delimited
end Tabular
