/-
# Blank lines between records

Blank lines are skipped wherever a record starts, except in front of the header: a document whose
first line is blank is taken for an empty one, before any record is read.

A place of a text is described by the part in front of it.  A record starts behind this part
(`StartsRecord`) if nothing was read so far, or if the last thing read is the end of a record; a
line break inside quotes is no such end.  What is behind such a place is read as if it stood
alone (`records_append`), and blank lines alone have no records (`records_blank`).

**`ofText_insert_blankLines`** puts this together with the look at the first line, and says which
insertions change a document.  What is lost then is a whole table, `blankLine_hides_table`.
-/
import Tabular.Proofs.Delimited.Lines
import Tabular.Proofs.Delimited.Rereading

namespace Tabular
namespace Delimited

variable {d : Char} {pre lines post text : List Char}

/-! ## 1. Starts of records -/

/-- Does a record start behind `pre`? -/
def StartsRecord (d : Char) (pre : List Char) : Prop :=
  pre = [] ∨ (marks d false true pre).getLast? = some .recordEnd

instance : Decidable (StartsRecord d pre) :=
  inferInstanceAs (Decidable (_ ∨ _))

theorem eq_nil_of_marks {fresh : Bool} (h : marks d false fresh text = []) : text = [] := by
  induction text with
  | nil => rfl
  | cons c text ih =>
    rw [marks_outside] at h
    split_ifs at h with hquote hdelimiter hreturn
    have htext : text = [] := ih h
    simp [htext] at hreturn

theorem getLast?_of_cons {m : Mark} {ms : List Mark} (hm : m ≠ .recordEnd)
    (h : (m :: ms).getLast? = some .recordEnd) : ms.getLast? = some .recordEnd := by
  cases ms with
  | nil => exact absurd (by simpa using h) hm
  | cons m' ms => rwa [List.getLast?_cons_cons] at h

/-- Where a record ends, there is more text to look at before. -/
theorem ne_nil_of_getLast?_marks {quoted fresh : Bool}
    (h : (marks d quoted fresh text).getLast? = some .recordEnd) : text ≠ [] := by
  rintro rfl
  simp [marks] at h

/-- **Behind the end of a record reading starts anew**, with no quote open. -/
theorem marks_append (quoted fresh : Bool)
    (h : (marks d quoted fresh pre).getLast? = some .recordEnd) (rest : List Char) :
    marks d quoted fresh (pre ++ rest) =
      marks d quoted fresh pre ++ marks d false true rest := by
  fun_induction marks d quoted fresh pre with
  | case1 => simp at h
  | case2 fresh more ih =>
    rw [List.cons_append, List.cons_append, marks_double, ih (getLast?_of_cons (by simp) h),
      List.cons_append]
  | case3 fresh more hmore ih =>
    -- The character behind the quote tells whether it closes, and it is one of `pre`.
    obtain ⟨c, more, rfl⟩ := List.exists_cons_of_ne_nil (ne_nil_of_getLast?_marks h)
    have hc : (c :: more ++ rest).head? ≠ some '\x22' := by
      simpa using fun hc => hmore more (by rw [hc])
    rw [List.cons_append, marks_close fresh hc, ih h]
  | case4 fresh c more hdouble hc ih =>
    rw [List.cons_append, marks_inside fresh hc, ih (getLast?_of_cons (by simp) h),
      List.cons_append]
  | case5 fresh c more hopen ih =>
    rw [List.cons_append, marks_outside, if_pos hopen, ih (getLast?_of_cons (by simp) h),
      List.cons_append]
  | case6 fresh more hopen ih =>
    rw [List.cons_append, marks_outside, if_neg hopen, if_pos rfl,
      ih (getLast?_of_cons (by simp) h), List.cons_append]
  | case7 fresh c more hopen hdelimiter hreturn ih =>
    have hreturn' : c = '\r' ∧ (more ++ rest).head? = some '\n' := by
      obtain ⟨more, rfl⟩ := List.head?_eq_some_iff.mp hreturn.2
      exact ⟨hreturn.1, rfl⟩
    rw [List.cons_append, marks_outside, if_neg hopen, if_neg hdelimiter, if_pos hreturn', ih h]
  | case8 fresh more hopen hdelimiter hreturn ih =>
    have hmore : marks d false true (more ++ rest) =
        marks d false true more ++ marks d false true rest := by
      cases hms : marks d false true more with
      | nil => rw [eq_nil_of_marks hms, List.nil_append, List.nil_append]
      | cons m ms =>
        rw [hms, List.getLast?_cons_cons] at h
        rw [← hms, ih (by rw [hms, h])]
    rw [List.cons_append, marks_outside, if_neg hopen, if_neg hdelimiter,
      if_neg (by simp), if_pos rfl, hmore, List.cons_append]
  | case9 fresh c more hopen hdelimiter hreturn hfeed ih =>
    have h := getLast?_of_cons (by simp) h
    obtain ⟨x, more, rfl⟩ := List.exists_cons_of_ne_nil (ne_nil_of_getLast?_marks h)
    rw [List.cons_append, marks_outside, if_neg hopen, if_neg hdelimiter,
      if_neg (by simpa using hreturn), if_neg hfeed, ih h, List.cons_append]

/-- A record ends at a line break. -/
theorem lineFeed_mem_of_recordEnd_mem {quoted fresh : Bool}
    (h : Mark.recordEnd ∈ marks d quoted fresh text) : '\n' ∈ text := by
  fun_induction marks d quoted fresh text <;> simp_all

/-- **What stands behind a start of a record is read as if it stood alone.** -/
theorem records_append (h : StartsRecord d pre) (rest : List Char) :
    records d (pre ++ rest) = records d pre ++ records d rest := by
  have hnil : recordsOf [] = [] := rfl
  rcases h with rfl | h
  · have hempty : records d [] = recordsOf [] := by simp only [records, recordsOf, marks]
    rw [hempty, hnil, List.nil_append, List.nil_append]
  · obtain ⟨ms, hms⟩ := List.getLast?_eq_some_iff.mp h
    have hpre : records d pre = recordsOf ms := by
      change recordsOf (marks d false true pre) = _
      rw [hms, recordsOf_append, hnil, List.append_nil]
    change recordsOf (marks d false true (pre ++ rest)) = _
    rw [marks_append false true h, hpre, hms, List.append_assoc, List.singleton_append,
      recordsOf_append]
    rfl

/-! ## 2. Blank lines -/

/-- Whole lines of blanks, in front of `post`.  A delimiter is no blank here, and only at the end
of the text may a line break be missing. -/
structure BlankLines (d : Char) (lines post : List Char) : Prop where
  blank : ∀ c ∈ lines, Text.isBlank c = true ∧ c ≠ d
  whole : lines = [] ∨ lines.getLast? = some '\n' ∨ post = []

/-- Lines that are empty or hold only spaces, with either line break, are blank lines. -/
theorem blankLines_spaces (hd : d ∈ Document.candidates) {spaces : List (List Char)}
    (h : ∀ line ∈ spaces, ∃ n, line = List.replicate n ' ' ++ ['\n'] ∨
      line = List.replicate n ' ' ++ ['\r', '\n']) (post : List Char) :
    BlankLines d spaces.flatten post := by
  have hparts : ∀ c, c = ' ' ∨ c = '\r' ∨ c = '\n' → Text.isBlank c = true ∧ c ≠ d := by
    simp only [Document.candidates, List.mem_cons, List.not_mem_nil, or_false] at hd
    rintro c (rfl | rfl | rfl) <;> rcases hd with rfl | rfl | rfl <;> decide
  constructor
  · intro c hc
    obtain ⟨line, hline, hc⟩ := List.mem_flatten.mp hc
    refine hparts c ?_
    obtain ⟨n, rfl | rfl⟩ := h line hline
    · simp only [List.mem_append, List.mem_replicate, List.mem_singleton] at hc
      tauto
    · simp only [List.mem_append, List.mem_replicate, List.mem_cons, List.not_mem_nil] at hc
      tauto
  · rcases List.eq_nil_or_concat spaces with rfl | ⟨front, line, rfl⟩
    · exact Or.inl rfl
    · refine Or.inr (Or.inl ?_)
      obtain ⟨n, rfl | rfl⟩ := h line (by simp) <;> simp

theorem quote_notMem_of_blank (h : ∀ c ∈ text, Text.isBlank c = true ∧ c ≠ d) :
    '\x22' ∉ text :=
  fun hmem => absurd (h _ hmem).1 (by decide)

/-- **Blank lines have no records.** -/
theorem records_blank (hd : Separates d) (h : ∀ c ∈ text, Text.isBlank c = true ∧ c ≠ d) :
    records d text = [] := by
  rw [records_eq_plainRecords hd (quote_notMem_of_blank h), plainRecords, List.map_eq_nil_iff,
    List.filter_eq_nil_iff]
  intro line hline
  have hblank : Text.isBlankText line = true :=
    List.all_eq_true.mpr fun c hc => (h c (mem_of_mem_lines hline hc)).1
  have hdelimiter : d ∉ line := fun hmem => (h d (mem_of_mem_lines hline hmem)).2 rfl
  simp [hdelimiter, Text.trim_eq_nil_iff, hblank]

/-- Behind a line break a record starts, if there was no quote before. -/
theorem startsRecord_of_unquoted (hd : Separates d) (hquote : '\x22' ∉ text)
    (hlast : text.getLast? = some '\n') : StartsRecord d text := by
  suffices hmarks : ∀ fresh, (marks d false fresh text).getLast? = some .recordEnd from
    Or.inr (hmarks true)
  induction text with
  | nil => simp at hlast
  | cons c text ih =>
    intro fresh
    rw [List.mem_cons, not_or] at hquote
    cases text with
    | nil =>
      obtain rfl : c = '\n' := by simpa using hlast
      rw [marks_lineFeed hd]
      simp [marks]
    | cons x text =>
      rw [List.getLast?_cons_cons] at hlast
      have hmarks := ih hquote.2 hlast
      rw [marks_outside, if_neg fun h => hquote.1 h.1.symm]
      have hcons : ∀ (m : Mark) (fresh' : Bool),
          (m :: marks d false fresh' (x :: text)).getLast? = some .recordEnd := by
        intro m fresh'
        rw [List.getLast?_cons, hmarks fresh', Option.getD_some]
      split_ifs
      · exact hcons _ _
      · exact hmarks _
      · exact hcons _ _
      · exact hcons _ _

/-- **Blank lines in front of a text do not change what is read of it.** -/
theorem records_blankLines_append (hd : Separates d) (h : BlankLines d lines post) :
    records d (lines ++ post) = records d post := by
  rcases h.whole with rfl | hlast | rfl
  · rfl
  · have hstart := startsRecord_of_unquoted hd (quote_notMem_of_blank h.blank) hlast
    rw [records_append hstart, records_blank hd h.blank, List.nil_append]
  · rw [List.append_nil, records_blank hd h.blank, records_blank hd (by simp)]

end Delimited

namespace Document

open Delimited

variable {d : Char} {pre lines post : List Char}

/-! ## 3. Documents -/

/-- The first line ends before what stands behind a line break. -/
theorem firstLine_append_of_mem {front : List Char} (h : '\n' ∈ front) (rest : List Char) :
    firstLine (front ++ rest) = firstLine front := by
  obtain ⟨line, behind, rfl⟩ := List.append_of_mem h
  rw [List.append_assoc, List.cons_append, firstLine_append_lineFeed, firstLine_append_lineFeed]

theorem isBlankText_firstLine (h : BlankLines d lines post) (hne : lines ≠ []) :
    Text.isBlankText (firstLine (lines ++ post)) = true := by
  have hfirst : firstLine (lines ++ post) = firstLine lines := by
    rcases h.whole with hnil | hlast | rfl
    · exact absurd hnil hne
    · exact firstLine_append_of_mem (List.mem_of_getLast? hlast) post
    · rw [List.append_nil]
  rw [hfirst]
  exact List.all_eq_true.mpr fun c hc => (h.blank c ((List.takeWhile_prefix _).subset hc)).1

/-- **Blank lines in front of the header**, with byte order marks before them at most. -/
theorem ofText_blankLines_first (hlines : BlankLines d lines post) (hne : lines ≠ [])
    (hpre : ∀ c ∈ pre, c = '\ufeff') :
    ofText (String.ofList (pre ++ (lines ++ post))) = ⟨[], ',', []⟩ := by
  have hdrop : (pre ++ (lines ++ post)).dropWhile (· = '\ufeff') = lines ++ post := by
    rw [List.dropWhile_append_of_pos (by simpa using hpre)]
    obtain ⟨c, more, rfl⟩ := List.exists_cons_of_ne_nil hne
    have hc : c ≠ '\ufeff' := by
      rintro rfl
      exact absurd (hlines.blank _ List.mem_cons_self).1 (by decide)
    rw [List.cons_append, List.dropWhile_cons_of_neg (by simpa using hc)]
  rw [ofText_ofList_eq, hdrop, if_pos (isBlankText_firstLine hlines hne)]

/-- **Blank lines behind the header line.** -/
theorem ofText_blankLines_behind (hd : d = delimiterOf (firstLine (pre ++ post)))
    (hstart : StartsRecord d (pre.dropWhile (· = '\ufeff'))) (hlines : BlankLines d lines post)
    (hpre : ∃ c ∈ pre, c ≠ '\ufeff') :
    ofText (String.ofList (pre ++ (lines ++ post))) = ofText (String.ofList (pre ++ post)) := by
  have hfront : pre.dropWhile (· = '\ufeff') ≠ [] := by
    obtain ⟨c, hc, hne⟩ := hpre
    intro hnil
    exact hne (by simpa using List.dropWhile_eq_nil_iff.mp hnil c hc)
  have hdrop : ∀ rest, (pre ++ rest).dropWhile (· = '\ufeff') =
      pre.dropWhile (· = '\ufeff') ++ rest := by
    intro rest
    rw [List.dropWhile_append, if_neg (by simpa [List.isEmpty_iff] using hfront)]
  have hfeed : '\n' ∈ pre.dropWhile (· = '\ufeff') := by
    rcases hstart with hnil | hlast
    · exact absurd hnil hfront
    · exact lineFeed_mem_of_recordEnd_mem (List.mem_of_getLast? hlast)
  -- Both texts have one first line, and the records of one text are those of the other.
  have hfirst : firstLine (pre ++ (lines ++ post)) = firstLine (pre ++ post) := by
    have hpre : '\n' ∈ pre := (List.dropWhile_suffix _).subset hfeed
    rw [firstLine_append_of_mem hpre, firstLine_append_of_mem hpre]
  have hrecords : records d (pre.dropWhile (· = '\ufeff') ++ (lines ++ post)) =
      records d (pre.dropWhile (· = '\ufeff') ++ post) := by
    have hsep : Separates d := hd ▸ separates_of_mem_candidates (delimiterOf_mem_candidates _)
    rw [records_append hstart, records_append hstart, records_blankLines_append hsep hlines]
  rw [ofText_ofList_eq, ofText_ofList_eq, hdrop, hdrop, firstLine_append_of_mem hfeed,
    firstLine_append_of_mem hfeed, hfirst, ← hd, hrecords]

/-- **Which blank lines change a document**: those in front of the header, unless the document is
empty anyway.  With them it becomes empty; all others leave it as it is. -/
theorem ofText_insert_blankLines (hd : d = delimiterOf (firstLine (pre ++ post)))
    (hstart : StartsRecord d (pre.dropWhile (· = '\ufeff'))) (hlines : BlankLines d lines post) :
    let before := ofText (String.ofList (pre ++ post))
    let after := ofText (String.ofList (pre ++ (lines ++ post)))
    (lines = [] ∨ (∃ c ∈ pre, c ≠ '\ufeff') → after = before) ∧
      (lines ≠ [] → (∀ c ∈ pre, c = '\ufeff') → after = ⟨[], ',', []⟩) ∧
      (after.columns = before.columns ∧ after.rows = before.rows ↔
        lines = [] ∨ (∃ c ∈ pre, c ≠ '\ufeff') ∨ before.columns = []) := by
  intro before after
  have hsame : lines = [] ∨ (∃ c ∈ pre, c ≠ '\ufeff') → after = before := by
    rintro (rfl | hpre)
    · rfl
    · exact ofText_blankLines_behind hd hstart hlines hpre
  have hempty : lines ≠ [] → (∀ c ∈ pre, c = '\ufeff') → after = ⟨[], ',', []⟩ := by
    intro hne hpre
    exact ofText_blankLines_first hlines hne hpre
  refine ⟨hsame, hempty, ?_⟩
  by_cases hskipped : lines = [] ∨ ∃ c ∈ pre, c ≠ '\ufeff'
  · rw [hsame hskipped, ← or_assoc]
    exact iff_of_true ⟨rfl, rfl⟩ (Or.inl hskipped)
  · rw [not_or] at hskipped
    rw [hempty hskipped.1 (by simpa using hskipped.2)]
    constructor
    · rintro ⟨hcolumns, -⟩
      exact Or.inr (Or.inr hcolumns.symm)
    · intro h
      have hcolumns : before.columns = [] := (h.resolve_left hskipped.1).resolve_left hskipped.2
      exact ⟨hcolumns.symm, ((tidy_ofText _).rows_eq_nil hcolumns).symm⟩

/-- Blank lines between rows, one of them with a space, in a text with a byte order mark and a line
break inside quotes. -/
theorem ofText_insert_blankLines_between :
    let pre := "\ufeffa,b\n\x22x\ny\x22,1\n".toList
    ofText (String.ofList (pre ++ (["\n".toList, " \r\n".toList].flatten ++ "z,2".toList))) =
      ofText (String.ofList (pre ++ "z,2".toList)) := by
  intro pre
  have hstart : StartsRecord ',' (pre.dropWhile (· = '\ufeff')) := by decide
  have hlines : BlankLines ',' ["\n".toList, " \r\n".toList].flatten "z,2".toList := by
    refine blankLines_spaces (by decide) (fun line hline => ?_) _
    rcases List.mem_cons.mp hline with rfl | hline
    · exact ⟨0, Or.inl rfl⟩
    · exact ⟨1, Or.inr (List.mem_singleton.mp hline)⟩
  have hd : ',' = delimiterOf (firstLine (pre ++ "z,2".toList)) := by decide
  have hbehind : ∃ c ∈ pre, c ≠ '\ufeff' := ⟨'a', by decide, by decide⟩
  exact (ofText_insert_blankLines hd hstart hlines).1 (Or.inr hbehind)

/-- A table with a blank line in front has no columns and no rows, and the next row that comes is
the only one. -/
theorem blankLine_hides_table :
    (ofText "a,b\n1,2\n").columns = ["a", "b"] ∧
      (ofText "a,b\n1,2\n").rows = [Row.ofList [("a", .text "1"), ("b", .text "2")]] ∧
      (ofText "\na,b\n1,2\n").columns = [] ∧ (ofText "\na,b\n1,2\n").rows = [] ∧
      ((ofText "\na,b\n1,2\n").append (Row.ofList [("c", .text "3")])).toText = "c\n3\n" := by
  decide

end Document
end Tabular
