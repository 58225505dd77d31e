/-
# The first record under another delimiter

The delimiter of a document is guessed when it is read, so its header may be read with another
delimiter `e` than the `d` that it was written with.  This file follows such a reader over the
first record (`headFields`), field by field.

Two facts carry it.

* A field that starts with no quote is taken as it stands up to the next `e`, so it holds none
  (`not_mem_headFields`).
* In a written header an `e` with a quote behind it stands only inside quotes (`Shielded`): the
  quotes in front of a field have a `d` before them.  A reader that has met no quote so far
  meets none at the start of the next field either (`Shielded.next`).

Together: once such a reader has passed a field without quotes, the next one holds no `e`.
-/
import Tabular.Proofs.Delimited.Records

namespace Tabular
namespace Delimited

variable {d e : Char}

/-! ## 1. The fields of the first record -/

/-- The marks of the first record of a text; `fresh` as in `marks`. -/
def headMarks (e : Char) (fresh : Bool) (text : List Char) : List Mark :=
  (marks e false fresh text).takeWhile (· ≠ .recordEnd)

/-- The fields of the first record of a text. -/
def headFields (e : Char) (fresh : Bool) (text : List Char) : List (List Char) :=
  fieldsOf (headMarks e fresh text)

theorem exists_headFields (e : Char) (fresh : Bool) (text : List Char) :
    ∃ field fields, headFields e fresh text = field :: fields := by
  refine List.exists_cons_of_ne_nil ?_
  simp [headFields, fieldsOf, List.splitOnP_ne_nil]

theorem fieldsOf_append_marks {ms : List Mark} (h : Mark.fieldEnd ∉ ms) (rest : List Mark) :
    fieldsOf (ms ++ rest) = (fieldsOf rest).modifyHead (ms.filterMap Mark.char? ++ ·) := by
  obtain ⟨part, parts, hrest⟩ :=
    List.exists_cons_of_ne_nil (List.splitOnP_ne_nil (· = Mark.fieldEnd) rest)
  have hsplit : (ms ++ rest).splitOnP (· = Mark.fieldEnd) = (ms ++ part) :: parts := by
    induction ms with
    | nil => exact hrest
    | cons m ms ih =>
      rw [List.mem_cons, not_or] at h
      have hm : ¬(m = Mark.fieldEnd) := fun hm => h.1 hm.symm
      rw [List.cons_append, List.splitOnP_cons_eq_if_modifyHead, ih h.2]
      simp [hm]
  simp [fieldsOf, hsplit, hrest]

/-- Marks that end neither a field nor a record go to the first field. -/
theorem headFields_of_marks {fresh fresh' : Bool} {text rest : List Char} {ms : List Mark}
    (hmarks : marks e false fresh text = ms ++ marks e false fresh' rest)
    (hfield : Mark.fieldEnd ∉ ms) (hrecord : Mark.recordEnd ∉ ms) :
    headFields e fresh text =
      (headFields e fresh' rest).modifyHead (ms.filterMap Mark.char? ++ ·) := by
  have htake : headMarks e fresh text = ms ++ headMarks e fresh' rest := by
    rw [headMarks, hmarks]
    refine List.takeWhile_append_of_pos ?_
    intro m hm
    simp only [ne_eq, decide_not, Bool.not_eq_true', decide_eq_false_iff_not]
    rintro rfl
    exact hrecord hm
  rw [headFields, htake, fieldsOf_append_marks hfield, headFields]

theorem headFields_delimiter (he : Separates e) (fresh : Bool) (rest : List Char) :
    headFields e fresh (e :: rest) = [] :: headFields e true rest := by
  rw [headFields, headMarks, marks_delimiter he]
  exact fieldsOf_append (List.not_mem_nil (a := Mark.fieldEnd)) _

theorem headFields_lineFeed (he : Separates e) (fresh : Bool) (rest : List Char) :
    headFields e fresh ('\n' :: rest) = [[]] := by
  simp [headFields, headMarks, marks_lineFeed he, fieldsOf]

/-- One character outside quotes. -/
theorem headFields_cons (he : Separates e) {fresh : Bool} {c : Char} {rest : List Char}
    (hstart : ¬(c = '\x22' ∧ fresh = true)) : headFields e fresh (c :: rest) =
      if c = e then [] :: headFields e true rest
      else if c = '\r' ∧ rest.head? = some '\n' then headFields e fresh rest
      else if c = '\n' then [[]]
      else (headFields e false rest).modifyHead (c :: ·) := by
  by_cases hce : c = e
  · rw [if_pos hce, hce, headFields_delimiter he]
  · by_cases hcr : c = '\r' ∧ rest.head? = some '\n'
    · rw [if_neg hce, if_pos hcr, headFields, headFields, headMarks, headMarks, marks_outside,
        if_neg hstart, if_neg hce, if_pos hcr]
    · by_cases hcn : c = '\n'
      · rw [if_neg hce, if_neg hcr, if_pos hcn, hcn, headFields_lineFeed he]
      · rw [if_neg hce, if_neg hcr, if_neg hcn]
        have hmarks : marks e false fresh (c :: rest) = [.char c] ++ marks e false false rest := by
          rw [marks_outside, if_neg hstart, if_neg hce, if_neg hcr, if_neg hcn]
          rfl
        exact headFields_of_marks hmarks (by simp) (by simp)

/-- **A field that starts with no quote holds no delimiter.** -/
theorem not_mem_headFields (he : Separates e) {text : List Char} {fresh : Bool}
    {field : List Char} {fields : List (List Char)}
    (hstart : fresh = true → text.head? ≠ some '\x22')
    (h : headFields e fresh text = field :: fields) : e ∉ field := by
  induction text generalizing fresh field fields with
  | nil =>
    have hnil : field = [] ∧ fields = [] := by
      simpa [headFields, headMarks, marks, fieldsOf] using h.symm
    simp [hnil.1]
  | cons c text ih =>
    have hc : ¬(c = '\x22' ∧ fresh = true) := fun hc => hstart hc.2 (by simp [hc.1])
    rw [headFields_cons he hc] at h
    split_ifs at h with hce hcr hcn
    · rw [List.cons.injEq] at h
      simp [← h.1]
    · refine ih ?_ h
      simp [hcr.2]
    · rw [List.cons.injEq] at h
      simp [← h.1]
    · obtain ⟨part, parts, hrest⟩ := exists_headFields e false text
      rw [hrest, List.modifyHead_cons, List.cons.injEq] at h
      have hpart := ih (by simp) hrest
      rw [← h.1, List.mem_cons, not_or]
      exact ⟨fun hec => hce hec.symm, hpart⟩

/-- A written field goes to the first field as it is, if it stands in quotes or does not hold
the delimiter. -/
theorem headFields_writeField (he : Separates e) {field : List Char}
    (hfield : isQuoted d field = true ∨ e ∉ field) (rest : List Char)
    (hrest : rest.head? ≠ some '\x22') :
    ∃ fresh', headFields e true (writeField d field ++ rest) =
      (headFields e fresh' rest).modifyHead (field ++ ·) := by
  obtain ⟨fresh', hmarks⟩ := marks_writeField (d := d) he field rest hrest
  refine ⟨fresh', ?_⟩
  have hwhole : fieldsOf (fieldMarks d e field) = [field] := by
    rw [fieldsOf_fieldMarks, parts]
    rcases hfield with hq | hm
    · rw [if_pos hq]
    · rw [List.splitOn_eq_singleton hm, ite_self]
  have hend : Mark.fieldEnd ∉ fieldMarks d e field := by
    unfold fieldMarks markOf
    split
    · simp
    · rename_i hq
      simp only [List.mem_map, not_exists, not_and]
      intro c hc
      have hce : c ≠ e := by
        rintro rfl
        exact hfield.resolve_left hq hc
      simp [hce]
  have hchars : (fieldMarks d e field).filterMap Mark.char? = field := by
    rw [fieldsOf_of_not_mem hend] at hwhole
    simpa using hwhole
  have h := headFields_of_marks hmarks hend (recordEnd_not_mem_fieldMarks field)
  rwa [hchars] at h

/-- So does a text without quotes, line breaks and delimiters. -/
theorem headFields_text (he : Separates e) {cs : List Char}
    (h : ∀ c ∈ cs, c ≠ '\x22' ∧ c ≠ '\r' ∧ c ≠ '\n') (hm : e ∉ cs) (fresh : Bool)
    (rest : List Char) : ∃ fresh', headFields e fresh (cs ++ rest) =
      (headFields e fresh' rest).modifyHead (cs ++ ·) := by
  obtain ⟨fresh', hmarks⟩ := marks_text he h fresh rest
  refine ⟨fresh', ?_⟩
  have hchar : cs.map (markOf e) = cs.map .char := by
    refine List.map_congr_left ?_
    intro c hc
    have hce : c ≠ e := by
      rintro rfl
      exact hm hc
    simp [markOf, hce]
  rw [hchar] at hmarks
  have h := headFields_of_marks hmarks (by simp) (by simp)
  rwa [filterMap_char?] at h

/-! ## 2. Quotes in a written header -/

/-- Wherever the delimiter `e` has a quote behind it, there is a quote before it. -/
def Shielded (e : Char) (text : List Char) : Prop :=
  ∀ before behind, text = before ++ e :: '\x22' :: behind → '\x22' ∈ before

theorem Shielded.drop {p text : List Char} (h : Shielded e (p ++ text)) (hp : '\x22' ∉ p) :
    Shielded e text := by
  intro before behind htext
  have hm := h (p ++ before) behind (by simp [htext])
  exact (List.mem_append.mp hm).resolve_left hp

theorem shielded_of_head (he : Separates e) {text : List Char} :
    Shielded e ('\x22' :: text) := by
  intro before behind h
  cases before with
  | nil =>
    rw [List.nil_append, List.cons.injEq] at h
    exact absurd h.1.symm he.quote
  | cons c before =>
    rw [List.cons_append, List.cons.injEq] at h
    simp [← h.1]

/-- A text without quotes shields nothing and needs nothing shielded. -/
theorem Shielded.prepend {p text : List Char} (h : Shielded e text) (hp : '\x22' ∉ p)
    (hhead : text.head? ≠ some '\x22') : Shielded e (p ++ text) := by
  induction p with
  | nil => exact h
  | cons c p ih =>
    rw [List.mem_cons, not_or] at hp
    intro before behind htext
    cases before with
    | nil =>
      have hnext : (p ++ text).head? = some '\x22' := by
        simp only [List.cons_append, List.nil_append, List.cons.injEq] at htext
        simp [htext.2]
      cases p with
      | nil => exact absurd hnext hhead
      | cons c' p =>
        rw [List.cons_append, List.head?_cons, Option.some.injEq] at hnext
        simp [hnext] at hp
    | cons c' before =>
      rw [List.cons_append, List.cons_append, List.cons.injEq] at htext
      exact List.mem_cons_of_mem _ (ih hp.2 before behind htext.2)

/-- The fields of a record as written, without the line break. -/
def joined (d : Char) (fields : List (List Char)) : List Char :=
  [d].intercalate (fields.map (writeField d))

theorem joined_cons_cons (field next : List Char) (fields : List (List Char)) :
    joined d (field :: next :: fields) = writeField d field ++ d :: joined d (next :: fields) := by
  simp [joined]

theorem writeField_of_not_isQuoted {field : List Char} (h : isQuoted d field = false) :
    writeField d field = field := by
  simp only [isQuoted] at h
  simp [writeField, h]

theorem exists_writeField_of_isQuoted {field : List Char} (h : isQuoted d field = true) :
    ∃ rest, writeField d field = '\x22' :: rest := by
  simp only [isQuoted] at h
  exact ⟨_, by rw [writeField, if_pos h]⟩

theorem quote_not_mem_of_not_isQuoted {field : List Char} (h : isQuoted d field = false) :
    '\x22' ∉ field :=
  fun hm => (ordinary_of_not_isQuoted h _ hm).2.1 rfl

/-- **In a written record quotes are shielded** from every delimiter but its own. -/
theorem shielded_joined (hd : Separates d) (he : Separates e) (hne : d ≠ e)
    (fields : List (List Char)) : Shielded e (joined d fields) := by
  induction fields with
  | nil =>
    intro before behind h
    simp [joined] at h
  | cons field fields ih =>
    cases hq : isQuoted d field with
    | true =>
      obtain ⟨rest, hw⟩ := exists_writeField_of_isQuoted hq
      cases fields with
      | nil => simpa [joined, hw] using shielded_of_head he
      | cons next fields =>
        rw [joined_cons_cons, hw]
        exact shielded_of_head he
    | false =>
      have hw := writeField_of_not_isQuoted hq
      have hquote := quote_not_mem_of_not_isQuoted hq
      cases fields with
      | nil =>
        intro before behind h
        have hm : '\x22' ∈ joined d [field] := by simp [h]
        simp only [joined, List.map_cons, List.map_nil, List.intercalate_singleton, hw] at hm
        exact absurd hm hquote
      | cons next fields =>
        rw [joined_cons_cons, hw]
        refine Shielded.prepend ?_ hquote (by simpa using hd.quote)
        intro before behind h
        cases before with
        | nil =>
          rw [List.nil_append, List.cons.injEq] at h
          exact absurd h.1 hne
        | cons c before =>
          rw [List.cons_append, List.cons.injEq] at h
          exact List.mem_cons_of_mem _ (ih before behind h.2)

/-- **Behind a field without quotes** the reader stands before no quote, and what is left is
shielded again. -/
theorem Shielded.next (he : Separates e) {text rest : List Char} (h : Shielded e text)
    {fresh : Bool} (hstart : fresh = true → text.head? ≠ some '\x22') {field next : List Char}
    {fields : List (List Char)}
    (hread : headFields e fresh (text ++ '\n' :: rest) = field :: next :: fields)
    (hquote : '\x22' ∉ field) :
    ∃ text', headFields e true (text' ++ '\n' :: rest) = next :: fields ∧ Shielded e text' ∧
      text'.head? ≠ some '\x22' := by
  induction text generalizing fresh field with
  | nil => simp [headFields_lineFeed he] at hread
  | cons c text ih =>
    have hc : ¬(c = '\x22' ∧ fresh = true) := fun hc => hstart hc.2 (by simp [hc.1])
    rw [List.cons_append, headFields_cons he hc] at hread
    split_ifs at hread with hce hcr hcn
    · rw [List.cons.injEq] at hread
      refine ⟨text, hread.2, h.drop (p := [c]) ?_, ?_⟩
      · simpa [hce] using he.quote.symm
      · intro hhead
        obtain ⟨behind, rfl⟩ := List.head?_eq_some_iff.mp hhead
        have := h [] behind (by simp [hce])
        simp at this
    · refine ih (h.drop (p := [c]) (by simp [hcr.1])) ?_ hread hquote
      intro _ hhead
      have := hcr.2
      simp [List.head?_append, hhead] at this
    · simp at hread
    · obtain ⟨part, parts, hrest⟩ := exists_headFields e false (text ++ '\n' :: rest)
      rw [hrest, List.modifyHead_cons, List.cons.injEq] at hread
      obtain ⟨hfield, rfl⟩ := hread
      rw [← hfield, List.mem_cons, not_or] at hquote
      exact ih (h.drop (p := [c]) (by simpa using hquote.1)) (by simp) hrest hquote.2

end Delimited
end Tabular
