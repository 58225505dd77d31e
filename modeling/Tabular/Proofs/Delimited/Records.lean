/-
# What is written is read back

The text of a record is made by `writeRecord`; `records` reads it.  This file says what is read
from written records, for two questions that differ in the delimiter of the reader.

* **The same delimiter** (`records_flatMap_writeRecord`).  Every record comes back field by
  field, whatever characters the fields hold, with one exception: a record of a single blank
  field that needs no quotes is a blank line, and blank lines are skipped (`vanishes`).
* **Another delimiter**, for records of a single field (`records_flatMap_writeRecord_single`).
  A field in quotes comes back as it is; any other is split at the reader's delimiter.

Both go through the marks of a field (`fieldMarks`).  A reader is in a known state only before
and behind a whole written field, so the lemmas on marks speak of a field with any rest behind
it, and leave open whether the reader is fresh there (`fresh'`): a delimiter or a line break is
next, and those mean the same in either case.
-/
import Tabular.Delimited.Records
import Mathlib.Data.List.Basic

namespace Tabular
namespace Delimited

variable {d e : Char}

/-! ## 1. What single characters mean -/

/-- A character that can part fields: no quote and no part of a line break. -/
structure Separates (d : Char) : Prop where
  quote : d ≠ '\x22'
  lineFeed : d ≠ '\n'
  carriage : d ≠ '\r'

theorem marks_double (fresh : Bool) (rest : List Char) :
    marks d true fresh ('\x22' :: '\x22' :: rest) = .char '\x22' :: marks d true false rest := by
  simp [marks]

theorem marks_close (fresh : Bool) {rest : List Char} (h : rest.head? ≠ some '\x22') :
    marks d true fresh ('\x22' :: rest) = marks d false fresh rest := by
  cases rest with
  | nil => simp [marks]
  | cons c rest =>
    have hc : c ≠ '\x22' := by simpa using h
    rw [marks]
    simp [hc]

theorem marks_inside (fresh : Bool) {c : Char} (hc : c ≠ '\x22') (rest : List Char) :
    marks d true fresh (c :: rest) = .char c :: marks d true false rest := by
  rw [marks]
  · exact fun r => by simp [hc]
  · exact hc

theorem marks_outside (fresh : Bool) (c : Char) (rest : List Char) :
    marks d false fresh (c :: rest) =
      if c = '\x22' ∧ fresh then .opening :: marks d true fresh rest
      else if c = d then .fieldEnd :: marks d false true rest
      else if c = '\r' ∧ rest.head? = some '\n' then marks d false fresh rest
      else if c = '\n' then .recordEnd :: marks d false true rest
      else .char c :: marks d false false rest := by
  rw [marks]

theorem marks_delimiter (hd : Separates d) (fresh : Bool) (rest : List Char) :
    marks d false fresh (d :: rest) = .fieldEnd :: marks d false true rest := by
  simp [marks_outside, hd.quote]

theorem marks_lineFeed (hd : Separates d) (fresh : Bool) (rest : List Char) :
    marks d false fresh ('\n' :: rest) = .recordEnd :: marks d false true rest := by
  simp [marks_outside, hd.lineFeed.symm]

/-- What a character outside quotes means if it is neither a quote nor a part of a line
break. -/
def markOf (d c : Char) : Mark := if c = d then .fieldEnd else .char c

theorem marks_ordinary (hd : Separates d) (fresh : Bool) {c : Char} (hq : c ≠ '\x22')
    (hr : c ≠ '\r') (hn : c ≠ '\n') (rest : List Char) :
    marks d false fresh (c :: rest) = markOf d c :: marks d false (c = d) rest := by
  rw [marks_outside, markOf]
  by_cases h : c = d <;> simp [h, hq, hr, hn, hd.quote]

/-! ## 2. The marks of a field -/

/-- Must a field stand in quotes? -/
def isQuoted (d : Char) (field : List Char) : Bool := field.any (isSpecial d)

/-- The marks of a field that was written for the delimiter `d`, when it is read with `e`. -/
def fieldMarks (d e : Char) (field : List Char) : List Mark :=
  if isQuoted d field then .opening :: field.map .char else field.map (markOf e)

theorem ordinary_of_not_isQuoted {field : List Char} (h : isQuoted d field = false) :
    ∀ c ∈ field, c ≠ d ∧ c ≠ '\x22' ∧ c ≠ '\r' ∧ c ≠ '\n' := by
  intro c hc
  have hs := List.any_eq_false.mp h c hc
  simp only [isSpecial, Bool.or_eq_true, decide_eq_true_eq, not_or] at hs
  tauto

theorem delimiter_not_mem_of_not_isQuoted {field : List Char} (h : isQuoted d field = false) :
    d ∉ field :=
  fun hm => (ordinary_of_not_isQuoted h d hm).1 rfl

/-- Inside quotes every character belongs to the field; a doubled quote counts once. -/
theorem marks_body (field : List Char) (fresh : Bool) {rest : List Char}
    (h : rest.head? ≠ some '\x22') :
    ∃ fresh', marks e true fresh (field.flatMap double ++ '\x22' :: rest) =
      field.map .char ++ marks e false fresh' rest := by
  induction field generalizing fresh with
  | nil => exact ⟨fresh, by simp [marks_close fresh h]⟩
  | cons c field ih =>
    obtain ⟨fresh', hf⟩ := ih false
    refine ⟨fresh', ?_⟩
    by_cases hc : c = '\x22'
    · subst hc
      simp [double, marks_double, hf]
    · simp [double, hc, marks_inside fresh hc, hf]

/-- A text without quotes and line breaks is read character by character. -/
theorem marks_text (he : Separates e) {cs : List Char}
    (h : ∀ c ∈ cs, c ≠ '\x22' ∧ c ≠ '\r' ∧ c ≠ '\n') (fresh : Bool) (rest : List Char) :
    ∃ fresh', marks e false fresh (cs ++ rest) =
      cs.map (markOf e) ++ marks e false fresh' rest := by
  induction cs generalizing fresh with
  | nil => exact ⟨fresh, rfl⟩
  | cons c cs ih =>
    obtain ⟨hq, hr, hn⟩ := h c List.mem_cons_self
    obtain ⟨fresh', hf⟩ := ih (fun x hx => h x (List.mem_cons_of_mem _ hx)) (c = e)
    exact ⟨fresh', by simp [marks_ordinary he fresh hq hr hn, hf]⟩

theorem marks_writeField (he : Separates e) (field rest : List Char)
    (h : rest.head? ≠ some '\x22') :
    ∃ fresh', marks e false true (writeField d field ++ rest) =
      fieldMarks d e field ++ marks e false fresh' rest := by
  unfold writeField fieldMarks
  cases hq : isQuoted d field with
  | true =>
    obtain ⟨fresh', hf⟩ := marks_body (e := e) field true h
    refine ⟨fresh', ?_⟩
    simp only [isQuoted] at hq
    simp [hq, marks_outside, hf]
  | false =>
    obtain ⟨fresh', hf⟩ := marks_text he
      (fun c hc => (ordinary_of_not_isQuoted hq c hc).2) true rest
    refine ⟨fresh', ?_⟩
    simp only [isQuoted] at hq
    simp [hq, hf]

theorem recordEnd_not_mem_fieldMarks (field : List Char) :
    Mark.recordEnd ∉ fieldMarks d e field := by
  unfold fieldMarks markOf
  split
  · simp
  · simp only [List.mem_map, not_exists, not_and]
    intro c _
    split <;> simp

theorem fieldEnd_not_mem_fieldMarks (field : List Char) :
    Mark.fieldEnd ∉ fieldMarks d d field := by
  unfold fieldMarks
  cases h : isQuoted d field with
  | true => simp
  | false =>
    have hc := ordinary_of_not_isQuoted h
    simp only [Bool.false_eq_true, if_false, List.mem_map, not_exists, not_and, markOf]
    intro c hm
    simp [(hc c hm).1]

theorem opening_mem_fieldMarks (field : List Char) :
    Mark.opening ∈ fieldMarks d e field ↔ isQuoted d field = true := by
  unfold fieldMarks markOf
  split
  · simpa
  · rename_i h
    simp only [List.mem_map, h, Bool.false_eq_true, iff_false, not_exists, not_and]
    intro c _
    split <;> simp

/-! ## 3. From marks to fields -/

theorem filterMap_char? (cs : List Char) : (cs.map Mark.char).filterMap Mark.char? = cs := by
  simp [List.filterMap_map, Function.comp_def, Mark.char?]

theorem fieldsOf_append {field : List Mark} (h : Mark.fieldEnd ∉ field) (ms : List Mark) :
    fieldsOf (field ++ .fieldEnd :: ms) = field.filterMap Mark.char? :: fieldsOf ms := by
  unfold fieldsOf
  rw [List.splitOnP_append_cons_of_forall_mem _ _ (by simp)]
  · simp
  · intro m hm
    simp only [decide_eq_false_iff_not]
    rintro rfl
    exact h hm

theorem fieldsOf_of_not_mem {field : List Mark} (h : Mark.fieldEnd ∉ field) :
    fieldsOf field = [field.filterMap Mark.char?] := by
  unfold fieldsOf
  rw [List.splitOnP_eq_singleton]
  · simp
  · intro m hm
    simp only [decide_eq_false_iff_not]
    rintro rfl
    exact h hm

theorem fieldsOf_map_markOf (cs : List Char) : fieldsOf (cs.map (markOf d)) = cs.splitOn d := by
  unfold fieldsOf
  induction cs with
  | nil => simp
  | cons c cs ih =>
    rw [List.map_cons, List.splitOnP_cons_eq_if_modifyHead, List.splitOn_cons_eq_if_modifyHead,
      ← ih]
    by_cases h : c = d
    · simp [markOf, h]
    · cases hs : (cs.map (markOf d)).splitOnP (· = .fieldEnd) with
      | nil => exact absurd hs (List.splitOnP_ne_nil _ _)
      | cons part parts => simp [markOf, h, Mark.char?]

/-- The fields that a lone field is read as: itself if it was in quotes, and else its parts. -/
def parts (d e : Char) (field : List Char) : List (List Char) :=
  if isQuoted d field then [field] else field.splitOn e

theorem exists_parts (d e : Char) (field : List Char) :
    ∃ part more, parts d e field = part :: more := by
  refine List.exists_cons_of_ne_nil ?_
  unfold parts
  split
  · simp
  · exact List.splitOn_ne_nil _ _

/-- A lone field comes back in quotes, and is split at the reader's delimiter otherwise. -/
theorem fieldsOf_fieldMarks (field : List Char) :
    fieldsOf (fieldMarks d e field) = parts d e field := by
  unfold fieldMarks parts
  split
  · rw [fieldsOf_of_not_mem (by simp)]
    simp only [List.filterMap_cons, Mark.char?]
    rw [filterMap_char?]
  · exact fieldsOf_map_markOf field

theorem filterMap_fieldMarks (field : List Char) :
    (fieldMarks d d field).filterMap Mark.char? = field := by
  have h := fieldsOf_fieldMarks (d := d) (e := d) field
  rw [fieldsOf_of_not_mem (fieldEnd_not_mem_fieldMarks field), parts] at h
  cases hq : isQuoted d field with
  | true => simpa [hq] using h
  | false =>
    simpa [hq, List.splitOn_eq_singleton (delimiter_not_mem_of_not_isQuoted hq)] using h

/-! ## 4. Written records -/

/-- The marks of a record without its line break. -/
def recordMarks (d : Char) (fields : List (List Char)) : List Mark :=
  [Mark.fieldEnd].intercalate (fields.map (fieldMarks d d))

theorem recordMarks_cons_cons (field next : List Char) (fields : List (List Char)) :
    recordMarks d (field :: next :: fields) =
      fieldMarks d d field ++ .fieldEnd :: recordMarks d (next :: fields) := by
  simp [recordMarks]

theorem marks_writeRecord_single (he : Separates e) (field rest : List Char) :
    marks e false true (writeRecord d [field] ++ rest) =
      fieldMarks d e field ++ .recordEnd :: marks e false true rest := by
  obtain ⟨fresh', hf⟩ := marks_writeField (d := d) he field ('\n' :: rest) (by simp)
  simp [writeRecord, hf, marks_lineFeed he]

theorem writeRecord_cons_cons (field next : List Char) (fields : List (List Char)) :
    writeRecord d (field :: next :: fields) =
      writeField d field ++ d :: writeRecord d (next :: fields) := by
  simp [writeRecord]

theorem marks_writeRecord (hd : Separates d) (fields : List (List Char)) (rest : List Char) :
    marks d false true (writeRecord d fields ++ rest) =
      recordMarks d fields ++ .recordEnd :: marks d false true rest := by
  induction fields with
  | nil => simp [writeRecord, recordMarks, marks_lineFeed hd]
  | cons field fields ih =>
    cases fields with
    | nil => simpa [recordMarks] using marks_writeRecord_single hd field rest
    | cons next fields =>
      obtain ⟨fresh', hf⟩ := marks_writeField (d := d) hd field
        (d :: (writeRecord d (next :: fields) ++ rest)) (by simpa using hd.quote)
      rw [writeRecord_cons_cons, List.append_assoc, List.cons_append, hf, marks_delimiter hd, ih,
        recordMarks_cons_cons]
      simp

theorem recordEnd_not_mem_recordMarks (fields : List (List Char)) :
    Mark.recordEnd ∉ recordMarks d fields := by
  induction fields with
  | nil => simp [recordMarks]
  | cons field fields ih =>
    have hfield := recordEnd_not_mem_fieldMarks (d := d) (e := d) field
    cases fields with
    | nil => simpa [recordMarks] using hfield
    | cons next fields =>
      rw [recordMarks_cons_cons]
      simp [hfield, ih]

theorem fieldsOf_recordMarks {fields : List (List Char)} (h : fields ≠ []) :
    fieldsOf (recordMarks d fields) = fields := by
  induction fields with
  | nil => exact absurd rfl h
  | cons field fields ih =>
    have hfield := fieldEnd_not_mem_fieldMarks (d := d) field
    cases fields with
    | nil => simp [recordMarks, fieldsOf_of_not_mem hfield, filterMap_fieldMarks]
    | cons next fields =>
      rw [recordMarks_cons_cons, fieldsOf_append hfield, ih (by simp), filterMap_fieldMarks]

/-- Is a record lost when it is written and read?  A single blank field without quotes is. -/
def vanishes (d : Char) : List (List Char) → Bool
  | [field] => !isQuoted d field && Text.isBlankText field
  | _ => false

theorem isBlankLine_recordMarks {fields : List (List Char)} (h : fields ≠ []) :
    isBlankLine (recordMarks d fields) = vanishes d fields := by
  unfold isBlankLine
  rw [fieldsOf_recordMarks h]
  match fields with
  | [field] =>
    have ho := opening_mem_fieldMarks (d := d) (e := d) field
    simp only [vanishes, recordMarks, List.map_cons, List.map_nil]
    cases hq : isQuoted d field <;> simp_all
  | _ :: _ :: _ => simp [vanishes]

/-! ## 5. Texts of records -/

/-- Where each line is read on its own, the text is read line by line. -/
theorem records_flatMap {α : Type} {write : α → List Char} {read : α → List Mark}
    {lines : List α}
    (hread : ∀ l ∈ lines, ∀ rest, marks e false true (write l ++ rest) =
      read l ++ .recordEnd :: marks e false true rest)
    (hend : ∀ l ∈ lines, Mark.recordEnd ∉ read l) :
    records e (lines.flatMap write) =
      ((lines.map read).filter (!isBlankLine ·)).map fieldsOf := by
  have hsplit : (marks e false true (lines.flatMap write)).splitOnP (· = .recordEnd) =
      lines.map read ++ [[]] := by
    induction lines with
    | nil => simp [marks]
    | cons l lines ih =>
      rw [List.flatMap_cons, hread l List.mem_cons_self, List.splitOnP_append_cons_of_forall_mem,
        ih (fun m hm => hread m (List.mem_cons_of_mem _ hm))
          (fun m hm => hend m (List.mem_cons_of_mem _ hm))]
      · rfl
      · intro m hm
        simp only [decide_eq_false_iff_not]
        rintro rfl
        exact hend l List.mem_cons_self hm
      · simp
  have hblank : isBlankLine [] = true := by decide
  simp [records, hsplit, hblank]

/-- **Reading undoes writing**, but for the records that are read as blank lines. -/
theorem records_flatMap_writeRecord (hd : Separates d) {rs : List (List (List Char))}
    (h : ∀ fields ∈ rs, fields ≠ []) :
    records d (rs.flatMap (writeRecord d)) = rs.filter (!vanishes d ·) := by
  have hblank : ∀ fields ∈ rs,
      ((!isBlankLine ·) ∘ recordMarks d) fields = !vanishes d fields :=
    fun fields hf => congrArg (!·) (isBlankLine_recordMarks (h fields hf))
  rw [records_flatMap (fun fields _ rest => marks_writeRecord hd fields rest)
    (fun fields _ => recordEnd_not_mem_recordMarks fields), List.filter_map, List.map_map,
    List.filter_congr hblank]
  calc _ = (rs.filter (!vanishes d ·)).map id :=
        List.map_congr_left fun fields hf =>
          fieldsOf_recordMarks (h fields (List.mem_of_mem_filter hf))
    _ = _ := List.map_id _

/-- Is a lone field read as one and not as a blank line, when it was written for `d` and is read
with `e`? -/
def survives (d e : Char) (field : List Char) : Prop :=
  isQuoted d field = true ∨ Text.isBlankText field = false ∧ e ∉ field

theorem splitOn_ne_singleton {field : List Char} (he : e ∈ field) (part : List Char) :
    field.splitOn e ≠ [part] := by
  intro h
  obtain ⟨before, behind, rfl⟩ := List.append_of_mem he
  have hlen := congrArg List.length h
  rw [List.splitOn_append_cons_self, List.length_append] at hlen
  have h1 := List.length_pos_iff.mpr (List.splitOn_ne_nil e before)
  have h2 := List.length_pos_iff.mpr (List.splitOn_ne_nil e behind)
  simp only [List.length_singleton] at hlen
  omega

/-- Characters outside quotes make a blank line if they are blank and part no fields. -/
theorem isBlankLine_map_markOf (cs : List Char) :
    isBlankLine (cs.map (markOf e)) = (decide (e ∉ cs) && Text.isBlankText cs) := by
  have hopening : (cs.map (markOf e)).contains .opening = false := by
    rw [Bool.eq_false_iff, ne_eq, List.contains_iff_mem, List.mem_map]
    rintro ⟨c, -, hc⟩
    unfold markOf at hc
    split at hc <;> simp at hc
  simp only [isBlankLine, hopening, fieldsOf_map_markOf]
  by_cases he : e ∈ cs
  · split
    · rename_i part hpart
      exact absurd hpart (splitOn_ne_singleton he part)
    · simp [he]
  · simp [he, List.splitOn_eq_singleton he]

theorem isBlankLine_fieldMarks (field : List Char) : isBlankLine (fieldMarks d e field) =
    (!isQuoted d field && (decide (e ∉ field) && Text.isBlankText field)) := by
  cases hq : isQuoted d field with
  | true =>
    have ho := (opening_mem_fieldMarks (d := d) (e := e) field).mpr hq
    simp [isBlankLine, ho]
  | false => simp [fieldMarks, hq, isBlankLine_map_markOf]

/-- Lone fields, whatever delimiter they are read with. -/
theorem records_flatMap_writeRecord_single (he : Separates e) (lines : List (List Char)) :
    records e (lines.flatMap fun field => writeRecord d [field]) =
      (lines.filter fun field => !isBlankLine (fieldMarks d e field)).map (parts d e) := by
  rw [records_flatMap (fun field _ rest => marks_writeRecord_single he field rest)
    (fun field _ => recordEnd_not_mem_fieldMarks field), List.filter_map, List.map_map]
  exact List.map_congr_left fun field _ => fieldsOf_fieldMarks field

/-- **A lone field survives** a reader with the delimiter `e` iff it stands in quotes, or is not
blank and does not hold that delimiter. -/
theorem survives_iff {field : List Char} : survives d e field ↔
    isBlankLine (fieldMarks d e field) = false ∧ parts d e field = [field] := by
  rw [isBlankLine_fieldMarks, parts]
  unfold survives
  cases hq : isQuoted d field with
  | true => simp
  | false =>
    by_cases he : e ∈ field
    · simp [he, splitOn_ne_singleton he]
    · simp [he, List.splitOn_eq_singleton he]

end Delimited
end Tabular
