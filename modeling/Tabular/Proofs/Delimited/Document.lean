/-
# A document that is written and read again

A document is written as a header and a record for each row, and read by guessing the delimiter
from the header line.  `toText` and `ofText` are therefore inverse only where three things go
well, and this file names them (`Rereadable`):

* no byte order mark stands in front of the header line, since the reader drops it;
* the delimiter guessed from the header line is the one it was written with;
* where there is a single column, no lone field is read as a blank line or split.

The main statement is `ofText_toText`: a tidy document (`Tidy`) that is rereadable comes back
with its columns and with its rows, completed by empty cells (`Row.completed`).  Every document
that was read is tidy (`tidy_ofText`), and so is one that loses rows or wins a row of text.
-/
import Tabular.Delimited.Document
import Tabular.Proofs.Delimited.Records
import Tabular.Proofs.Row
import Tabular.Proofs.Text.Trimming

namespace Tabular

open Delimited

namespace Document

/-! ## 1. Documents as they are read -/

theorem separates_of_mem_candidates {d : Char} (h : d ∈ candidates) : Separates d := by
  simp only [candidates, List.mem_cons, List.not_mem_nil, or_false] at h
  rcases h with rfl | rfl | rfl <;> exact ⟨by decide, by decide, by decide⟩

theorem delimiterOf_mem_candidates (line : List Char) : delimiterOf line ∈ candidates := by
  simp only [delimiterOf, candidates, List.foldl_cons, List.foldl_nil]
  split_ifs <;> simp

/-- A column name that no trimming changes. -/
structure IsName (column : String) : Prop where
  ne_nil : column.toList ≠ []
  trim_eq : Text.trim column.toList = column.toList

theorem IsName.not_blank {column : String} (h : IsName column) :
    Text.isBlankText column.toList = false := by
  rw [Bool.eq_false_iff, ne_eq, ← Text.trim_eq_nil_iff, h.trim_eq]
  exact h.ne_nil

theorem IsName.columnName_eq {column : String} (h : IsName column) (place : Nat) :
    columnName place column.toList = column := by
  simp [columnName, h.not_blank, h.trim_eq]

/-- Blank names are replaced and the others trimmed, so that every name is one. -/
theorem isName_columnName (place : Nat) (field : List Char) : IsName (columnName place field) := by
  unfold columnName
  split
  · have hdigits : ∀ c ∈ place.repr.toList, Text.isBlank c = false := by
      intro c hc
      rw [Nat.toList_repr] at hc
      exact Text.not_isBlank_of_isDigit (Nat.isDigit_of_mem_toDigits (by decide) (by decide) hc)
    have hall : ∀ c ∈ ("_col_" ++ place.repr).toList, Text.isBlank c = false := by
      intro c hc
      rw [String.toList_append, List.mem_append] at hc
      rcases hc with hc | hc
      · have hprefix : "_col_".toList.all (!Text.isBlank ·) = true := by decide
        simpa using List.all_eq_true.mp hprefix c hc
      · exact hdigits c hc
    refine ⟨by simp, Text.trim_eq_self_iff.mpr ⟨?_, ?_⟩⟩
    · exact fun c hc => hall c (List.mem_of_mem_head? hc)
    · exact fun c hc => hall c (List.mem_of_mem_getLast? hc)
  · rename_i h
    rw [← Text.trim_eq_nil_iff] at h
    exact ⟨by simpa using h, by simp [Text.trim_trim]⟩

/-- What reading makes: names in the header, and under them cells of text. -/
structure Tidy (document : Document) : Prop where
  delimiter_mem : document.delimiter ∈ candidates
  isName : ∀ c ∈ document.columns, IsName c
  text : ∀ row ∈ document.rows, ∀ c v, row.get? c = some v →
    c ∈ document.columns ∧ ∃ s, v = .text s
  rows_eq_nil : document.columns = [] → document.rows = []

theorem text_of_get?_rowOf {columns : List String} {fields : List (List Char)} {c : String}
    {v : Value} (h : (rowOf columns fields).get? c = some v) : c ∈ columns ∧ ∃ s, v = .text s := by
  rw [rowOf, Row.get?_ofList] at h
  have hm := List.mem_reverse.mp (Entries.mem_of_get?_eq_some h)
  obtain ⟨hc, hv⟩ := List.of_mem_zip hm
  obtain ⟨field, -, rfl⟩ := List.mem_map.mp hv
  exact ⟨hc, _, rfl⟩

theorem tidy_ofRecords {d : Char} (hd : d ∈ candidates) {rs : List (List (List Char))}
    (h : ∀ fields ∈ rs, fields ≠ []) : (ofRecords d rs).Tidy := by
  cases rs with
  | nil => exact ⟨hd, by simp [ofRecords], by simp [ofRecords], fun _ => rfl⟩
  | cons header rs =>
    refine ⟨hd, ?_, ?_, ?_⟩
    · intro c hc
      obtain ⟨i, hi, rfl⟩ := List.mem_mapIdx.mp hc
      exact isName_columnName _ _
    · intro row hrow c v hv
      obtain ⟨fields, -, rfl⟩ := List.mem_map.mp hrow
      exact text_of_get?_rowOf hv
    · intro hnil
      exact absurd (List.mapIdx_eq_nil_iff.mp hnil) (h header List.mem_cons_self)

theorem ne_nil_of_mem_records {d : Char} {text : List Char} :
    ∀ fields ∈ records d text, fields ≠ [] := by
  intro fields hf
  obtain ⟨ms, -, rfl⟩ := List.mem_map.mp hf
  simp [fieldsOf, List.splitOnP_ne_nil]

/-- **Every document that was read is tidy.** -/
theorem tidy_ofText (s : String) : (ofText s).Tidy := by
  unfold ofText
  simp only
  split
  · exact ⟨by simp [candidates], by simp, by simp, fun _ => rfl⟩
  · exact tidy_ofRecords (delimiterOf_mem_candidates _) ne_nil_of_mem_records

/-! ## 2. The text of a document -/

/-- The record of a row under the columns of a document. -/
def record (columns : List String) (row : Row) : List (List Char) :=
  columns.map (cellText row)

/-- The header line as written. -/
def headerLine (document : Document) : List Char :=
  writeRecord document.delimiter (document.columns.map String.toList)

/-- The delimiter that is guessed when the written header line is read. -/
def detected (document : Document) : Char := delimiterOf (firstLine document.headerLine)

/-- All records of a document, the header first. -/
def allRecords (document : Document) : List (List (List Char)) :=
  document.columns.map String.toList :: document.rows.map (record document.columns)

theorem toText_eq (document : Document) : document.toText =
    String.ofList (document.allRecords.flatMap (writeRecord document.delimiter)) := by
  simp [toText, allRecords, List.flatMap_map, record]

theorem firstLine_append_lineFeed (line rest : List Char) :
    firstLine (line ++ '\n' :: rest) = firstLine line := by
  induction line with
  | nil => simp [firstLine]
  | cons c line ih =>
    by_cases hc : c = '\n'
    · simp [firstLine, hc]
    · simpa [firstLine, hc] using ih

/-- The first line of a written document is that of its header line. -/
theorem firstLine_flatMap (document : Document) (rest : List Char) :
    firstLine (document.headerLine ++ rest) = firstLine document.headerLine := by
  simp [headerLine, writeRecord, firstLine_append_lineFeed]

theorem exists_cons_writeField {d : Char} {c : String} (h : IsName c) :
    ∃ x rest, writeField d c.toList = x :: rest ∧ Text.isBlank x = false := by
  cases hc : c.toList with
  | nil => exact absurd hc h.ne_nil
  | cons x cs =>
    have hx : Text.isBlank x = false :=
      (Text.trim_eq_self_iff.mp h.trim_eq).1 x (by simp [hc])
    unfold writeField
    split
    · exact ⟨_, _, rfl, by decide⟩
    · exact ⟨x, cs, rfl, hx⟩

theorem exists_cons_headerLine {document : Document} (ht : document.Tidy)
    (hne : document.columns ≠ []) :
    ∃ x rest, document.headerLine = x :: rest ∧ Text.isBlank x = false := by
  unfold headerLine
  cases hcols : document.columns with
  | nil => exact absurd hcols hne
  | cons c cs =>
    obtain ⟨x, rest, hw, hx⟩ := exists_cons_writeField (d := document.delimiter)
      (ht.isName c (by simp [hcols]))
    cases cs with
    | nil => exact ⟨x, rest ++ ['\n'], by simp [writeRecord, hw], hx⟩
    | cons c' cs =>
      refine ⟨x, rest ++ document.delimiter :: writeRecord document.delimiter
        ((c' :: cs).map String.toList), ?_, hx⟩
      rw [List.map_cons, List.map_cons, writeRecord_cons_cons, hw, List.cons_append]

theorem not_blank_firstLine {x : Char} (hx : Text.isBlank x = false) (rest : List Char) :
    Text.isBlankText (firstLine (x :: rest)) = false := by
  have hn : x ≠ '\n' := by
    rintro rfl
    exact absurd hx (by decide)
  simp [firstLine, Text.isBlankText, hn, hx]

/-! ## 3. The header line decides how the text is read -/

/-- A text that no byte order mark stands in front of is read with the delimiter of its first
line. -/
theorem ofText_ofList {x : Char} {rest : List Char} (hmark : x ≠ '\ufeff')
    (hx : Text.isBlank x = false) :
    ofText (String.ofList (x :: rest)) =
      ofRecords (delimiterOf (firstLine (x :: rest)))
        (records (delimiterOf (firstLine (x :: rest))) (x :: rest)) := by
  have hb := not_blank_firstLine hx rest
  simp [ofText, hmark, hb]

theorem ofText_toText_eq {document : Document} (ht : document.Tidy)
    (hne : document.columns ≠ []) (hmark : document.headerLine.head? ≠ some '\ufeff') :
    ofText document.toText = ofRecords document.detected
      (records document.detected
        (document.allRecords.flatMap (writeRecord document.delimiter))) := by
  obtain ⟨x, rest, hline, hx⟩ := exists_cons_headerLine ht hne
  have htext : document.allRecords.flatMap (writeRecord document.delimiter) =
      document.headerLine ++
        (document.rows.map (record document.columns)).flatMap (writeRecord document.delimiter) := by
    simp [allRecords, headerLine]
  have hfirst := firstLine_flatMap document
    ((document.rows.map (record document.columns)).flatMap (writeRecord document.delimiter))
  rw [toText_eq, htext, detected, ← hfirst, hline, List.cons_append]
  refine ofText_ofList ?_ hx
  simpa [hline] using hmark

/-! ## 4. Rows that are written and read -/

/-- The row that is read where a row was written: with every column, empty where there was
none. -/
def completed (columns : List String) (row : Row) : Row := rowOf columns (record columns row)

/-- `Keeps columns old new`: the new row holds the cells of the old one under their columns, and
of the columns it had not, the empty text. -/
def Keeps (columns : List String) (old new : Row) : Prop :=
  ∀ c, new.get? c = (old.get? c).or (if c ∈ columns then some (.text "") else none)

theorem zip_record (columns : List String) (row : Row) :
    columns.zip ((record columns row).map fun field => Value.text (String.ofList field)) =
      columns.map fun c => (c, .text (String.ofList (cellText row c))) := by
  rw [record, List.map_map]
  induction columns with
  | nil => rfl
  | cons c columns ih => simpa using ih

theorem get?_completed (columns : List String) (row : Row) (c : String) :
    (completed columns row).get? c =
      if c ∈ columns then some (.text (String.ofList (cellText row c))) else none := by
  rw [completed, rowOf, zip_record, Row.get?_ofList_map columns]

theorem keeps_completed {columns : List String} {row : Row}
    (h : ∀ c v, row.get? c = some v → c ∈ columns ∧ ∃ s, v = .text s) :
    Keeps columns row (completed columns row) := by
  intro c
  rw [get?_completed]
  cases hg : row.get? c with
  | none => simp [cellText, hg]
  | some v =>
    obtain ⟨hc, s, rfl⟩ := h c v hg
    simp [cellText, hg, hc, Value.display]

theorem ofRecords_allRecords {document : Document} (ht : document.Tidy) (d : Char) :
    ofRecords d document.allRecords =
      ⟨document.columns, d, document.rows.map (completed document.columns)⟩ := by
  have hcolumns : (document.columns.map String.toList).mapIdx columnName = document.columns := by
    refine List.ext_getElem (by simp) ?_
    intro i h1 h2
    simp only [List.getElem_mapIdx, List.getElem_map]
    exact (ht.isName _ (List.getElem_mem h2)).columnName_eq i
  simp only [allRecords, ofRecords, hcolumns, List.map_map]
  rfl

/-! ## 5. Documents that come back -/

/-- What it takes that a document is read as it was written. -/
structure Rereadable (document : Document) : Prop where
  /-- The header line starts with no byte order mark. -/
  unmarked : document.headerLine.head? ≠ some '\ufeff'
  /-- The delimiter is guessed right. -/
  parted : 2 ≤ document.columns.length → document.detected = document.delimiter
  /-- The fields of a single column are not lost or split. -/
  lone : ∀ c, document.columns = [c] →
    ∀ field ∈ c.toList :: document.rows.map (cellText · c),
      survives document.delimiter document.detected field

/-- With two columns or more it takes no more than the header line. -/
theorem rereadable_of_two_le {document : Document} (h : 2 ≤ document.columns.length)
    (hmark : document.headerLine.head? ≠ some '\ufeff')
    (hd : document.detected = document.delimiter) : document.Rereadable :=
  ⟨hmark, fun _ => hd, fun c hc => by simp [hc] at h⟩

theorem ofText_toText_nil {document : Document} (ht : document.Tidy)
    (h : document.columns = []) : ofText document.toText = ⟨[], ',', []⟩ := by
  have htext : document.toText = "\n" := by
    simp [toText, h, ht.rows_eq_nil h, writeRecord]
  rw [htext]
  rfl

/-- With two columns or more, all that is read depends on the header line. -/
theorem ofText_toText_of_two_le {document : Document} (ht : document.Tidy)
    (h : 2 ≤ document.columns.length) (hmark : document.headerLine.head? ≠ some '\ufeff')
    (hd : document.detected = document.delimiter) : ofText document.toText =
      ⟨document.columns, document.delimiter, document.rows.map (completed document.columns)⟩ := by
  have hlen : ∀ fields ∈ document.allRecords, 2 ≤ fields.length := by
    intro fields hf
    rcases List.mem_cons.mp hf with rfl | hf
    · simpa
    · obtain ⟨row, -, rfl⟩ := List.mem_map.mp hf
      simpa [record]
  have hne : document.columns ≠ [] := fun e => by simp [e] at h
  have hkept : document.allRecords.filter (!vanishes document.delimiter ·) =
      document.allRecords := by
    refine List.filter_eq_self.mpr ?_
    intro fields hf
    match fields, hlen fields hf with
    | _ :: _ :: _, _ => rfl
  rw [ofText_toText_eq ht hne hmark, hd,
    records_flatMap_writeRecord (separates_of_mem_candidates ht.delimiter_mem), hkept,
    ofRecords_allRecords ht]
  intro fields hf hnil
  have := hlen fields hf
  simp [hnil] at this

/-- The lines of a document with a single column. -/
def loneFields (document : Document) (c : String) : List (List Char) :=
  c.toList :: document.rows.map (cellText · c)

theorem allRecords_of_single {document : Document} {c : String} (h : document.columns = [c]) :
    document.allRecords = (document.loneFields c).map fun field => [field] := by
  simp [allRecords, loneFields, h, record]

/-- With a single column, every line that is no blank line is read, each split by itself. -/
theorem ofText_toText_of_single {document : Document} (ht : document.Tidy) {c : String}
    (h : document.columns = [c]) (hmark : document.headerLine.head? ≠ some '\ufeff') :
    ofText document.toText = ofRecords document.detected
      (((document.loneFields c).filter fun field =>
          !isBlankLine (fieldMarks document.delimiter document.detected field)).map
        (parts document.delimiter document.detected)) := by
  have he : Separates document.detected :=
    separates_of_mem_candidates (delimiterOf_mem_candidates _)
  rw [ofText_toText_eq ht (by simp [h]) hmark, allRecords_of_single h, List.flatMap_map,
    records_flatMap_writeRecord_single he]

/-- What is read depends on whether there is no column, one, or more. -/
theorem columns_cases (document : Document) : document.columns = [] ∨
    (∃ c, document.columns = [c]) ∨ 2 ≤ document.columns.length := by
  match document.columns with
  | [] => exact Or.inl rfl
  | [c] => exact Or.inr (Or.inl ⟨c, rfl⟩)
  | _ :: _ :: _ => exact Or.inr (Or.inr (by simp))

/-- **A rereadable document comes back**, its rows completed. -/
theorem ofText_toText {document : Document} (ht : document.Tidy) (hr : document.Rereadable) :
    (ofText document.toText).columns = document.columns ∧
      (ofText document.toText).rows = document.rows.map (completed document.columns) := by
  rcases document.columns_cases with hcols | ⟨c, hcols⟩ | h2
  · rw [ofText_toText_nil ht hcols, hcols, ht.rows_eq_nil hcols]
    exact ⟨rfl, rfl⟩
  · have hall : ∀ field ∈ document.loneFields c,
        survives document.delimiter document.detected field := hr.lone c hcols
    have hkept : ((document.loneFields c).filter fun field =>
        !isBlankLine (fieldMarks document.delimiter document.detected field)) =
          document.loneFields c := by
      refine List.filter_eq_self.mpr ?_
      intro field hf
      simp [(survives_iff.mp (hall field hf)).1]
    have hwhole : (document.loneFields c).map (parts document.delimiter document.detected) =
        document.allRecords := by
      rw [allRecords_of_single hcols]
      exact List.map_congr_left fun field hf => (survives_iff.mp (hall field hf)).2
    rw [ofText_toText_of_single ht hcols hr.unmarked, hkept, hwhole, ofRecords_allRecords ht]
    exact ⟨rfl, rfl⟩
  · rw [ofText_toText_of_two_le ht h2 hr.unmarked (hr.parted h2)]
    exact ⟨rfl, rfl⟩

end Document
end Tabular
