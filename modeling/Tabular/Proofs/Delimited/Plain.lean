/-
# Tables with plain columns

Columns are plain (`PlainColumns`) if there are two or more, and none of their names holds a
candidate delimiter, a quote or a line break, or starts with a byte order mark.  Their header
line holds the delimiter between the names and nowhere else, and none of the other candidates,
so that it is guessed right (`detected_of_plain`).

Under plain columns a document of full rows (`FullRow`) is given back by reading what was
written, whatever the cells hold (`ofText_toText_of_plain`).
-/
import Tabular.Proofs.Delimited.Document
import Tabular.Proofs.Pieces

namespace Tabular

open Delimited

namespace Document

/-! ## 1. Plain columns -/

/-- Columns that are written as they are, and read with the delimiter they were written with. -/
structure PlainColumns (columns : List String) : Prop where
  two_le : 2 ≤ columns.length
  nodup : columns.Nodup
  isName : ∀ c ∈ columns, IsName c
  plain : ∀ c ∈ columns, ∀ x ∈ [',', '\t', '|', '\x22', '\r', '\n'], x ∉ c.toList
  unmarked : ∀ c ∈ columns, c.toList.head? ≠ some '\ufeff'

variable {columns : List String} {d : Char}

theorem PlainColumns.not_isQuoted (h : PlainColumns columns) (hd : d ∈ candidates) {c : String}
    (hc : c ∈ columns) : isQuoted d c.toList = false := by
  have hplain := h.plain c hc
  rw [isQuoted, List.any_eq_false]
  intro x hx hspecial
  simp only [isSpecial, Bool.or_eq_true, decide_eq_true_eq] at hspecial
  refine hplain x ?_ hx
  simp only [candidates, List.mem_cons, List.not_mem_nil, or_false] at hd ⊢
  rcases hspecial with ((rfl | rfl) | rfl) | rfl <;> tauto

/-- The header line of plain columns has the names between delimiters. -/
theorem headerLine_of_plain (h : PlainColumns columns) (hd : d ∈ candidates) (rows : List Row) :
    headerLine ⟨columns, d, rows⟩ = [d].intercalate (columns.map String.toList) ++ ['\n'] := by
  have hwrite : (columns.map String.toList).map (writeField d) = columns.map String.toList := by
    rw [List.map_map]
    refine List.map_congr_left fun c hc => ?_
    have hplain := h.not_isQuoted hd hc
    rw [isQuoted] at hplain
    simp [writeField, hplain]
  rw [headerLine, writeRecord, hwrite]

theorem count_headerLine (h : PlainColumns columns) {x : Char}
    (hx : x ∈ [',', '\t', '|', '\x22', '\r', '\n']) :
    ([d].intercalate (columns.map String.toList)).count x =
      if x = d then columns.length - 1 else 0 := by
  rw [count_intercalate]
  · rw [List.length_map]
  · intro field hfield
    obtain ⟨c, hc, rfl⟩ := List.mem_map.mp hfield
    exact h.plain c hc x hx

/-- **The delimiter of plain columns is guessed right.** -/
theorem detected_of_plain (h : PlainColumns columns) (hd : d ∈ candidates) (rows : List Row) :
    detected ⟨columns, d, rows⟩ = d := by
  have hsep := separates_of_mem_candidates hd
  have hbreak : '\n' ∉ [d].intercalate (columns.map String.toList) := by
    have hcount := count_headerLine (d := d) h (x := '\n') (by simp)
    rw [if_neg hsep.lineFeed.symm] at hcount
    exact List.count_eq_zero.mp hcount
  have hline : firstLine (headerLine ⟨columns, d, rows⟩) =
      [d].intercalate (columns.map String.toList) := by
    rw [headerLine_of_plain h hd, firstLine_append_lineFeed, firstLine]
    refine List.takeWhile_eq_self_iff.mpr ?_
    intro x hx
    simp only [ne_eq, decide_not, Bool.not_eq_true', decide_eq_false_iff_not]
    rintro rfl
    exact hbreak hx
  have hcomma := count_headerLine (d := d) h (x := ',') (by simp)
  have htab := count_headerLine (d := d) h (x := '\t') (by simp)
  have hbar := count_headerLine (d := d) h (x := '|') (by simp)
  have htwo := h.two_le
  have hpos : 0 < columns.length - 1 := by omega
  rw [detected, hline]
  simp only [delimiterOf, candidates, List.foldl_cons, List.foldl_nil]
  simp only [candidates, List.mem_cons, List.not_mem_nil, or_false] at hd
  rcases hd with rfl | rfl | rfl
  · simp [hcomma, htab, hbar]
  · simp [hcomma, htab, hbar, hpos]
  · simp [hcomma, htab, hbar, hpos]

theorem head?_headerLine_of_plain (h : PlainColumns columns) (hd : d ∈ candidates)
    (rows : List Row) : (headerLine ⟨columns, d, rows⟩).head? ≠ some '\ufeff' := by
  rw [headerLine_of_plain h hd]
  match hcols : columns, h.two_le with
  | c :: c' :: cs, _ =>
    have hc := h.isName c (by simp)
    have hmark := h.unmarked c (by simp)
    cases hchars : c.toList with
    | nil => exact absurd hchars hc.ne_nil
    | cons x more =>
      rw [hchars] at hmark
      simpa [hchars] using hmark

/-! ## 2. Full rows -/

/-- A row with exactly the columns, in their order, and cells of text. -/
structure FullRow (columns : List String) (row : Row) : Prop where
  columns_eq : row.columns = columns
  text : ∀ c v, row.get? c = some v → ∃ s, v = .text s

/-- Nothing is to be completed in a full row. -/
theorem completed_of_full (hnd : columns.Nodup) {row : Row} (h : FullRow columns row) :
    completed columns row = row := by
  have hcells : row.cells = columns.map fun c => (c, .text (String.ofList (cellText row c))) := by
    rw [← h.columns_eq]
    refine Row.cells_eq_map (f := fun c => .text (String.ofList (cellText row c))) ?_
    intro c v hv
    obtain ⟨s, rfl⟩ := h.text c v hv
    simp [cellText, hv, Value.display]
  have hnames : Entries.names (columns.map fun c =>
      (c, Value.text (String.ofList (cellText row c)))) = columns := by
    simp [Entries.names, Function.comp_def]
  refine Row.ext_cells ?_
  rw [completed, rowOf, zip_record, Row.cells_ofList (hnames.symm ▸ hnd), hcells]

/-- **Plain columns with full rows are given back.** -/
theorem ofText_toText_of_plain (h : PlainColumns columns) (hd : d ∈ candidates) {rows : List Row}
    (hrows : ∀ row ∈ rows, FullRow columns row) :
    ofText (toText ⟨columns, d, rows⟩) = ⟨columns, d, rows⟩ := by
  have ht : Tidy ⟨columns, d, rows⟩ := by
    refine ⟨hd, h.isName, ?_, ?_⟩
    · intro row hrow c v hv
      have hc : c ∈ row.columns := Entries.mem_names_of_get?_eq_some hv
      rw [(hrows row hrow).columns_eq] at hc
      exact ⟨hc, (hrows row hrow).text c v hv⟩
    · intro hnil
      have := h.two_le
      simp [show columns = [] from hnil] at this
  rw [ofText_toText_of_two_le ht h.two_le (head?_headerLine_of_plain h hd rows)
    (detected_of_plain h hd rows)]
  have hsame : rows.map (completed columns) = rows.map id :=
    List.map_congr_left fun row hrow => completed_of_full h.nodup (hrows row hrow)
  simp only [hsame, List.map_id]

end Document
end Tabular
