/-
# Changes of a table file

A change reads the file of a table, changes the document and writes it anew.  What the next
reading gives is therefore a question on documents: a change loses nothing exactly when the
changed document is rereadable (`Document.kept_ofText_toText_iff`).

* `load_write`: after a write the table is found at the same path, with the document that the
  written text is read as;
* `kept_remove_iff`: removing rows, for every test that fails on no row of the table;
* `kept_append_iff`: appending a row of text, which may bring columns of its own.

Neither holds of all files.  Where a table has a single column, an empty cell is written as a
blank line, and blank lines are skipped (`remove_loses_row`, `append_loses_row`).
-/
import Tabular.Proofs.Delimited.Rereading
import Tabular.Proofs.Relation.Restrict
import Tabular.Proofs.Store.Files

namespace Tabular

open Delimited

namespace Directory

variable {directory : Directory} {table path : String} {document : Document}

/-! ## 1. Reading after writing -/

theorem tidy_of_load (h : directory.load table = .ok (path, document)) : document.Tidy := by
  obtain ⟨-, -, s, -, -, -, rfl⟩ := exists_of_load h
  exact Document.tidy_ofText s

/-- **What was written is found again**, at the same path. -/
theorem load_write (h : directory.load table = .ok (path, document)) (new : Document) :
    (directory.write path new).load table = .ok (path, .ofText new.toText) := by
  obtain ⟨hlocate, target, s, hfollow, hcontent, hbarred, -⟩ := exists_of_load h
  have hlayout : SameLayout directory (directory.write path new) :=
    sameLayout_writeText hfollow hcontent _
  have hread : (directory.write path new).readText path = .ok new.toText := by
    refine readText_eq_ok_iff.mpr ⟨target, (hlayout.follow_eq path).trans hfollow, ?_,
      (hlayout.barred_eq target).trans hbarred⟩
    rw [write, content?_writeText hfollow hcontent, if_pos rfl]
  rw [load, hlayout.locate_eq, hlocate, hread]

end Directory

/-! ## 2. Changed documents -/

namespace Document

/-- The document with the rows for which `p` is false. -/
def without (document : Document) (p : Row → Bool) : Document :=
  { document with rows := document.rows.filter (!p ·) }

theorem Tidy.without {document : Document} (h : document.Tidy) (p : Row → Bool) :
    (document.without p).Tidy where
  delimiter_mem := h.delimiter_mem
  isName := h.isName
  text := fun row hrow => h.text row (List.mem_of_mem_filter hrow)
  rows_eq_nil := fun hnil => by simp [Document.without, h.rows_eq_nil hnil]

theorem mem_columns_append {document : Document} {row : Row} {c : String} :
    c ∈ (document.append row).columns ↔ c ∈ document.columns ∨ c ∈ row.columns := by
  by_cases h : c ∈ document.columns <;> simp [append, h]

theorem Tidy.append {document : Document} (h : document.Tidy) {row : Row}
    (hnames : ∀ c ∈ row.columns, IsName c) (htext : ∀ c v, row.get? c = some v → ∃ s, v = .text s)
    (hne : (document.append row).columns ≠ []) : (document.append row).Tidy where
  delimiter_mem := h.delimiter_mem
  isName := by
    intro c hc
    exact (mem_columns_append.mp hc).elim (h.isName c) (hnames c)
  text := by
    intro r hr c v hv
    rw [mem_columns_append]
    rcases List.mem_append.mp hr with hr | hr
    · exact ⟨Or.inl (h.text r hr c v hv).1, (h.text r hr c v hv).2⟩
    · obtain rfl : r = row := by simpa using hr
      have hc : c ∈ r.columns := Entries.mem_names_of_get?_eq_some hv
      exact ⟨Or.inr hc, htext c v hv⟩
  rows_eq_nil := fun hnil => absurd hnil hne

/-- A document without columns is read as the empty one, whatever rows it has. -/
theorem ofText_toText_of_columns_eq_nil {document : Document} (h : document.columns = []) :
    (ofText document.toText).rows = [] := by
  have hline : firstLine ((document.toText).toList.dropWhile (· = '\ufeff')) = [] := by
    simp [toText, h, writeRecord, firstLine]
  have hblank : Text.isBlankText [] = true := rfl
  simp [ofText, hline, hblank]

/-- **A row that is appended comes back**, and all others with it, iff the document is rereadable
and has a column. -/
theorem kept_ofText_append_iff {document : Document} (h : document.Tidy) {row : Row}
    (hnames : ∀ c ∈ row.columns, IsName c)
    (htext : ∀ c v, row.get? c = some v → ∃ s, v = .text s) :
    Kept (document.append row) (ofText (document.append row).toText) ↔
      (document.append row).columns ≠ [] ∧ (document.append row).Rereadable := by
  by_cases hnil : (document.append row).columns = []
  · refine ⟨fun hkept => ?_, fun hr => absurd hnil hr.1⟩
    have hlen := hkept.2.length_eq
    rw [ofText_toText_of_columns_eq_nil hnil] at hlen
    simp [append] at hlen
  · rw [kept_ofText_toText_iff (h.append hnames htext hnil)]
    exact ⟨fun hr => ⟨hnil, hr⟩, fun hr => hr.2⟩

end Document

namespace Directory

variable {directory : Directory} {table path : String} {document : Document}

/-- A directory with the table `t` and no other. -/
def single (content : String) : Directory := ⟨.alone "d", some [("t.csv", .text content)]⟩

/-! ## 3. Removing rows -/

/-- **Removing rows loses no other row** iff the document of the other rows is rereadable. -/
theorem kept_remove_iff {test : Row → Except QueryError Bool} {p : Row → Bool}
    (hload : directory.load table = .ok (path, document))
    (htest : ∀ row ∈ document.rows, test row = .ok (p row)) :
    ∃ directory' after, directory.remove table test = .ok (document.rows.countP p, directory') ∧
      directory'.load table = .ok (path, after) ∧
      directory'.fetch table = .ok after.rows ∧
      ((document.without p).Kept after ↔ (document.without p).Rereadable) := by
  have hafter := load_write hload (document.without p)
  refine ⟨directory.write path (document.without p), .ofText (document.without p).toText,
    ?_, hafter, ?_, Document.kept_ofText_toText_iff ((tidy_of_load hload).without p)⟩
  · rw [remove, hload]
    change (Relation.discard test document.rows >>= _) = _
    rw [Relation.discard_of_ok htest]
    rfl
  · rw [fetch, hafter]
    rfl

/-- Removing a row of two columns leaves the other one. -/
theorem kept_remove_other_row : ∃ directory' after,
    (single "a,b\n1,2\n3,4\n").remove "t" (fun row => .ok (row.get? "a" = some (.text "1"))) =
        .ok (1, directory') ∧
      directory'.load "t" = .ok ("t.csv", after) ∧
      Document.Kept ⟨["a", "b"], ',', [.ofList [("a", .text "3"), ("b", .text "4")]]⟩ after := by
  have hbefore : (single "a,b\n1,2\n3,4\n").load "t" = .ok ("t.csv", ⟨["a", "b"], ',',
      [.ofList [("a", .text "1"), ("b", .text "2")],
        .ofList [("a", .text "3"), ("b", .text "4")]]⟩) := by
    rfl
  obtain ⟨directory', after, hremove, hload, -, hiff⟩ :=
    kept_remove_iff (p := fun row => row.get? "a" = some (.text "1")) hbefore fun _ _ => rfl
  exact ⟨directory', after, hremove, hload,
    hiff.mpr (Document.rereadable_of_two_le (by decide) (by decide) (by decide))⟩

/-- A blank cell in quotes is lost with its row, though no row was removed. -/
theorem remove_loses_row :
    (single "a\n\"\"\nx\n").fetch "t" =
        .ok [.ofList [("a", .text "")], .ofList [("a", .text "x")]] ∧
      ∃ directory', (single "a\n\"\"\nx\n").remove "t"
          (fun row => .ok (row.get? "a" = some (.text "y"))) = .ok (0, directory') ∧
        directory'.fetch "t" = .ok [.ofList [("a", .text "x")]] :=
  ⟨by rfl, single "a\n\nx\n", by rfl, by rfl⟩

/-! ## 4. Appending a row -/

/-- **Appending a row loses no row**, the new one included, iff the document with it is
rereadable and has a column. -/
theorem kept_append_iff {row : Row} (hload : directory.load table = .ok (path, document))
    (hnames : ∀ c ∈ row.columns, Document.IsName c)
    (htext : ∀ c v, row.get? c = some v → ∃ s, v = .text s) :
    ∃ directory' after, directory.append table row = .ok directory' ∧
      directory'.load table = .ok (path, after) ∧
      directory'.fetch table = .ok after.rows ∧
      ((document.append row).Kept after ↔
        (document.append row).columns ≠ [] ∧ (document.append row).Rereadable) := by
  have hafter := load_write hload (document.append row)
  refine ⟨directory.write path (document.append row), .ofText (document.append row).toText,
    ?_, hafter, ?_, Document.kept_ofText_append_iff (tidy_of_load hload) hnames htext⟩
  · rw [append, hload]
    rfl
  · rw [fetch, hafter]
    rfl

/-- A row that brings a column is appended to one without it. -/
theorem kept_append_new_column : ∃ directory' after,
    (single "a\n1\n").append "t" (.ofList [("b", .text "2")]) = .ok directory' ∧
      directory'.load "t" = .ok ("t.csv", after) ∧
      Document.Kept ⟨["a", "b"], ',', [.ofList [("a", .text "1")], .ofList [("b", .text "2")]]⟩
        after := by
  have hbefore : (single "a\n1\n").load "t" =
      .ok ("t.csv", ⟨["a"], ',', [.ofList [("a", .text "1")]]⟩) := by
    rfl
  have hnames : ∀ c ∈ (Row.ofList [("b", .text "2")]).columns, Document.IsName c := by
    intro c hc
    obtain rfl : c = "b" := List.mem_singleton.mp hc
    exact ⟨by decide, by decide⟩
  have htext : ∀ c v, (Row.ofList [("b", .text "2")]).get? c = some v → ∃ s, v = .text s := by
    intro c v hv
    rw [Row.get?_ofList] at hv
    have hm := Entries.mem_of_get?_eq_some hv
    simp only [List.reverse_singleton, List.mem_singleton, Prod.mk.injEq] at hm
    exact ⟨"2", hm.2⟩
  obtain ⟨directory', after, happend, hload, -, hiff⟩ := kept_append_iff hbefore hnames htext
  exact ⟨directory', after, happend, hload,
    hiff.mpr ⟨by decide, Document.rereadable_of_two_le (by decide) (by decide) (by decide)⟩⟩

/-- A blank cell that is appended to a single column is lost with its row. -/
theorem append_loses_row : ∃ directory',
    (single "a\nx\n").append "t" (.ofList [("a", .text "")]) = .ok directory' ∧
      directory'.fetch "t" = .ok [.ofList [("a", .text "x")]] :=
  ⟨single "a\nx\n\n", by rfl, by rfl⟩

end Directory
end Tabular
