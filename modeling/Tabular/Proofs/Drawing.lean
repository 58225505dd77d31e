/-
# Tables for the terminal

A table is drawn in passes that know nothing of one another: the columns are gathered, then the
widths, and then every line is filled up by itself.  That the bars stand below each other rests on
the width of a column being that of its longest text, as no text is ever cut.

The text of a table is put together from its lines, so `'\n'` in a cell would break one of them.
Without it, the lines can be told apart again (`splitOn_box`), and each of them is one character and
then a slot for every column, `width + 3` characters wide.

* `isGreatest_width`: a width is that of the longest text;
* `length_slot`, `length_rule`: so slots fill their columns, and rules are as long as they are;
* `slot_textLine`: the slot of a column stands at the same place in every line;
* **`draw_rows`**: all of it.
-/
import Tabular.Answer
import Tabular.Proofs.Entries
import Tabular.Proofs.Pieces
import Tabular.Proofs.Row
import Mathlib.Algebra.Ring.Nat
import Mathlib.Order.Bounds.Basic

namespace Tabular
namespace Drawing

variable {rows : List Row} {c : String}

/-! ## 1. Widths -/

/-- The length of a text that the column has: its name, or the text of a cell. -/
def IsLength (rows : List Row) (c : String) (n : Nat) : Prop :=
  n = c.length ∨ ∃ row ∈ rows, n = (cell row c).length

/-- The fold keeps the greatest of the numbers it has come to. -/
theorem isGreatest_foldl_max (ns : List Nat) (a : Nat) :
    IsGreatest {n | n = a ∨ n ∈ ns} (ns.foldl max a) := by
  induction ns generalizing a with
  | nil => simp [IsGreatest, upperBounds]
  | cons m ns ih =>
    obtain ⟨hmem, hupper⟩ := ih (max a m)
    have hmax : max a m ≤ ns.foldl max (max a m) := hupper (Or.inl rfl)
    refine ⟨?_, fun n hn => ?_⟩
    · rcases hmem with hmem | hmem
      · rcases max_choice a m with ha | hm
        · exact Or.inl (hmem.trans ha)
        · exact Or.inr (List.mem_cons.mpr (Or.inl (hmem.trans hm)))
      · exact Or.inr (List.mem_cons_of_mem _ hmem)
    · rcases hn with rfl | hn
      · exact (le_max_left _ _).trans hmax
      · rcases List.mem_cons.mp hn with rfl | hn
        · exact (le_max_right _ _).trans hmax
        · exact hupper (Or.inr hn)

/-- **A width is that of the longest text.** -/
theorem isGreatest_width (rows : List Row) (c : String) :
    IsGreatest {n | IsLength rows c n} (width rows c) := by
  have hset : {n | IsLength rows c n} =
      {n | n = c.length ∨ n ∈ rows.map fun row => (cell row c).length} := by
    ext n
    simp [IsLength, eq_comm]
  rw [hset]
  exact isGreatest_foldl_max _ _

theorem length_le_width : c.length ≤ width rows c :=
  (isGreatest_width rows c).2 (Or.inl rfl)

theorem length_cell_le_width {row : Row} (h : row ∈ rows) : (cell row c).length ≤ width rows c :=
  (isGreatest_width rows c).2 (Or.inr ⟨row, h, rfl⟩)

/-! ## 2. Lines -/

/-- A text between two bars, without the first of them. -/
def slot (width : Nat) (text : String) : List Char :=
  ' ' :: (text.toList ++ List.replicate (width - text.length) ' ') ++ [' ', '│']

theorem length_slot {text : String} {width : Nat} (h : text.length ≤ width) :
    (slot width text).length = width + 3 := by
  simp only [slot, List.length_append, List.length_cons, List.length_replicate, List.length_nil,
    String.length_toList]
  omega

/-- A line with a text for each column. -/
def textLine (rows : List Row) (text : String → String) : List Char :=
  '│' :: (columnsOf rows).flatMap fun c => slot (width rows c) (text c)

/-- A horizontal line. -/
def rule (rows : List Row) (left middle right : Char) : List Char :=
  left :: ([middle].intercalate
    ((columnsOf rows).map fun c => List.replicate (width rows c + 2) '─') ++ [right])

/-- The lines of a box. -/
def boxLines (rows : List Row) : List (List Char) :=
  [rule rows '┌' '┬' '┐', textLine rows id, rule rows '├' '┼' '┤'] ++
    rows.map (fun row => textLine rows (cell row)) ++ [rule rows '└' '┴' '┘']

/-- The line behind the box, which tells how many rows there are. -/
def countLine (rows : List Row) : List Char := (rows.length.repr ++ " row(s) returned").toList

theorem toList_line (rows : List Row) (text : String → String) :
    (line ((columnsOf rows).map fun c => (text c, width rows c))).toList =
      textLine rows text ++ ['\n'] := by
  simp [line, textLine, slot, pad, Function.comp_def, List.flatMap_map, String.toList_join]

theorem toList_border (rows : List Row) {left middle right : String} {l m r : Char}
    (hl : left.toList = [l]) (hm : middle.toList = [m]) (hr : right.toList = [r]) :
    (border left middle right ((columnsOf rows).map (width rows))).toList =
      rule rows l m r ++ ['\n'] := by
  simp [border, rule, hl, hm, hr, Function.comp_def, String.toList_intercalate]

/-- **A box is put together from its lines.** -/
theorem toList_box (rows : List Row) :
    (box rows).toList = ['\n'].intercalate (boxLines rows ++ [[]] ++ [countLine rows]) := by
  have hzip : (columnsOf rows).zip ((columnsOf rows).map (width rows)) =
      (columnsOf rows).map fun c => (id c, width rows c) :=
    List.map_prod_left_eq_zip.symm
  have hrows : (rows.map fun row => line (((columnsOf rows).map (cell row)).zip
      ((columnsOf rows).map (width rows)))).flatMap String.toList =
        (rows.map fun row => textLine rows (cell row)).flatMap (· ++ ['\n']) := by
    simp only [List.zip_map', List.flatMap_map, toList_line]
  have htop : (border "┌" "┬" "┐" ((columnsOf rows).map (width rows))).toList =
      rule rows '┌' '┬' '┐' ++ ['\n'] := toList_border rows rfl rfl rfl
  have hmiddle : (border "├" "┼" "┤" ((columnsOf rows).map (width rows))).toList =
      rule rows '├' '┼' '┤' ++ ['\n'] := toList_border rows rfl rfl rfl
  have hbottom : (border "└" "┴" "┘" ((columnsOf rows).map (width rows))).toList =
      rule rows '└' '┴' '┘' ++ ['\n'] := toList_border rows rfl rfl rfl
  rw [intercalate_concat]
  simp only [box, hzip, String.toList_append, String.toList_join, toList_line, hrows, htop, hmiddle,
    hbottom]
  simp [boxLines, countLine]

/-- What holds of every rule and of every line with texts holds of all lines of a box. -/
theorem forall_mem_boxLines {P : List Char → Prop}
    (hrule : ∀ left middle right, '\n' ∉ [left, middle, right] → P (rule rows left middle right))
    (hnames : P (textLine rows id)) (hcells : ∀ row ∈ rows, P (textLine rows (cell row))) :
    ∀ line ∈ boxLines rows, P line := by
  simp only [boxLines, List.mem_append, List.mem_cons, List.not_mem_nil, or_false, List.mem_map]
  rintro line (((rfl | rfl | rfl) | ⟨row, hrow, rfl⟩) | rfl)
  · exact hrule _ _ _ (by decide)
  · exact hnames
  · exact hrule _ _ _ (by decide)
  · exact hcells row hrow
  · exact hrule _ _ _ (by decide)

/-! ## 3. Every line by itself -/

/-- The width of the table: a bar, and a slot for each column. -/
def tableWidth (rows : List Row) : Nat := 1 + ((columnsOf rows).map fun c => width rows c + 3).sum

theorem length_textLine {text : String → String}
    (h : ∀ c ∈ columnsOf rows, (text c).length ≤ width rows c) :
    (textLine rows text).length = tableWidth rows := by
  have hslots : (columnsOf rows).map (fun c => (slot (width rows c) (text c)).length) =
      (columnsOf rows).map fun c => width rows c + 3 :=
    List.map_congr_left fun c hc => length_slot (h c hc)
  rw [textLine, List.length_cons, List.length_flatMap, hslots, tableWidth, Nat.add_comm]

/-- The crossings of a rule take the room of the bars; this needs a column. -/
theorem length_rule (hne : columnsOf rows ≠ []) (left middle right : Char) :
    (rule rows left middle right).length = tableWidth rows := by
  have hparts : ((columnsOf rows).map fun c => List.replicate (width rows c + 2) '─') ≠ [] := by
    simpa using hne
  have hjoin := length_intercalate middle hparts
  simp only [List.map_map, Function.comp_def, List.length_replicate] at hjoin
  rw [rule, List.length_cons, List.length_append, List.length_singleton, hjoin, tableWidth,
    Nat.add_comm]

/-- Where the slot of the column at a place starts in a line. -/
def offset (rows : List Row) (j : Nat) : Nat :=
  1 + (((columnsOf rows).take j).map fun c => width rows c + 3).sum

/-- **The slots of a line** start at the same places in every line. -/
theorem slot_textLine {text : String → String}
    (h : ∀ c ∈ columnsOf rows, (text c).length ≤ width rows c) {j : Nat}
    (hj : (columnsOf rows)[j]? = some c) :
    ((textLine rows text).drop (offset rows j)).take (width rows c + 3) =
      slot (width rows c) (text c) := by
  have hslots : (((columnsOf rows).take j).map fun c => (slot (width rows c) (text c)).length) =
      ((columnsOf rows).take j).map fun c => width rows c + 3 :=
    List.map_congr_left fun c hc => length_slot (h c (List.mem_of_mem_take hc))
  have hpiece := take_drop_flatMap (fun c => slot (width rows c) (text c)) hj
  rw [hslots, length_slot (h c (List.mem_of_getElem? hj))] at hpiece
  rwa [textLine, offset, Nat.add_comm 1, List.drop_succ_cons]

/-! ## 4. The lines of a text -/

/-- No name and no cell has a line break. -/
structure Unbroken (rows : List Row) : Prop where
  name : ∀ c ∈ columnsOf rows, '\n' ∉ c.toList
  cell : ∀ c ∈ columnsOf rows, ∀ row ∈ rows, '\n' ∉ (cell row c).toList

theorem notMem_textLine {text : String → String}
    (h : ∀ c ∈ columnsOf rows, '\n' ∉ (text c).toList) : '\n' ∉ textLine rows text := by
  simp only [textLine, List.mem_cons, List.mem_flatMap, not_or, not_exists, not_and]
  exact ⟨by decide, fun c hc => by simp [slot, h c hc]⟩

theorem notMem_rule {left middle right : Char} (h : '\n' ∉ [left, middle, right]) :
    '\n' ∉ rule rows left middle right := by
  have hparts : ∀ part ∈ (columnsOf rows).map fun c => List.replicate (width rows c + 2) '─',
      '\n' ∉ part := by
    intro part hpart
    obtain ⟨c, -, rfl⟩ := List.mem_map.mp hpart
    exact fun hmem => absurd (List.eq_of_mem_replicate hmem) (by decide)
  simp only [List.mem_cons, List.not_mem_nil, or_false, not_or] at h
  simp only [rule, List.mem_cons, List.mem_append, List.not_mem_nil, or_false, not_or]
  exact ⟨h.1, notMem_intercalate h.2.1 hparts, h.2.2⟩

theorem notMem_countLine (rows : List Row) : '\n' ∉ countLine rows := by
  rw [countLine, String.toList_append, Nat.toList_repr, List.mem_append, not_or]
  refine ⟨fun hmem => ?_, by decide⟩
  exact absurd (Nat.isDigit_of_mem_toDigits (by decide) (by decide) hmem) (by decide)

/-- **The lines of a table** can be told apart. -/
theorem splitOn_box (h : Unbroken rows) :
    (box rows).toList.splitOn '\n' = boxLines rows ++ ([[]] ++ [countLine rows]) := by
  have hbox : ∀ line ∈ boxLines rows, '\n' ∉ line :=
    forall_mem_boxLines (fun _ _ _ => notMem_rule) (notMem_textLine h.name)
      fun row hrow => notMem_textLine fun c hc => h.cell c hc row hrow
  rw [toList_box, List.splitOn_intercalate _ _ (by simp), List.append_assoc]
  intro line hline
  simp only [List.mem_append, List.mem_singleton] at hline
  rcases hline with (hline | rfl) | rfl
  · exact hbox line hline
  · exact List.not_mem_nil
  · exact notMem_countLine rows

/-! ## 5. Tables -/

theorem mem_columnsOf : c ∈ columnsOf rows ↔ ∃ row ∈ rows, c ∈ row.columns := by
  rw [columnsOf, List.mem_eraseDups, List.mem_flatMap]

/-- A cell that a row does not have is empty, and cannot break a line. -/
theorem unbroken_of_forall (h : ∀ row ∈ rows, ∀ c ∈ row.columns,
    '\n' ∉ c.toList ∧ '\n' ∉ (cell row c).toList) : Unbroken rows where
  name := by
    intro c hc
    obtain ⟨row, hrow, hcolumn⟩ := mem_columnsOf.mp hc
    exact (h row hrow c hcolumn).1
  cell := by
    intro c _ row hrow
    by_cases hcolumn : c ∈ row.columns
    · exact (h row hrow c hcolumn).2
    · have hnone : row.get? c = none := by
        rwa [Row.mem_columns_iff, Option.not_isSome_iff_eq_none] at hcolumn
      simp [Drawing.cell, hnone]

/-- A table of rows, as lines: three lines for its head, a line for each row, a line that closes it,
a line without anything and a line for the number of rows. -/
structure IsTable (rows : List Row) (lines : List (List Char)) : Prop where
  columns_firsts : IsFirsts (rows.flatMap Row.columns) (columnsOf rows)
  isGreatest_width : ∀ c ∈ columnsOf rows, IsGreatest {n | IsLength rows c n} (width rows c)
  length_eq : lines.length = rows.length + 6
  length_line : ∀ line ∈ lines.take (rows.length + 4),
    line.length = 1 + ((columnsOf rows).map fun c => width rows c + 3).sum
  name_slot : ∀ j c, (columnsOf rows)[j]? = some c → ∃ line, lines[1]? = some line ∧
    (line.drop (offset rows j)).take (width rows c + 3) = slot (width rows c) c
  cell_slot : ∀ i row, rows[i]? = some row → ∀ j c, (columnsOf rows)[j]? = some c →
    ∃ line, lines[i + 3]? = some line ∧
      (line.drop (offset rows j)).take (width rows c + 3) = slot (width rows c) (cell row c)
  blank : lines[rows.length + 4]? = some []
  count : lines[rows.length + 5]? = some (rows.length.repr ++ " row(s) returned").toList

theorem length_boxLines (rows : List Row) : (boxLines rows).length = rows.length + 4 := by
  simp [boxLines]

theorem getElem?_boxLines {i : Nat} {row : Row} (hi : rows[i]? = some row) :
    (boxLines rows)[i + 3]? = some (textLine rows (cell row)) := by
  have hlen : i < (rows.map fun row => textLine rows (cell row)).length := by
    rw [List.length_map]
    exact (List.getElem?_eq_some_iff.mp hi).1
  rw [boxLines, List.append_assoc]
  change ((rows.map fun row => textLine rows (cell row)) ++ [rule rows '└' '┴' '┘'])[i]? = _
  rw [List.getElem?_append_left hlen, List.getElem?_map, hi, Option.map_some]

/-- **The lines of a box**, and the two behind them, are a table, if there is a column. -/
theorem isTable_boxLines (hne : columnsOf rows ≠ []) :
    IsTable rows (boxLines rows ++ ([[]] ++ [countLine rows])) where
  columns_firsts := isFirsts_eraseDups _
  isGreatest_width := fun c _ => isGreatest_width rows c
  length_eq := by rw [List.length_append, length_boxLines]; rfl
  length_line := by
    rw [← length_boxLines, List.take_left]
    exact forall_mem_boxLines (fun _ _ _ _ => length_rule hne _ _ _)
      (length_textLine fun c _ => length_le_width)
      fun row hrow => length_textLine fun c _ => length_cell_le_width hrow
  name_slot := fun j c hj => ⟨_, rfl, slot_textLine (fun _ _ => length_le_width) hj⟩
  cell_slot := by
    intro i row hi j c hj
    have hrow := List.mem_of_getElem? hi
    refine ⟨_, ?_, slot_textLine (fun _ _ => length_cell_le_width hrow) hj⟩
    rw [List.getElem?_append_left]
    · exact getElem?_boxLines hi
    · exact (List.getElem?_eq_some_iff.mp (getElem?_boxLines hi)).1
  blank := by
    rw [List.getElem?_append_right (length_boxLines rows).le, length_boxLines, Nat.sub_self]
    rfl
  count := by
    rw [List.getElem?_append_right (by rw [length_boxLines]; omega), length_boxLines]
    simp [countLine]

/-- **Tables are drawn aligned and complete.** -/
theorem draw_rows (hcolumn : ∃ row ∈ rows, row.columns ≠ [])
    (hbreak : ∀ row ∈ rows, ∀ c ∈ row.columns,
      '\n' ∉ c.toList ∧ '\n' ∉ (cell row c).toList) :
    IsTable rows ((Answer.rows rows).draw.toList.splitOn '\n') := by
  obtain ⟨row, hrow, hne⟩ := hcolumn
  have hcolumns : columnsOf rows ≠ [] := by
    obtain ⟨c, hc⟩ := List.exists_mem_of_ne_nil _ hne
    exact List.ne_nil_of_mem (mem_columnsOf.mpr ⟨row, hrow, hc⟩)
  have hdraw : (Answer.rows rows).draw = box rows := by
    cases rows with
    | nil => exact absurd hrow List.not_mem_nil
    | cons row rows => rfl
  rw [hdraw, splitOn_box (unbroken_of_forall hbreak)]
  exact isTable_boxLines hcolumns

/-- Two rows, of which the second has no cell for the last column. -/
def unevenRows : List Row :=
  [Row.ofList [("id", .text "1"), ("name", .text "Jo")], Row.ofList [("id", .text "22")]]

theorem draw_rows_uneven :
    (Answer.rows unevenRows).draw = "┌────┬──────┐\n│ id │ name │\n├────┼──────┤\n" ++
      "│ 1  │ Jo   │\n│ 22 │      │\n└────┴──────┘\n\n2 row(s) returned" ∧
    IsTable unevenRows ((Answer.rows unevenRows).draw.toList.splitOn '\n') ∧
    (columnsOf unevenRows).map (width unevenRows) = [2, 4] :=
  ⟨by decide +kernel, draw_rows ⟨_, List.mem_cons_self, by decide⟩ (by decide), by decide⟩

end Drawing
end Tabular
