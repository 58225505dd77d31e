/-
# Rows that look alike

Of rows with the same cells only the first is to stay.  What is compared, however, is a text for
every cell, and the column, the kind of the value and the value are joined in it without
delimiters that the names or the values could not hold themselves.  A column may hold what another
row has in its value: the cell `x=t:y` under `a` and the cell `y` under `a=t:x` have one text
(`RunsInto`).

* `cellKey_eq_iff`: two cells have one text only if they are one cell, or one runs into the other;
* `distinct_eq_firstsBy`: so the rows that stay are those that no earlier row looks like;
* **`distinct_first_occurrences`**: one pass with the texts that were seen finds them.  They are
  first occurrences, and all of these, unless two different rows look alike, which rows with the
  same columns never do (`Row.LooksLike.eq_of_columns_eq`).
-/
import Tabular.Proofs.Relation.Slots
import Tabular.Relation.Arrange
import Mathlib.Data.List.Forall2

namespace Tabular

namespace Relation

/-! ## 1. Cells with one text -/

/-- The text of a cell. -/
def cellKey (cell : String × Value) : String := cell.1 ++ "=" ++ cell.2.key

/-- The column of `d` begins with the column of `c` and a part of the value of `c`, and the rest of
that value is what the text of `d` goes on with. -/
def RunsInto (c d : String × Value) : Prop :=
  ∃ x, d.1 = c.1 ++ "=t:" ++ x ∧ c.2 = .text (x ++ "=" ++ d.2.key)

/-- The cells are one cell, or one of them runs into the other. -/
def CellsAlike (c d : String × Value) : Prop := c = d ∨ RunsInto c d ∨ RunsInto d c

/-- What is between the columns is all that can be parted. -/
instance : DecidableRel RunsInto := fun c d =>
  let x := String.ofList (d.1.toList.drop (c.1.toList.length + 3))
  decidable_of_iff (d.1 = c.1 ++ "=t:" ++ x ∧ c.2 = .text (x ++ "=" ++ d.2.key)) <| by
    refine ⟨fun h => ⟨x, h⟩, ?_⟩
    rintro ⟨y, hcolumn, hvalue⟩
    have hxy : x = y := by simp [x, hcolumn]
    rw [hxy]
    exact ⟨hcolumn, hvalue⟩

instance : DecidableRel CellsAlike := fun c d =>
  inferInstanceAs (Decidable (c = d ∨ RunsInto c d ∨ RunsInto d c))

/-- The text form of a value has an equals sign only behind the mark of a text. -/
theorem key_eq_append_iff {v : Value} (hv : v.IsStored) {e k : List Char} :
    v.key.toList = e ++ '=' :: k ↔
      ∃ x, e = 't' :: ':' :: x ∧ v = .text (String.ofList (x ++ '=' :: k)) := by
  constructor
  · intro h
    cases v with
    | number x => exact absurd hv id
    | null =>
      have hmem : '=' ∈ (Value.key .null).toList := by rw [h]; simp
      exact absurd hmem (by decide)
    | text s =>
      -- The mark `t:` is a part of `e`, as it has no equals sign.
      have hs : 't' :: ':' :: s.toList = e ++ '=' :: k := by simpa [Value.key] using h
      rcases e with _ | ⟨p, _ | ⟨q, x⟩⟩
      · simp at hs
      · simp at hs
      · simp only [List.cons_append, List.cons.injEq] at hs
        obtain ⟨rfl, rfl, hs⟩ := hs
        exact ⟨x, rfl, by rw [← hs, String.ofList_toList]⟩
  · rintro ⟨x, rfl, rfl⟩
    simp [Value.key]

theorem runsInto_iff {c d : String × Value} (hc : c.2.IsStored) : RunsInto c d ↔
    ∃ e, d.1.toList = c.1.toList ++ '=' :: e ∧ c.2.key.toList = e ++ '=' :: d.2.key.toList := by
  constructor
  · rintro ⟨x, hcolumn, hvalue⟩
    exact ⟨'t' :: ':' :: x.toList, by simp [hcolumn], by simp [hvalue, Value.key]⟩
  · rintro ⟨e, hcolumn, hkey⟩
    obtain ⟨x, rfl, hvalue⟩ := (key_eq_append_iff hc).mp hkey
    refine ⟨String.ofList x, ?_, ?_⟩
    · simp [← String.toList_inj, hcolumn]
    · rw [hvalue]
      simp [← String.toList_inj]

/-- **Two cells have one text** only if they are one cell, or one runs into the other. -/
theorem cellKey_eq_iff {c d : String × Value} (hc : c.2.IsStored) (hd : d.2.IsStored) :
    cellKey c = cellKey d ↔ CellsAlike c d := by
  have hchars : cellKey c = cellKey d ↔
      c.1.toList ++ '=' :: c.2.key.toList = d.1.toList ++ '=' :: d.2.key.toList := by
    rw [cellKey, cellKey, ← String.toList_inj]
    simp
  rw [hchars, CellsAlike, runsInto_iff hc, runsInto_iff hd, List.append_eq_append_iff]
  constructor
  · rintro (⟨e, hcolumn, hrest⟩ | ⟨e, hcolumn, hrest⟩)
    · cases e with
      | nil =>
        have hkeys := String.toList_inj.mp (List.cons.inj hrest).2
        rw [List.append_nil, String.toList_inj] at hcolumn
        exact Or.inl (Prod.ext hcolumn.symm ((Value.key_inj hc hd).mp hkeys))
      | cons p e =>
        obtain ⟨rfl, hkey⟩ := List.cons.inj hrest
        exact Or.inr (Or.inl ⟨e, hcolumn, hkey⟩)
    · cases e with
      | nil =>
        have hkeys := String.toList_inj.mp (List.cons.inj hrest).2
        rw [List.append_nil, String.toList_inj] at hcolumn
        exact Or.inl (Prod.ext hcolumn ((Value.key_inj hc hd).mp hkeys.symm))
      | cons p e =>
        obtain ⟨rfl, hkey⟩ := List.cons.inj hrest
        exact Or.inr (Or.inr ⟨e, hcolumn, hkey⟩)
  · rintro (rfl | ⟨e, hcolumn, hkey⟩ | ⟨e, hcolumn, hkey⟩)
    · exact Or.inl ⟨[], by simp, rfl⟩
    · exact Or.inl ⟨'=' :: e, hcolumn, by rw [hkey]; rfl⟩
    · exact Or.inr ⟨'=' :: e, hcolumn, by rw [hkey]; rfl⟩

end Relation

/-! ## 2. Rows with the same texts -/

/-- The rows have as many cells, each like the one at its place. -/
def Row.LooksLike (a b : Row) : Prop := List.Forall₂ Relation.CellsAlike a.cells b.cells

instance : DecidableRel Row.LooksLike := fun a b =>
  inferInstanceAs (Decidable (List.Forall₂ Relation.CellsAlike a.cells b.cells))

theorem Row.LooksLike.refl (a : Row) : a.LooksLike a :=
  List.forall₂_same.mpr fun _ _ => Or.inl rfl

/-- A cell that runs into another has another column. -/
theorem Row.LooksLike.eq_of_columns_eq {a b : Row} (h : a.LooksLike b)
    (hcolumns : a.columns = b.columns) : a = b := by
  have hne : ∀ {c d : String × Value}, c.1 = d.1 → ¬Relation.RunsInto c d := by
    rintro c d hcd ⟨x, hx, -⟩
    have hlength := congrArg (List.length ∘ String.toList) (hcd.trans hx)
    simp at hlength
  have hcells : List.Forall₂ Eq a.cells b.cells := by
    have hnames : List.Forall₂ (fun c d => c.1 = d.1) a.cells b.cells := by
      rw [← List.forall₂_map_right_iff, ← List.forall₂_map_left_iff, List.forall₂_eq_eq_eq]
      exact hcolumns
    refine (List.Forall₂.mp ?_ h hnames)
    rintro c d (hcd | hcd | hcd) hname
    · exact hcd
    · exact absurd hcd (hne hname)
    · exact absurd hcd (hne hname.symm)
  rw [List.forall₂_eq_eq_eq] at hcells
  exact Row.ext_cells hcells

namespace Relation

variable {rows : List Row}

theorem rowKey_eq_iff {a b : Row} (ha : a.IsStored) (hb : b.IsStored) :
    rowKey a = rowKey b ↔ a.LooksLike b := by
  have hcells : rowKey a = rowKey b ↔
      List.Forall₂ (fun c d => cellKey c = cellKey d) a.cells b.cells := by
    rw [← List.forall₂_map_right_iff, ← List.forall₂_map_left_iff, List.forall₂_eq_eq_eq]
    rfl
  rw [hcells, Row.LooksLike, List.forall₂_iff_zip, List.forall₂_iff_zip]
  refine and_congr_right fun _ => forall₂_congr fun c d => forall_congr' fun hcd => ?_
  obtain ⟨hc, hd⟩ := List.of_mem_zip hcd
  exact cellKey_eq_iff (ha c hc) (hb d hd)

/-- **The rows that stay are those that no earlier row looks like.** -/
theorem distinct_eq_firstsBy (h : ∀ row ∈ rows, row.IsStored) :
    distinct rows = firstsBy Row.LooksLike rows :=
  firsts_eq_firstsBy fun a ha b hb => rowKey_eq_iff (h a ha) (h b hb)

/-- These are all first occurrences just if no row looks like another one. -/
theorem distinct_eq_firstsBy_eq_iff (h : ∀ row ∈ rows, row.IsStored) :
    distinct rows = firstsBy (· = ·) rows ↔ ∀ a ∈ rows, ∀ b ∈ rows, a.LooksLike b → a = b := by
  constructor
  · intro hdistinct a ha b hb hab
    have hfirsts : firsts id rows = firstsBy (· = ·) rows :=
      firsts_eq_firstsBy fun _ _ _ _ => Iff.rfl
    have hmem : ∀ row ∈ rows, row ∈ distinct rows := by
      intro row hrow
      rw [hdistinct, ← hfirsts]
      simpa using (mem_keys_firsts id rows row).mpr (by simpa using hrow)
    -- Both rows stay, but rows that stay have different texts.
    exact List.inj_on_of_nodup_map (nodup_keys_firsts rowKey rows) (hmem a ha) (hmem b hb)
      ((rowKey_eq_iff (h a ha) (h b hb)).mpr hab)
  · intro halike
    refine firsts_eq_firstsBy fun a ha b hb => ⟨fun hkey => ?_, fun hab => hab ▸ rfl⟩
    exact halike a ha b hb ((rowKey_eq_iff (h a ha) (h b hb)).mp hkey)

/-- **Leaving out repetitions.**  One pass, with the texts that were seen, keeps the rows that no
earlier row looks like, in their order.  They are first occurrences of rows; and all of these stay
if and only if no two different rows look alike, such as where all rows have the same columns. -/
theorem distinct_first_occurrences (h : ∀ row ∈ rows, row.IsStored) :
    unseen rowKey [] rows = distinct rows ∧
      distinct rows = firstsBy Row.LooksLike rows ∧
      (distinct rows).Sublist (firstsBy (· = ·) rows) ∧
      (distinct rows = firstsBy (· = ·) rows ↔
        ∀ a ∈ rows, ∀ b ∈ rows, a.LooksLike b → a = b) ∧
      ((∀ a ∈ rows, ∀ b ∈ rows, a.columns = b.columns) →
        distinct rows = firstsBy (· = ·) rows) := by
  have hiff := distinct_eq_firstsBy_eq_iff h
  refine ⟨?_, distinct_eq_firstsBy h, ?_, hiff, fun hcolumns => ?_⟩
  · rw [unseen_eq, distinct]
    simp
  · rw [distinct_eq_firstsBy h]
    exact firstsBy_sublist (fun a b hab => hab ▸ Row.LooksLike.refl a) rows
  · exact hiff.mpr fun a ha b hb hab => hab.eq_of_columns_eq (hcolumns a ha b hb)

/-- Rows with different columns, and with the same columns in another order; a row comes twice. -/
def variedRows : List Row :=
  [Row.ofList [("a", .text "1"), ("b", .null)], Row.ofList [("a", .text "x=t:y")],
    Row.ofList [("b", .null), ("a", .text "1")], Row.ofList [("a", .text "1"), ("b", .null)],
    Row.ofList [("a", .text "1"), ("b", .text "null")], Row.ofList [("a=t:x", .text "z")]]

theorem distinct_first_occurrences_varied : (∀ row ∈ variedRows, row.IsStored) ∧
    distinct variedRows = variedRows.eraseIdx 3 := by
  have hstored : ∀ row ∈ variedRows, row.IsStored := by decide +kernel
  have halike : ∀ a ∈ variedRows, ∀ b ∈ variedRows, a.LooksLike b → a = b := by decide +kernel
  have hfirst : firstsBy (· = ·) variedRows = variedRows.eraseIdx 3 := by decide +kernel
  exact ⟨hstored, ((distinct_first_occurrences hstored).2.2.2.1.mpr halike).trans hfirst⟩

/-- **Two different rows that look alike**: the second is left out. -/
theorem distinct_lookalikes :
    distinct [Row.ofList [("a", .text "x=t:y")], Row.ofList [("a=t:x", .text "y")]] =
        [Row.ofList [("a", .text "x=t:y")]] ∧
      Row.ofList [("a=t:x", .text "y")] ≠ Row.ofList [("a", .text "x=t:y")] := by
  decide +kernel

end Relation
end Tabular
