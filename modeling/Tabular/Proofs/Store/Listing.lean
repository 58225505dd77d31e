/-
# Listed tables and tables that are found

A directory lists its tables by the names of its files, and it finds the file of a table by the
name of the table.  Both leave letter case out of account, but not in the same way: listing puts a
file name in lower case, whereas a search knows the letter case of ASCII letters only.

* `eraseReps` of a list in order is strictly in order (`pairwise_eraseReps`), so no table is listed
  twice;
* `tableOf?_of_sameName`: a file that is found for a name in lower case is listed under it;
* **`fetch_listed_iff`**: what is found is listed; what is listed is found if and only if a file has
  its name, up to the case of ASCII letters;
* `listed_not_found`: so a file whose name has another capital is listed, and not found.
-/
import Tabular.Proofs.Store.Locating

namespace Tabular

/-! ## 1. Names in strict order -/

section Reps

variable {α : Type} [DecidableEq α] {x : α} {l : List α}

theorem loop_eq_append (l : List α) (a : α) (acc : List α) :
    List.eraseRepsBy.loop (· == ·) a l acc = acc.reverse ++ (a :: l).eraseReps := by
  induction l generalizing a acc with
  | nil => simp [List.eraseReps, List.eraseRepsBy, List.eraseRepsBy.loop]
  | cons b l ih =>
    simp only [List.eraseReps, List.eraseRepsBy, List.eraseRepsBy.loop] at ih ⊢
    split
    · exact ih a acc
    · rw [ih b (a :: acc), ih b [a]]
      simp

theorem eraseReps_cons_cons (a b : α) (l : List α) : (a :: b :: l).eraseReps =
    if a = b then (a :: l).eraseReps else a :: (b :: l).eraseReps := by
  change List.eraseRepsBy.loop (· == ·) a (b :: l) [] = _
  rw [List.eraseRepsBy.loop, loop_eq_append, loop_eq_append]
  by_cases h : a = b
  · rw [beq_iff_eq.mpr h, if_pos h]
    rfl
  · rw [beq_eq_false_iff_ne.mpr h, if_neg h]
    rfl

theorem mem_eraseReps : x ∈ l.eraseReps ↔ x ∈ l := by
  cases l with
  | nil => rfl
  | cons a l =>
    induction l generalizing a with
    | nil => rfl
    | cons b l ih =>
      rw [eraseReps_cons_cons]
      by_cases h : a = b
      · rw [if_pos h, ih a]
        simp [h]
      · rw [if_neg h, List.mem_cons, ih b, List.mem_cons (a := x) (b := a)]

end Reps

/-- Among names in order equal ones stand together, so none is left twice. -/
theorem pairwise_eraseReps {names : List String} (h : names.Pairwise (· ≤ ·)) :
    names.eraseReps.Pairwise (· < ·) := by
  cases names with
  | nil => exact .nil
  | cons a names =>
    induction names generalizing a with
    | nil => exact List.pairwise_singleton _ a
    | cons b names ih =>
      obtain ⟨hle, htail⟩ := List.pairwise_cons.mp h
      rw [eraseReps_cons_cons]
      by_cases hab : a = b
      · rw [if_pos hab, hab]
        exact ih b htail
      · rw [if_neg hab, List.pairwise_cons]
        refine ⟨fun c hc => String.not_le.mp fun hca => ?_, ih b htail⟩
        -- Otherwise `b` is between `a` and a name that is not above `a`.
        have hbc : b ≤ c := by
          rcases List.mem_cons.mp (mem_eraseReps.mp hc) with rfl | hc
          · exact String.le_refl _
          · exact (List.pairwise_cons.mp htail).1 c hc
        exact hab (String.le_antisymm (hle b List.mem_cons_self) (String.le_trans hbc hca))

theorem pairwise_sortNames (names : List String) : (sortNames names).Pairwise (· ≤ ·) := by
  have htrans : ∀ a b c : String, decide (a ≤ b) = true → decide (b ≤ c) = true →
      decide (a ≤ c) = true := by
    simpa only [decide_eq_true_iff] using fun a b c => String.le_trans (a := a) (b := b) (c := c)
  have htotal : ∀ a b : String, (decide (a ≤ b) || decide (b ≤ a)) = true := by
    simpa only [Bool.or_eq_true, decide_eq_true_iff] using String.le_total
  simpa only [sortNames, decide_eq_true_iff] using List.pairwise_mergeSort htrans htotal names

theorem mem_sortNames {names : List String} {name : String} :
    name ∈ sortNames names ↔ name ∈ names := List.mem_mergeSort

namespace Directory

variable {directory : Directory} {files : Entries Content} {name table : String}

/-! ## 2. File names and tables -/

theorem tableOf?_eq_some_iff : tableOf? name = some table ↔
    ∃ stem extension, name.toList = stem ++ extension ∧ stem ≠ [] ∧
      extension.map Char.toLower = suffix.toList ∧ Text.lower (String.ofList stem) = table := by
  have hsuffix : suffix.toList.map Char.toLower = suffix.toList := by decide
  constructor
  · intro h
    simp only [tableOf?, sameName, String.toList_ofList, hsuffix] at h
    split at h
    · rename_i hname
      rw [decide_eq_true_iff] at hname
      exact ⟨_, _, (List.take_append_drop _ _).symm, hname.1, hname.2, Option.some.inj h⟩
    · simp at h
  · rintro ⟨stem, extension, hname, hne, hextension, rfl⟩
    have hlength : extension.length = 4 := by
      rw [← List.length_map (f := Char.toLower), hextension]
      rfl
    simp only [tableOf?, sameName, String.toList_ofList, hsuffix, hname, List.length_append, hlength,
      Nat.add_sub_cancel, List.take_left', List.drop_left']
    simp [hne, hextension]

/-- A name under which a table can be listed: in lower case, not empty, and in one directory. -/
structure IsTableName (table : String) : Prop where
  lower : Text.lower table = table
  ne_empty : table ≠ ""
  isLocal : '/' ∉ table.toList

theorem isTableName_of_tableOf? (h : tableOf? name = some table) (hlocal : '/' ∉ name.toList) :
    IsTableName table := by
  obtain ⟨stem, extension, hname, hne, -, rfl⟩ := tableOf?_eq_some_iff.mp h
  refine ⟨Text.lower_lower _, ?_, fun hslash => ?_⟩
  · rw [ne_eq, Text.lower_eq_empty_iff, String.ofList_eq_empty_iff]
    exact hne
  · have hstem := Text.mem_of_mem_lower hslash (by decide)
    rw [String.toList_ofList] at hstem
    exact hlocal (hname ▸ List.mem_append_left _ hstem)

/-- **A file that is found for a name is listed under it.** -/
theorem tableOf?_of_sameName (htable : IsTableName table)
    (h : sameName (pathOf table) name = true) : tableOf? name = some table := by
  rw [sameName, decide_eq_true_iff, map_toLower_pathOf htable.lower, eq_comm,
    List.map_eq_append_iff] at h
  obtain ⟨stem, extension, hname, hstem, hextension⟩ := h
  refine tableOf?_eq_some_iff.mpr ⟨stem, extension, hname, ?_, hextension, ?_⟩
  · rintro rfl
    exact htable.ne_empty (String.toList_eq_nil_iff.mp hstem.symm)
  · exact Text.lower_eq_of_map_toLower htable.lower (by rw [String.toList_ofList, hstem])

/-! ## 3. Found tables -/

/-- A directory of texts.  No file of it stands elsewhere. -/
structure HoldsTexts (directory : Directory) (files : Entries Content) : Prop where
  files_eq : directory.files = some files
  isText : ∀ file ∈ files, ∃ s, file.2 = .text s
  isLocal : ∀ name ∈ files.names, '/' ∉ name.toList
  ordinary : directory.around.Ordinary files.names

/-- **A table is found where a file has its name**, up to the case of ASCII letters.  Else there is
no such table, or the system says why its file cannot be there. -/
theorem HoldsTexts.fetch_iff (h : directory.HoldsTexts files) (htable : IsTableName table) :
    ((∃ rows, directory.fetch table = .ok rows) ↔
        ∃ name ∈ files.names, sameName (pathOf table) name = true) ∧
      ((∃ rows, directory.fetch table = .ok rows) ∨
        directory.fetch table = .error (.tableNotFound table) ∨
        ∃ fault, directory.around.follow (some files.names) (pathOf table) = .error fault ∧
          directory.fetch table = .error (.unreadable table fault)) := by
  have hlocal : '/' ∉ (pathOf table).toList :=
    mt (slash_mem_pathOf_iff htable.lower).mp htable.isLocal
  by_cases hsame : ∃ name ∈ files.names, sameName (pathOf table) name = true
  · obtain ⟨name, hmem, -, hload⟩ := load_of_sameName h.files_eq h.ordinary hlocal hsame
    obtain ⟨content, hget⟩ := Option.isSome_iff_exists.mp (Entries.isSome_get?_iff.mpr hmem)
    obtain ⟨s, rfl⟩ := h.isText _ (Entries.mem_of_get?_eq_some hget)
    have hfetch : ∃ rows, directory.fetch table = .ok rows := by
      rw [fetch, hload s hget]
      exact ⟨_, rfl⟩
    exact ⟨iff_of_true hfetch hsame, .inl hfetch⟩
  · have hfetch : directory.fetch table = .error
        (failure table (directory.around.faultAt files.names (pathOf table))) := by
      rw [fetch, load_of_not_sameName h.files_eq h.ordinary hlocal hsame]
      rfl
    refine ⟨iff_of_false (by simp [hfetch]) hsame, .inr ?_⟩
    rcases failure_faultAt table with hfailure | ⟨fault, hfollow, -, hfailure⟩
    · exact .inl (hfailure ▸ hfetch)
    · exact .inr ⟨fault, hfollow, hfailure ▸ hfetch⟩

/-! ## 4. Listed and found -/

/-- The tables that the files with some names stand for. -/
def listed (names : List String) : List String := (sortNames (names.filterMap tableOf?)).eraseReps

theorem mem_listed {names : List String} :
    table ∈ listed names ↔ ∃ name ∈ names, tableOf? name = some table := by
  rw [listed, mem_eraseReps, mem_sortNames, List.mem_filterMap]

/-- **What is found is listed, once and in order; what is listed is found if a file has its name up
to the case of ASCII letters**, and else there is no such table, or the system says why its file
cannot be there. -/
theorem fetch_listed_iff (h : directory.HoldsTexts files) : ∃ names,
    directory.tables = .ok names ∧ names.Pairwise (· < ·) ∧
      (∀ table, IsTableName table → (∃ rows, directory.fetch table = .ok rows) →
        table ∈ names) ∧
      ∀ table ∈ names,
        ((∃ rows, directory.fetch table = .ok rows) ↔
          ∃ name ∈ files.names, sameName (pathOf table) name = true) ∧
        ((∃ rows, directory.fetch table = .ok rows) ∨
          directory.fetch table = .error (.tableNotFound table) ∨
          ∃ fault, directory.around.follow (some files.names) (pathOf table) = .error fault ∧
            directory.fetch table = .error (.unreadable table fault)) := by
  obtain ⟨listing, hlist, hlisting⟩ := h.ordinary.exists_list
  refine ⟨listed listing, by rw [tables, names_of_files h.files_eq, hlist, listed],
    pairwise_eraseReps (pairwise_sortNames _), fun table htable hfetch => ?_,
    fun table hlisted => ?_⟩
  · obtain ⟨name, hmem, hsame⟩ := (h.fetch_iff htable).1.mp hfetch
    exact mem_listed.mpr ⟨name, (hlisting name).mpr hmem, tableOf?_of_sameName htable hsame⟩
  · obtain ⟨name, hmem, htable⟩ := mem_listed.mp hlisted
    exact h.fetch_iff (isTableName_of_tableOf? htable (h.isLocal name ((hlisting name).mp hmem)))

/-- One table of one number, in a file of some name. -/
def inFile (name : String) : Directory := ⟨.alone "d", some [(name, .text "x\n1\n")]⟩

theorem holdsTexts_inFile {name : String} (h : Surroundings.IsFileName "d" name) :
    (inFile name).HoldsTexts [(name, .text "x\n1\n")] where
  files_eq := rfl
  isText := by simp
  isLocal := by simpa [Entries.names] using h.isLocal
  ordinary := Surroundings.ordinary_alone (by simpa [Entries.names] using h)

theorem tables_inFile {name table : String} (h : tableOf? name = some table) :
    (inFile name).tables = .ok [table] := by
  have hnames : [name].filterMap tableOf? = [table] := by simp [h]
  change Except.ok (sortNames ([name].filterMap tableOf?)).eraseReps = _
  rw [hnames, sortNames, List.mergeSort_singleton]
  rfl

/-- A file in capitals is listed in lower case, and found. -/
theorem fetch_listed_capital : ∃ rows,
    (inFile "T.CSV").tables = .ok ["t"] ∧ (inFile "T.CSV").fetch "t" = .ok rows := by
  have hlisted : (inFile "T.CSV").tables = .ok ["t"] := tables_inFile (by decide)
  have hname : Surroundings.IsFileName "d" "T.CSV" :=
    ⟨by decide, by decide, by decide, by decide, by decide⟩
  obtain ⟨names, htables, -, -, hfound⟩ := fetch_listed_iff (holdsTexts_inFile hname)
  obtain rfl : ["t"] = names := Except.ok.inj (hlisted.symm.trans htables)
  obtain ⟨rows, hrows⟩ := (hfound "t" (by decide)).1.mpr ⟨"T.CSV", by decide, by decide⟩
  exact ⟨rows, hlisted, hrows⟩

/-- **A file with a capital beyond ASCII is listed and not found.** -/
theorem listed_not_found :
    (inFile "É.csv").tables = .ok ["é"] ∧
    (inFile "É.csv").fetch "é" = .error (.tableNotFound "é") := by
  have hname : Surroundings.IsFileName "d" "É.csv" :=
    ⟨by decide, by decide, by decide, by decide, by decide⟩
  have htable : IsTableName "é" := ⟨by decide +kernel, by decide, by decide⟩
  refine ⟨tables_inFile (by decide +kernel), ?_⟩
  have hsame : ¬∃ name ∈ ["É.csv"], sameName (pathOf "é") name = true := by decide +kernel
  have hload :=
    load_of_not_sameName rfl (holdsTexts_inFile hname).ordinary (by decide +kernel) hsame
  rw [fetch, hload]
  rfl

end Directory

end Tabular
