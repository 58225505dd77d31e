/-
# Where the file of a table is found

The path of a table is a name with `.csv` behind it.  If the name has no slash, the path names a
file of the directory or nothing, but the system need not take it: a name can have too many bytes,
and a path that holds a zero character leads nowhere.

* `search_eq_ok_iff`: where nothing is known of what is around, a path leads to a file just if it
  names one of the directory, and the name is not too long;
* `Surroundings.Ordinary`: what is asked of the system for a directory that holds files alone, which
  `Surroundings.alone` gives for names that files can have (`ordinary_alone`);
* `load_of_sameName`, **`load_of_not_sameName`**: a table of such a directory is the file with its
  name, up to the case of ASCII letters; where there is none, the error is what the system says of
  the path.
-/
import Tabular.Proofs.Store.Files
import Tabular.Proofs.Text.Lowercase

namespace Tabular

/-! ## 1. Paths -/

/-- The file of the directory that a path names, if it names one. -/
def localName? (path : String) : Option String :=
  match isAbsolute path, pathSteps path with
  | false, [name] => if name = ['.', '.'] then none else some (String.ofList name)
  | _, _ => none

/-- A name without slashes is the only part of itself. -/
theorem localName?_of_notMem {name : String} (hlocal : '/' ∉ name.toList)
    (hdots : name.toList ∉ [[], ['.'], ['.', '.']]) : localName? name = some name := by
  simp only [List.mem_cons, List.not_mem_nil, or_false, not_or] at hdots
  obtain ⟨hne, hdot, hdots⟩ := hdots
  have habsolute : isAbsolute name = false :=
    decide_eq_false fun h => hlocal (List.mem_of_mem_head? h)
  have hsteps : pathSteps name = [name.toList] := by
    rw [pathSteps, List.splitOn_eq_singleton hlocal]
    simp [hne, hdot]
  rw [localName?, habsolute, hsteps]
  simp [hdots]

theorem notMem_of_mem_splitOn {α : Type} [DecidableEq α] {a : α} {l part : List α}
    (h : part ∈ l.splitOn a) : a ∉ part := by
  induction l generalizing part with
  | nil =>
    rw [List.mem_singleton.mp h]
    exact List.not_mem_nil
  | cons x l ih =>
    rw [List.splitOn_cons_eq_if_modifyHead] at h
    split_ifs at h with hx
    · rcases List.mem_cons.mp h with rfl | h
      · exact List.not_mem_nil
      · exact ih h
    · obtain ⟨first, more, hsplit⟩ := List.exists_cons_of_ne_nil (List.splitOn_ne_nil a l)
      rw [hsplit] at h ih
      rcases List.mem_cons.mp h with rfl | h
      · have hne : a ≠ x := fun he => hx (beq_iff_eq.mpr he.symm)
        exact fun hmem => (List.mem_cons.mp hmem).elim hne (ih List.mem_cons_self)
      · exact ih (List.mem_cons_of_mem _ h)

/-- A file that a path names is in the directory itself. -/
theorem slash_notMem_of_localName? {path name : String} (h : localName? path = some name) :
    '/' ∉ name.toList := by
  unfold localName? at h
  split at h
  · rename_i part _ hsteps
    split_ifs at h
    obtain rfl := Option.some.inj h
    have hmem : part ∈ pathSteps path := by simp [hsteps]
    rw [String.toList_ofList]
    exact notMem_of_mem_splitOn (List.mem_of_mem_filter hmem)
  · simp at h

namespace Surroundings

variable {names : List String} {path name : String} {target : Target}

/-- Nothing is found any more, once the directory is left. -/
theorem walk_false_ne_ok (parts : List (List Char)) : walk names false parts ≠ .ok target := by
  induction parts with
  | nil => simp [walk]
  | cons part rest ih =>
    by_cases hdots : part = ['.', '.']
    · simpa [walk, hdots] using ih
    · by_cases hlong : maxPartBytes < byteCount part <;> simp [walk, hdots, hlong]

/-- **What a path leads to**, where nothing is known of what is around. -/
theorem search_eq_ok_iff : search (some names) path = .ok target ↔ ∃ name,
    target = .inside name ∧ localName? path = some name ∧
      byteCount name.toList ≤ maxPartBytes := by
  rw [search, localName?]
  cases isAbsolute path with
  | true => simp [walk_false_ne_ok]
  | false =>
    rcases pathSteps path with _ | ⟨part, _ | ⟨next, rest⟩⟩
    · simp [walk]
    · by_cases hdots : part = ['.', '.']
      · simp [walk, hdots]
      · by_cases hlong : maxPartBytes < byteCount part
        · simp only [walk, hdots, hlong, if_true, if_false, reduceCtorEq, Bool.false_eq_true,
            false_iff, not_exists, not_and]
          rintro name - hname
          obtain rfl := Option.some.inj hname
          simpa using hlong
        · simp only [walk, hdots, hlong, if_true, if_false, not_true_eq_false, Except.ok.injEq,
            Bool.false_eq_true, Option.some.injEq]
          constructor
          · rintro rfl
            exact ⟨_, rfl, rfl, by simpa using hlong⟩
          · rintro ⟨name, rfl, rfl, -⟩
            rfl
    · have hwalk : walk names true (part :: next :: rest) ≠ .ok target := by
        by_cases hdots : part = ['.', '.']
        · simpa [walk, hdots] using walk_false_ne_ok (next :: rest)
        · by_cases hlong : maxPartBytes < byteCount part
          · simp [walk, hdots, hlong]
          · by_cases hfile : String.ofList part ∈ names <;> simp [walk, hdots, hlong, hfile]
      simp [hwalk]

/-! ## 2. Ordinary directories -/

/-- Why a path leads to no file, for the system. -/
def faultAt (around : Surroundings) (names : List String) (path : String) : AccessFault :=
  match around.follow (some names) path with
  | .ok _ => .missing
  | .error fault => fault

/-- What a system says of a directory that holds files and nothing else: it lists them, and each of
them can be read under its name; any other name without slashes leads to no other file. -/
structure Ordinary (around : Surroundings) (names : List String) : Prop where
  exists_list : ∃ listed, around.list (some names) = .ok listed ∧
    ∀ name, name ∈ listed ↔ name ∈ names
  follow_of_mem : ∀ name ∈ names, around.follow (some names) name = .ok (.inside name)
  barred_of_mem : ∀ name ∈ names, around.barred (.inside name) = none
  follow_of_notMem : ∀ name, '/' ∉ name.toList → name ∉ names →
    around.follow (some names) name = .ok (.inside name) ∨
      ∃ fault, around.follow (some names) name = .error fault

/-- A name that a file can have in the directory at a path. -/
structure IsFileName (path name : String) : Prop where
  isLocal : '/' ∉ name.toList
  notDots : name.toList ∉ [[], ['.'], ['.', '.']]
  noZero : '\x00' ∉ (joinPath path name).toList
  byteCount_le : byteCount name.toList ≤ maxPartBytes
  byteCount_path_le : byteCount (joinPath path name).toList ≤ maxPathBytes

/-- **A name that is refused is none that a file can have.** -/
theorem follow_alone_eq_ok_iff (hlocal : '/' ∉ name.toList)
    (hdots : name.toList ∉ [[], ['.'], ['.', '.']]) :
    (alone path).follow (some names) name = .ok (.inside name) ↔ IsFileName path name := by
  change (if _ then _ else if _ then _ else if _ then _ else _) = _ ↔ _
  constructor
  · intro h
    split_ifs at h with hzero hlong hsome
    · simp [Entries.get?] at hsome
    · obtain ⟨found, hfound, -, hle⟩ := search_eq_ok_iff.mp h
      obtain rfl := Target.inside.inj hfound
      exact ⟨hlocal, hdots, hzero, hle, Nat.not_lt.mp hlong⟩
  · intro h
    rw [if_neg h.noZero, if_neg (Nat.not_lt.mpr h.byteCount_path_le)]
    exact search_eq_ok_iff.mpr ⟨name, rfl, localName?_of_notMem hlocal hdots, h.byteCount_le⟩

theorem follow_alone_of_notMem (hlocal : '/' ∉ name.toList) :
    (alone path).follow (some names) name = .ok (.inside name) ∨
      ∃ fault, (alone path).follow (some names) name = .error fault := by
  cases hfollow : (alone path).follow (some names) name with
  | error fault => exact .inr ⟨fault, rfl⟩
  | ok target =>
    refine .inl ?_
    change (if _ then _ else if _ then _ else if _ then _ else _) = _ at hfollow
    split_ifs at hfollow with hzero hlong hsome
    · simp [Entries.get?] at hsome
    · obtain ⟨found, rfl, hfound, -⟩ := search_eq_ok_iff.mp hfollow
      have hdots : name.toList ∉ [[], ['.'], ['.', '.']] := by
        simp only [List.mem_cons, List.not_mem_nil, or_false, not_or]
        refine ⟨?_, ?_, ?_⟩ <;> intro hname <;>
          simp [localName?, pathSteps, isAbsolute, hname, List.splitOn_eq_singleton] at hfound
      rw [localName?_of_notMem hlocal hdots] at hfound
      rw [Option.some.inj hfound]

/-- A directory around which nothing is known is ordinary, if its files have names that they can
have. -/
theorem ordinary_alone (h : ∀ name ∈ names, IsFileName path name) :
    (alone path).Ordinary names where
  exists_list := ⟨names ++ [], rfl, by simp⟩
  follow_of_mem name hname :=
    (follow_alone_eq_ok_iff (h name hname).isLocal (h name hname).notDots).mpr (h name hname)
  barred_of_mem _ _ := rfl
  follow_of_notMem _ hlocal _ := follow_alone_of_notMem hlocal

end Surroundings

/-! ## 3. Names of tables and names of files -/

namespace Directory

variable {directory : Directory} {files : Entries Content} {name table s : String}

theorem pathOf_eq (h : Text.lower table = table) : pathOf table = table ++ suffix := by
  rw [pathOf, h]

theorem slash_mem_pathOf_iff (h : Text.lower table = table) :
    '/' ∈ (pathOf table).toList ↔ '/' ∈ table.toList := by
  have hsuffix : '/' ∉ suffix.toList := by decide
  rw [pathOf_eq h, String.toList_append, List.mem_append, or_iff_left hsuffix]

theorem pathOf_notDots (table : String) : (pathOf table).toList ∉ [[], ['.'], ['.', '.']] := by
  have hlen : 4 ≤ (pathOf table).toList.length := by
    rw [pathOf, String.toList_append, List.length_append]
    exact Nat.le_add_left 4 _
  intro h
  simp only [List.mem_cons, List.not_mem_nil, or_false] at h
  rcases h with h | h | h <;> simp [h] at hlen

/-- The path of a name in lower case is in lower case. -/
theorem map_toLower_pathOf (h : Text.lower table = table) :
    (pathOf table).toList.map Char.toLower = table.toList ++ suffix.toList := by
  rw [pathOf_eq h, String.toList_append, List.map_append]
  have hmap : table.toList.map Char.toLower = table.toList.map id := by
    refine List.map_congr_left fun c hc => ?_
    rw [← h] at hc
    exact Text.toLower_of_mem_lower c hc
  rw [hmap, List.map_id]
  rfl

theorem sameName_self (name : String) : sameName name name = true := decide_eq_true rfl

/-- Names in lower case stand for the same file only if they are equal. -/
theorem sameName_pathOf (hname : Text.lower name = name) (htable : Text.lower table = table) :
    sameName (pathOf name) (pathOf table) = true ↔ name = table := by
  rw [sameName, map_toLower_pathOf hname, map_toLower_pathOf htable, decide_eq_true_iff,
    List.append_left_inj, String.toList_inj]

/-- The error for a table that is not there says nothing more, or why its file cannot be there. -/
theorem failure_faultAt {around : Surroundings} {names : List String} (table : String) :
    failure table (around.faultAt names (pathOf table)) = .tableNotFound table ∨
      ∃ fault, around.follow (some names) (pathOf table) = .error fault ∧ fault ≠ .missing ∧
        failure table (around.faultAt names (pathOf table)) = .unreadable table fault := by
  rw [Surroundings.faultAt]
  cases hfollow : around.follow (some names) (pathOf table) with
  | ok target => exact .inl rfl
  | error fault =>
    by_cases hmissing : fault = .missing
    · exact .inl (by rw [hmissing]; rfl)
    · refine .inr ⟨fault, rfl, hmissing, ?_⟩
      cases fault <;> first | rfl | exact absurd rfl hmissing

/-! ## 4. Tables of ordinary directories -/

theorem fileAt_of_mem (hfiles : directory.files = some files)
    (h : directory.around.Ordinary files.names) {content : Content}
    (hget : files.get? name = some content) :
    directory.fileAt name = .ok (.inside name, content) := by
  have hmem := Entries.mem_names_of_get?_eq_some hget
  refine fileAt_eq_ok_iff.mpr ⟨?_, ?_⟩
  · rw [names_of_files hfiles]
    exact h.follow_of_mem name hmem
  · rw [content?, hfiles]
    exact hget

theorem fileAt_of_notMem (hfiles : directory.files = some files)
    (h : directory.around.Ordinary files.names) (hlocal : '/' ∉ name.toList)
    (hmem : name ∉ files.names) :
    directory.fileAt name = .error (directory.around.faultAt files.names name) := by
  have hnames := names_of_files hfiles
  rw [Surroundings.faultAt]
  rcases h.follow_of_notMem name hlocal hmem with hfollow | ⟨fault, hfollow⟩
  · have hcontent : directory.content? (.inside name) = none := by
      rw [content?, hfiles]
      exact Entries.get?_eq_none_iff.mpr hmem
    rw [fileAt_of_follow (hnames ▸ hfollow), hfollow, hcontent]
  · rw [fileAt_of_refused (hnames ▸ hfollow), hfollow]

/-- Where no file has the path of a table, the listed names are looked through. -/
theorem locate_of_notMem (hfiles : directory.files = some files)
    (h : directory.around.Ordinary files.names) (hlocal : '/' ∉ (pathOf table).toList)
    (hmem : pathOf table ∉ files.names) {listed : List String}
    (hlist : directory.around.list (some files.names) = .ok listed) :
    directory.locate table = (listed.find? (sameName (pathOf table))).getD (pathOf table) := by
  rw [locate, fileAt_of_notMem hfiles h hlocal hmem, names_of_files hfiles, hlist]
  rfl

/-- A file with the name of a table is found for it. -/
theorem exists_locate_eq (hfiles : directory.files = some files)
    (h : directory.around.Ordinary files.names) (hlocal : '/' ∉ (pathOf table).toList)
    (hsame : ∃ name ∈ files.names, sameName (pathOf table) name = true) :
    ∃ name ∈ files.names, sameName (pathOf table) name = true ∧ directory.locate table = name := by
  by_cases hexact : pathOf table ∈ files.names
  · obtain ⟨content, hget⟩ := Option.isSome_iff_exists.mp (Entries.isSome_get?_iff.mpr hexact)
    refine ⟨pathOf table, hexact, sameName_self _, ?_⟩
    rw [locate, fileAt_of_mem hfiles h hget]
    rfl
  · obtain ⟨listed, hlist, hlisted⟩ := h.exists_list
    have hfind : (listed.find? (sameName (pathOf table))).isSome = true := by
      obtain ⟨name, hmem, hname⟩ := hsame
      exact List.find?_isSome.mpr ⟨name, (hlisted name).mpr hmem, hname⟩
    obtain ⟨name, hname⟩ := Option.isSome_iff_exists.mp hfind
    refine ⟨name, (hlisted name).mp (List.mem_of_find?_eq_some hname), List.find?_some hname, ?_⟩
    rw [locate_of_notMem hfiles h hlocal hexact hlist, hname]
    rfl

/-- **A table is the file with its name**, up to the case of ASCII letters. -/
theorem load_of_sameName (hfiles : directory.files = some files)
    (h : directory.around.Ordinary files.names) (hlocal : '/' ∉ (pathOf table).toList)
    (hsame : ∃ name ∈ files.names, sameName (pathOf table) name = true) :
    ∃ name ∈ files.names, sameName (pathOf table) name = true ∧
      ∀ s, files.get? name = some (.text s) → directory.load table = .ok (name, .ofText s) := by
  obtain ⟨name, hmem, hname, hlocate⟩ := exists_locate_eq hfiles h hlocal hsame
  refine ⟨name, hmem, hname, fun s hget => ?_⟩
  have hread : directory.readText name = .ok s := by
    obtain ⟨hfollow, hcontent⟩ := fileAt_eq_ok_iff.mp (fileAt_of_mem hfiles h hget)
    exact readText_eq_ok_iff.mpr ⟨_, hfollow, hcontent, h.barred_of_mem name hmem⟩
  rw [load, hlocate, hread]

/-- **Where no file has the name of a table**, the error is what the system says of its path. -/
theorem load_of_not_sameName (hfiles : directory.files = some files)
    (h : directory.around.Ordinary files.names) (hlocal : '/' ∉ (pathOf table).toList)
    (hsame : ¬∃ name ∈ files.names, sameName (pathOf table) name = true) :
    directory.load table =
      .error (failure table (directory.around.faultAt files.names (pathOf table))) := by
  have hmem : pathOf table ∉ files.names := fun hmem => hsame ⟨_, hmem, sameName_self _⟩
  obtain ⟨listed, hlist, hlisted⟩ := h.exists_list
  have hfind : listed.find? (sameName (pathOf table)) = none := by
    rw [List.find?_eq_none]
    exact fun name hname hsame' => hsame ⟨name, (hlisted name).mp hname, hsame'⟩
  have hlocate : directory.locate table = pathOf table := by
    rw [locate_of_notMem hfiles h hlocal hmem hlist, hfind]
    rfl
  rw [load, hlocate, readText_of_fileAt_error (fileAt_of_notMem hfiles h hlocal hmem)]

end Directory
end Tabular
