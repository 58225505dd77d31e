/-
# Files that are written anew

A write changes what a file holds, and nothing else: there are the same files after it, and every
path leads where it led before (`SameLayout`).  So the file of a table is found again after it, and
it is the only file whose content is another one.

* `readText_eq_ok_iff`, `exists_of_load`: what it takes to read a text, and a table;
* `sameLayout_writeText`, `content?_writeText`: what a write leaves, and what it changes;
* `SameLayout.locate_eq`, `SameLayout.target?_eq`: the path of a table, and the file that it leads
  to, depend on the layout alone.
-/
import Tabular.Proofs.Results
import Tabular.Proofs.Row
import Tabular.Store.Directory

namespace Tabular

namespace Entries

variable {α : Type} {entries entries' : Entries α}

theorem isSome_get?_iff {name : String} :
    (entries.get? name).isSome = true ↔ name ∈ entries.names := by
  rw [← not_iff_not, Bool.not_eq_true, Option.isSome_eq_false_iff, Option.isNone_iff_eq_none,
    get?_eq_none_iff]

theorem isSome_get?_congr (h : entries.names = entries'.names) (name : String) :
    (entries.get? name).isSome = (entries'.get? name).isSome := by
  rw [Bool.eq_iff_iff, isSome_get?_iff, isSome_get?_iff, h]

theorem names_set_of_mem {name : String} (h : name ∈ entries.names) (a : α) :
    (entries.set name a).names = entries.names := by
  rw [names_set, if_pos h]

end Entries

namespace Directory

variable {directory before between after : Directory} {path table s : String} {target : Target}
  {content : Content} {document : Document}

/-! ## 1. Reading -/

theorem names_of_files {files : Entries Content} (h : directory.files = some files) :
    directory.names = some files.names := by
  rw [names, h]
  rfl

theorem fileAt_of_follow (h : directory.around.follow directory.names path = .ok target) :
    directory.fileAt path = match directory.content? target with
      | some content => .ok (target, content)
      | none => .error .missing := by
  rw [fileAt, h]
  rfl

theorem fileAt_of_refused {fault : AccessFault}
    (h : directory.around.follow directory.names path = .error fault) :
    directory.fileAt path = .error fault := by
  rw [fileAt, h]
  rfl

theorem fileAt_eq_ok_iff : directory.fileAt path = .ok (target, content) ↔
    directory.around.follow directory.names path = .ok target ∧
      directory.content? target = some content := by
  cases hfollow : directory.around.follow directory.names path with
  | error fault => simp [fileAt_of_refused hfollow]
  | ok found =>
    rw [fileAt_of_follow hfollow]
    cases hcontent : directory.content? found with
    | none =>
      simp only [reduceCtorEq, Except.ok.injEq, false_iff, not_and]
      rintro rfl
      simp [hcontent]
    | some held =>
      simp only [Except.ok.injEq, Prod.mk.injEq]
      constructor
      · rintro ⟨rfl, rfl⟩
        exact ⟨rfl, hcontent⟩
      · rintro ⟨rfl, h⟩
        exact ⟨rfl, Option.some.inj (hcontent.symm.trans h)⟩

theorem readText_of_fileAt_error {fault : AccessFault} (h : directory.fileAt path = .error fault) :
    directory.readText path = .error fault := by
  rw [readText, h]
  rfl

/-- **A text is read** from a file that the path leads to, if it holds a text and is not barred. -/
theorem readText_eq_ok_iff : directory.readText path = .ok s ↔ ∃ target,
    directory.around.follow directory.names path = .ok target ∧
      directory.content? target = some (.text s) ∧ directory.around.barred target = none := by
  constructor
  · intro h
    obtain ⟨⟨target, content⟩, hfile, h⟩ := exists_of_bind_eq_ok h
    obtain ⟨hfollow, hcontent⟩ := fileAt_eq_ok_iff.mp hfile
    simp only at h
    split at h
    · simp [throw, throwThe, MonadExceptOf.throw] at h
    · rename_i s' hbarred
      obtain rfl := Except.ok.inj h
      exact ⟨target, hfollow, hcontent, hbarred⟩
    · simp [throw, throwThe, MonadExceptOf.throw] at h
  · rintro ⟨target, hfollow, hcontent, hbarred⟩
    have hfile := fileAt_eq_ok_iff.mpr ⟨hfollow, hcontent⟩
    simp only [readText, hfile, bind, Except.bind, hbarred]
    rfl

theorem exists_of_load (h : directory.load table = .ok (path, document)) :
    directory.locate table = path ∧ ∃ target s,
      directory.around.follow directory.names path = .ok target ∧
        directory.content? target = some (.text s) ∧ directory.around.barred target = none ∧
          document = .ofText s := by
  rw [load] at h
  split at h
  · rename_i s hread
    obtain ⟨rfl, rfl⟩ := Prod.mk.inj (Except.ok.inj h)
    obtain ⟨target, hfollow, hcontent, hbarred⟩ := readText_eq_ok_iff.mp hread
    exact ⟨rfl, target, s, hfollow, hcontent, hbarred, rfl⟩
  · simp at h

/-! ## 2. The layout of files -/

/-- The same files at the same places, whatever they hold. -/
structure SameLayout (before after : Directory) : Prop where
  around_eq : after.around = { before.around with elsewhere := after.around.elsewhere }
  names_eq : after.names = before.names
  elsewhere_eq : after.around.elsewhere.names = before.around.elsewhere.names

namespace SameLayout

theorem refl (directory : Directory) : SameLayout directory directory := ⟨rfl, rfl, rfl⟩

theorem trans (h : SameLayout before between) (h' : SameLayout between after) :
    SameLayout before after where
  around_eq := by
    rw [h'.around_eq, h.around_eq]
  names_eq := h'.names_eq.trans h.names_eq
  elsewhere_eq := h'.elsewhere_eq.trans h.elsewhere_eq

theorem follow_eq (h : SameLayout before after) (path : String) :
    after.around.follow after.names path = before.around.follow before.names path := by
  rw [h.names_eq, h.around_eq]

theorem list_eq (h : SameLayout before after) :
    after.around.list after.names = before.around.list before.names := by
  rw [h.names_eq, h.around_eq]

theorem barred_eq (h : SameLayout before after) (target : Target) :
    after.around.barred target = before.around.barred target := by
  rw [h.around_eq]

/-- The same files are there. -/
theorem isSome_content?_eq (h : SameLayout before after) (target : Target) :
    (after.content? target).isSome = (before.content? target).isSome := by
  cases target with
  | inside name =>
    have hnames := h.names_eq
    simp only [names] at hnames
    rw [content?, content?]
    cases hb : before.files with
    | none =>
      rw [hb, Option.map_none, Option.map_eq_none_iff] at hnames
      rw [hnames]
    | some files =>
      rw [hb, Option.map_some, Option.map_eq_some_iff] at hnames
      obtain ⟨files', hfiles', hnames⟩ := hnames
      rw [hfiles']
      exact Entries.isSome_get?_congr hnames name
  | outside name => exact Entries.isSome_get?_congr h.elsewhere_eq name

theorem isOk_fileAt_eq (h : SameLayout before after) (path : String) :
    (after.fileAt path).isOk = (before.fileAt path).isOk := by
  cases hfollow : before.around.follow before.names path with
  | error fault =>
    rw [fileAt_of_refused hfollow, fileAt_of_refused ((h.follow_eq path).trans hfollow)]
  | ok target =>
    have hsome := h.isSome_content?_eq target
    rw [fileAt_of_follow hfollow, fileAt_of_follow ((h.follow_eq path).trans hfollow)]
    cases hb : before.content? target <;> cases ha : after.content? target <;>
      simp_all [Except.isOk, Except.toBool]

theorem locate_eq (h : SameLayout before after) (table : String) :
    after.locate table = before.locate table := by
  rw [locate, locate, h.isOk_fileAt_eq, h.list_eq]

end SameLayout

/-- The file that a table stands for, if its path leads to one. -/
def target? (directory : Directory) (table : String) : Option Target :=
  (directory.around.follow directory.names (directory.locate table)).toOption

theorem SameLayout.target?_eq (h : SameLayout before after) (table : String) :
    after.target? table = before.target? table := by
  rw [target?, target?, h.locate_eq, h.follow_eq]

theorem target?_of_load (h : directory.load table = .ok (path, document)) : ∃ target s,
    directory.target? table = some target ∧
      directory.around.follow directory.names path = .ok target ∧
        directory.content? target = some (.text s) := by
  obtain ⟨rfl, target, s, hfollow, hcontent, -, -⟩ := exists_of_load h
  exact ⟨target, s, by rw [target?, hfollow]; rfl, hfollow, hcontent⟩

/-! ## 3. Writing -/

/-- **The same files are there after a write** to one of them. -/
theorem sameLayout_writeText (hfollow : directory.around.follow directory.names path = .ok target)
    (hcontent : directory.content? target = some content) (s : String) :
    SameLayout directory (directory.writeText path s) := by
  rw [writeText, hfollow]
  cases target with
  | inside name =>
    cases hfiles : directory.files with
    | none => simp [content?, hfiles] at hcontent
    | some files =>
      rw [content?, hfiles] at hcontent
      have hmem := Entries.mem_names_of_get?_eq_some hcontent
      refine ⟨rfl, ?_, rfl⟩
      simp only [names, hfiles, Option.map_some, Entries.names_set_of_mem hmem]
  | outside name =>
    have hmem := Entries.mem_names_of_get?_eq_some hcontent
    exact ⟨rfl, rfl, Entries.names_set_of_mem hmem _⟩

/-- **The file holds what is written to it**, and every other file what it held. -/
theorem content?_writeText (hfollow : directory.around.follow directory.names path = .ok target)
    (hcontent : directory.content? target = some content) (s : String) (other : Target) :
    (directory.writeText path s).content? other =
      if other = target then some (.text s) else directory.content? other := by
  rw [writeText, hfollow]
  cases target with
  | inside name =>
    cases hfiles : directory.files with
    | none => simp [content?, hfiles] at hcontent
    | some files =>
      cases other <;> simp [content?, hfiles, Entries.get?_set]
  | outside name =>
    cases other <;> simp [content?, Entries.get?_set]

end Directory
end Tabular
