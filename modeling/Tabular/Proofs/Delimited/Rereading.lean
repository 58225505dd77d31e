/-
# When a document comes back

`ofText_toText` says that a rereadable document comes back.  This file shows that no other one
does (`kept_ofText_toText_iff`): if the columns are the same after writing and reading, and every
row holds what it held (`Keeps`), then no byte order mark was in front, the delimiter was guessed
right, and no lone field was lost or split.

The hard part is the header of two columns or more.  A reader with a wrong delimiter, or one that
dropped byte order marks, must be shown to find other names, whatever the names are:

* its first field goes beyond the first name, so what follows must be trimmed away, and the
  second name must start with its delimiter (`mem_of_isBlankText`);
* but then it has met no quote since, and takes the next field as it stands, up to its delimiter
  (`not_mem_second`).  No later name can therefore hold that delimiter.
-/
import Tabular.Proofs.Delimited.Document
import Tabular.Proofs.Delimited.Header

namespace Tabular

open Delimited

namespace Document

variable {d e : Char}

/-! ## 1. The names in a text -/

theorem exists_splitOnP {α : Type} (p : α → Bool) (xs : List α) :
    ∃ parts, xs.splitOnP p = xs.takeWhile (!p ·) :: parts := by
  induction xs with
  | nil => exact ⟨[], rfl⟩
  | cons x xs ih =>
    obtain ⟨parts, hparts⟩ := ih
    rw [List.splitOnP_cons_eq_if_modifyHead]
    cases hx : p x with
    | true => exact ⟨xs.splitOnP p, by simp [hx]⟩
    | false => exact ⟨parts, by simp [hx, hparts]⟩

theorem firstLine_cons (c : Char) (text : List Char) :
    firstLine (c :: text) = if c = '\n' then [] else c :: firstLine text := by
  by_cases hc : c = '\n' <;> simp [firstLine, hc]

/-- Where the first line is not blank and starts with no quote, the first record is no blank
field. -/
theorem not_blank_headFields (he : Separates e) {text : List Char} {fresh : Bool}
    {field : List Char} (hstart : fresh = true → text.head? ≠ some '\x22')
    (hline : Text.isBlankText (firstLine text) = false)
    (h : headFields e fresh text = [field]) : Text.isBlankText field = false := by
  induction text generalizing fresh field with
  | nil => simp [firstLine, Text.isBlankText] at hline
  | cons c text ih =>
    have hc : ¬(c = '\x22' ∧ fresh = true) := fun hc => hstart hc.2 (by simp [hc.1])
    rw [firstLine_cons] at hline
    rw [headFields_cons he hc] at h
    split_ifs at h with hce hcr hcn
    · obtain ⟨part, parts, hrest⟩ := exists_headFields e true text
      simp [hrest] at h
    · cases text with
      | nil => simp at hcr
      | cons c' text =>
        obtain ⟨rfl, rfl⟩ : c = '\r' ∧ c' = '\n' := by simpa using hcr
        rw [if_neg (by decide), firstLine_cons, if_pos rfl] at hline
        exact absurd hline (by decide)
    · rw [if_pos hcn] at hline
      simp [Text.isBlankText] at hline
    · obtain ⟨part, parts, hrest⟩ := exists_headFields e false text
      rw [hrest, List.modifyHead_cons, List.cons.injEq] at h
      obtain ⟨rfl, rfl⟩ := h
      rw [if_neg hcn] at hline
      simp only [Text.isBlankText, List.all_cons, Bool.and_eq_false_iff] at hline ⊢
      exact hline.imp_right fun hline => ih (by simp) hline hrest

/-- **The first line names the columns**, if it is not blank. -/
theorem exists_records (he : Separates e) {text : List Char}
    (hline : Text.isBlankText (firstLine text) = false) :
    ∃ more, records e text = headFields e true text :: more := by
  obtain ⟨parts, hparts⟩ := exists_splitOnP (· = .recordEnd) (marks e false true text)
  have hmarks : (marks e false true text).takeWhile (fun m => !decide (m = .recordEnd)) =
      headMarks e true text := by
    simp [headMarks]
  rw [hmarks] at hparts
  have hblank : isBlankLine (headMarks e true text) = false := by
    by_cases hquote : text.head? = some '\x22'
    · obtain ⟨text, rfl⟩ := List.head?_eq_some_iff.mp hquote
      simp [headMarks, marks_outside, isBlankLine]
    · obtain ⟨field, fields, hfields⟩ := exists_headFields e true text
      have hfields' : fieldsOf (headMarks e true text) = field :: fields := hfields
      cases fields with
      | nil =>
        have hb := not_blank_headFields he (fun _ => hquote) hline hfields
        simp [isBlankLine, hfields', hb]
      | cons next fields => simp [isBlankLine, hfields']
  refine ⟨(parts.filter (!isBlankLine ·)).map fieldsOf, ?_⟩
  simp [records, hparts, hblank, headFields]

theorem delimiterOf_cons {c : Char} (hc : c ∉ candidates) (line : List Char) :
    delimiterOf (c :: line) = delimiterOf line := by
  have hcount : ∀ d ∈ candidates, (c :: line).count d = line.count d := by
    intro d hd
    refine List.count_cons_of_ne ?_
    rintro rfl
    exact hc hd
  simp only [delimiterOf, candidates, List.foldl_cons, List.foldl_nil]
  rw [hcount ',' (by simp [candidates]), hcount '\t' (by simp [candidates]),
    hcount '|' (by simp [candidates])]
  split_ifs <;> simp_all [candidates]

/-- Byte order marks do not count for the delimiter. -/
theorem delimiterOf_dropWhile (text : List Char) :
    delimiterOf (firstLine (text.dropWhile (· = '\ufeff'))) = delimiterOf (firstLine text) := by
  induction text with
  | nil => rfl
  | cons c text ih =>
    by_cases hc : c = '\ufeff'
    · subst hc
      rw [firstLine_cons, if_neg (by decide), delimiterOf_cons (by decide), ← ih]
      simp
    · simp [hc]

/-- What a document is read from: the text behind the byte order marks. -/
theorem ofText_ofList_eq (text : List Char) : ofText (String.ofList text) =
    if Text.isBlankText (firstLine (text.dropWhile (· = '\ufeff'))) then ⟨[], ',', []⟩
    else ofRecords (delimiterOf (firstLine text))
      (records (delimiterOf (firstLine text)) (text.dropWhile (· = '\ufeff'))) := by
  simp only [ofText, String.toList_ofList, delimiterOf_dropWhile]

theorem columns_ofText (text : List Char) : (ofText (String.ofList text)).columns =
    if Text.isBlankText (firstLine (text.dropWhile (· = '\ufeff'))) then []
    else (headFields (delimiterOf (firstLine text)) true
      (text.dropWhile (· = '\ufeff'))).mapIdx columnName := by
  rw [ofText_ofList_eq]
  split
  · rfl
  · rename_i hline
    obtain ⟨more, hmore⟩ := exists_records
      (separates_of_mem_candidates (delimiterOf_mem_candidates (firstLine text)))
      (Bool.eq_false_iff.mpr hline)
    rw [hmore]
    rfl

/-! ## 2. Names of fields -/

theorem toList_columnName {place : Nat} {field : List Char}
    (h : Text.isBlankText field = false) :
    (columnName place field).toList = Text.trim field := by
  simp [columnName, h]

/-- A name holds no character that its field did not hold, but for those of `_col_` and
digits. -/
theorem not_mem_columnName {c : Char} (hc : c ∉ "_col_".toList) (hdigit : c.isDigit = false)
    {place : Nat} {field : List Char} (h : c ∉ field) :
    c ∉ (columnName place field).toList := by
  unfold columnName
  split
  · rw [String.toList_append, List.mem_append, not_or]
    refine ⟨hc, ?_⟩
    intro hm
    rw [Nat.toList_repr] at hm
    have := Nat.isDigit_of_mem_toDigits (by decide) (by decide) hm
    simp [hdigit] at this
  · simpa using fun hm => h (Text.mem_of_mem_trim hm)

theorem candidate_not_mem_columnName (he : e ∈ candidates) {place : Nat} {field : List Char}
    (h : e ∉ field) : e ∉ (columnName place field).toList := by
  simp only [candidates, List.mem_cons, List.not_mem_nil, or_false] at he
  rcases he with rfl | rfl | rfl <;> exact not_mem_columnName (by decide) (by decide) h

theorem mem_columnName {c : Char} (place : Nat) {field : List Char} (h : c ∈ field)
    (hc : Text.isBlank c = false) : c ∈ (columnName place field).toList := by
  rw [toList_columnName (Text.isBlankText_eq_false_of_mem h hc)]
  exact Text.mem_trim_of_not_isBlank h hc

/-! ## 3. A header read with another delimiter -/

theorem not_isQuoted_of_writeField {c : String} {x : Char} {more : List Char}
    (hw : writeField d c.toList = x :: more) (hx : x ≠ '\x22') :
    isQuoted d c.toList = false ∧ c.toList = x :: more := by
  cases hq : isQuoted d c.toList with
  | true =>
    obtain ⟨body, hbody⟩ := exists_writeField_of_isQuoted hq
    rw [hbody, List.cons.injEq] at hw
    exact absurd hw.1.symm hx
  | false =>
    rw [writeField_of_not_isQuoted hq] at hw
    exact ⟨rfl, hw⟩

/-- In the middle of a field, the first character of a name ends the field or belongs to it. -/
theorem exists_head_of_headFields (he : Separates e) {c : String} (hc : IsName c)
    {names : List (List Char)} {rest field : List Char} {fields : List (List Char)}
    (hread : headFields e false (joined d (c.toList :: names) ++ rest) = field :: fields) :
    ∃ x more, writeField d c.toList = x :: more ∧ Text.isBlank x = false ∧
      (x = e ∨ x ∈ field) := by
  obtain ⟨x, more, hw, hx⟩ := exists_cons_writeField (d := d) hc
  refine ⟨x, more, hw, hx, ?_⟩
  obtain ⟨more', hline⟩ : ∃ more', joined d (c.toList :: names) ++ rest = x :: more' := by
    cases names with
    | nil => exact ⟨more ++ rest, by simp [joined, hw]⟩
    | cons name names => exact ⟨_, by rw [joined_cons_cons, hw]; rfl⟩
  rw [hline, headFields_cons he (by simp)] at hread
  split_ifs at hread with hxe hxr hxn
  · exact Or.inl hxe
  · rw [hxr.1] at hx
    exact absurd hx (by decide)
  · rw [hxn] at hx
    exact absurd hx (by decide)
  · obtain ⟨part, parts, hrest⟩ := exists_headFields e false more'
    rw [hrest, List.modifyHead_cons, List.cons.injEq] at hread
    exact Or.inr (by simp [← hread.1])

/-- **The next name starts with the reader's delimiter**, if nothing but blanks is found
before it. -/
theorem mem_of_isBlankText (he : Separates e) {c : String} (hc : IsName c)
    {names : List (List Char)} {rest field : List Char} {fields : List (List Char)}
    (hread : headFields e false (joined d (c.toList :: names) ++ rest) = field :: fields)
    (hblank : Text.isBlankText field = true) : e ∈ c.toList := by
  obtain ⟨x, more, hw, hx, hxe | hxm⟩ := exists_head_of_headFields he hc hread
  · subst hxe
    simp [(not_isQuoted_of_writeField hw he.quote).2]
  · have := Text.isBlankText_eq_false_of_mem hxm hx
    simp [hblank] at this

/-- Behind a field without quotes the next one is taken as it stands. -/
theorem not_mem_second (he : Separates e) {text rest : List Char} (h : Shielded e text)
    {fresh : Bool} (hstart : fresh = true → text.head? ≠ some '\x22')
    {field next : List Char} {fields : List (List Char)}
    (hread : headFields e fresh (text ++ '\n' :: rest) = field :: next :: fields)
    (hquote : '\x22' ∉ field) : e ∉ next := by
  obtain ⟨text', hnext, -, hhead⟩ := h.next he hstart hread hquote
  refine not_mem_headFields he (fun _ => ?_) hnext
  rw [List.head?_append]
  cases htext : text'.head? with
  | none => simp
  | some c => simpa [htext] using hhead

/-- A name without quotes that holds the reader's delimiter is cut there. -/
theorem columnName_ne_of_mem (he : e ∈ candidates) {cs : List Char}
    (hplain : ∀ c ∈ cs, c ≠ '\x22' ∧ c ≠ '\r' ∧ c ≠ '\n') (hmem : e ∈ cs) {name : String}
    (hname : e ∈ name.toList) {rest field : List Char} {fields : List (List Char)}
    (hread : headFields e true (cs ++ rest) = field :: fields) : columnName 0 field ≠ name := by
  have hsep := separates_of_mem_candidates he
  obtain ⟨front, behind, rfl, hfront⟩ := List.eq_append_cons_of_mem hmem
  obtain ⟨fresh', hcut⟩ := headFields_text hsep
    (fun c (hc : c ∈ front) => hplain c (List.mem_append_left _ hc)) hfront true
    (e :: (behind ++ rest))
  rw [List.append_assoc, List.cons_append, hcut, headFields_delimiter hsep, List.modifyHead_cons,
    List.append_nil, List.cons.injEq] at hread
  rintro rfl
  exact candidate_not_mem_columnName he (hread.1 ▸ hfront) hname

/-- The delimiter of the writer is a character like any other to a reader with another one. -/
theorem headFields_foreign (he : Separates e) (hd : Separates d) (hne : d ≠ e) (fresh : Bool)
    (rest : List Char) :
    headFields e fresh (d :: rest) = (headFields e false rest).modifyHead (d :: ·) := by
  rw [headFields_cons he (fun h => hd.quote h.1), if_neg hne, if_neg (fun h => hd.carriage h.1),
    if_neg hd.lineFeed]

/-- **A reader with another delimiter finds other names.** -/
theorem eq_of_mapIdx_headFields (hd : d ∈ candidates) (he : e ∈ candidates) {c c' : String}
    {names : List String} (hc : IsName c) (hc' : IsName c') {rest : List Char}
    (h : (headFields e true (joined d ((c :: c' :: names).map String.toList) ++
      '\n' :: rest)).mapIdx columnName = c :: c' :: names) : d = e := by
  by_contra hne
  have hds := separates_of_mem_candidates hd
  have hes := separates_of_mem_candidates he
  rw [List.map_cons, List.map_cons, joined_cons_cons, List.append_assoc, List.cons_append] at h
  by_cases hfield : isQuoted d c.toList = true ∨ e ∉ c.toList
  · obtain ⟨fresh', hfirst⟩ := headFields_writeField (d := d) hes hfield
      (d :: (joined d (c'.toList :: names.map String.toList) ++ '\n' :: rest))
      (by simpa using hds.quote)
    obtain ⟨field, fields, hread⟩ := exists_headFields e false
      (joined d (c'.toList :: names.map String.toList) ++ '\n' :: rest)
    rw [hfirst, headFields_foreign hes hds hne, hread, List.modifyHead_cons, List.modifyHead_cons,
      List.mapIdx_cons, List.cons.injEq] at h
    obtain ⟨hname, hnames⟩ := h
    have hcname := Text.trim_eq_self_iff.mp hc.trim_eq
    -- what follows the first name is trimmed away
    have hblank : Text.isBlankText (d :: field) = true := by
      have hnot : Text.isBlankText (c.toList ++ d :: field) = false := by
        have := hc.not_blank
        simp only [Text.isBlankText, List.all_append, Bool.and_eq_false_iff] at this ⊢
        exact Or.inl this
      have htrim := congrArg String.toList hname
      rw [toList_columnName hnot, Text.trim_append hc.ne_nil hcname.2,
        Text.trimStart_eq_self hcname.1] at htrim
      exact Text.trimEnd_eq_nil_iff.mp (by simpa using htrim)
    have hfieldblank : Text.isBlankText field = true := by
      simp only [Text.isBlankText, List.all_cons, Bool.and_eq_true] at hblank ⊢
      exact hblank.2
    have hmem : e ∈ c'.toList := mem_of_isBlankText hes hc' hread hfieldblank
    have hquote : '\x22' ∉ field := by
      intro hm
      have := Text.isBlankText_eq_false_of_mem hm (by decide)
      simp [hfieldblank] at this
    cases fields with
    | nil => simp at hnames
    | cons next fields =>
      rw [List.mapIdx_cons, List.cons.injEq] at hnames
      have hnext := not_mem_second hes (shielded_joined hds hes hne _) (by simp) hread hquote
      exact candidate_not_mem_columnName he hnext (hnames.1 ▸ hmem)
  · rw [not_or, not_not, Bool.not_eq_true] at hfield
    rw [writeField_of_not_isQuoted hfield.1] at h
    obtain ⟨field, fields, hread⟩ := exists_headFields e true (c.toList ++
      d :: (joined d (c'.toList :: names.map String.toList) ++ '\n' :: rest))
    rw [hread, List.mapIdx_cons, List.cons.injEq] at h
    exact columnName_ne_of_mem he (fun x hx => (ordinary_of_not_isQuoted hfield.1 x hx).2)
      hfield.2 hfield.2 hread h.1

/-! ## 4. A header behind byte order marks -/

theorem columnName_ne_of_length {c : String} (hmark : '\ufeff' ∈ c.toList) {place : Nat}
    {field : List Char} (h : field.length < c.toList.length) : columnName place field ≠ c := by
  rintro rfl
  by_cases hm : '\ufeff' ∈ field
  · rw [toList_columnName (Text.isBlankText_eq_false_of_mem hm (by decide))] at h
    have := Text.length_trim_le field
    omega
  · exact not_mem_columnName (by decide) (by decide) hm hmark

theorem length_dropWhile_lt {cs : List Char} (h : cs.head? = some '\ufeff') :
    (cs.dropWhile (· = '\ufeff')).length < cs.length := by
  cases cs with
  | nil => simp at h
  | cons x cs =>
    obtain rfl : x = '\ufeff' := by simpa using h
    have := (List.dropWhile_suffix (l := cs) (fun x => decide (x = '\ufeff'))).length_le
    simp
    omega

theorem trimEnd_cons_eq_nil {cs : List Char} (h : d ∉ Text.trimEnd (d :: cs)) :
    Text.trimEnd (d :: cs) = [] := by
  rcases List.prefix_cons_iff.mp (Text.trimEnd_isPrefix (d :: cs)) with hnil | ⟨front, hfront, -⟩
  · exact hnil
  · simp [hfront] at h

theorem isBlankText_of_trimEnd {cs : List Char} (h : Text.trimEnd (d :: cs) = []) :
    Text.isBlankText cs = true := by
  have := Text.trimEnd_eq_nil_iff.mp h
  simp only [Text.isBlankText, List.all_cons, Bool.and_eq_true] at this
  exact this.2

/-- A name without the character `d` ends before it: what is behind was trimmed away. -/
theorem trimStart_eq_of_not_mem {front behind name : List Char} (hne : front ≠ [])
    (hlast : ∀ x ∈ front.getLast?, Text.isBlank x = false)
    (hname : Text.trim (front ++ d :: behind) = name) (hd : d ∉ name) :
    Text.trimStart front = name ∧ Text.isBlankText behind = true := by
  rw [Text.trim_append hne hlast] at hname
  have hnil : Text.trimEnd (d :: behind) = [] := by
    refine trimEnd_cons_eq_nil ?_
    intro hm
    rw [← hname] at hd
    exact hd (List.mem_append_right _ hm)
  rw [hnil, List.append_nil] at hname
  exact ⟨hname, isBlankText_of_trimEnd hnil⟩

/-- What is left of the first name shows that characters were dropped from it, unless nothing is
left. -/
theorem columnName_ne_of_dropped {c : String} (hc : IsName c)
    {left : List Char} (hsuffix : left <:+ c.toList) (hlen : left.length < c.toList.length)
    (hne : left ≠ []) (hd : d ∉ c.toList) (place : Nat) (field : List Char) :
    columnName place (left ++ d :: field) ≠ c := by
  intro hname
  have hlast : ∀ x ∈ left.getLast?, Text.isBlank x = false := by
    intro x hx
    obtain ⟨front, hfront⟩ := hsuffix
    refine (Text.trim_eq_self_iff.mp hc.trim_eq).2 x ?_
    rw [← hfront, List.getLast?_append, Option.mem_def.mp hx]
    rfl
  have hnot : Text.isBlankText (left ++ d :: field) = false :=
    Text.isBlankText_eq_false_of_mem (List.mem_append_left _ (List.getLast_mem hne))
      (hlast _ (List.getLast?_eq_some_getLast hne))
  have htrim := congrArg String.toList hname
  rw [toList_columnName hnot] at htrim
  obtain ⟨hstart, -⟩ := trimStart_eq_of_not_mem hne hlast htrim hd
  have hle : (Text.trimStart left).length ≤ left.length := (List.dropWhile_suffix _).length_le
  rw [hstart] at hle
  omega

/-- If the first name was nothing but byte order marks, it is found where the second one stands,
and only if the third one starts with the reader's delimiter. -/
theorem second_eq_of_marks (hd : d ∈ candidates) (he : e ∈ candidates) (hne : d ≠ e)
    {c c' : String} {names : List String} (hnames : ∀ n ∈ c' :: names, IsName n)
    (hmarks : ∀ x ∈ c.toList, x = '\ufeff') (hfree : e ∉ c'.toList) {rest field next : List Char}
    {fields : List (List Char)}
    (hread : headFields e false (joined d ((c' :: names).map String.toList) ++ '\n' :: rest) =
      field :: next :: fields) (hfirst : columnName 0 (d :: field) = c) :
    c' = c ∧ ∃ c'' names', names = c'' :: names' ∧ e ∈ c''.toList := by
  have hds := separates_of_mem_candidates hd
  have hes := separates_of_mem_candidates he
  have hdmark : d ∉ c.toList := by
    intro hm
    rw [hmarks d hm] at hd
    exact absurd hd (by decide)
  have hc' : IsName c' := hnames c' List.mem_cons_self
  obtain ⟨x, more, hw, hx, hxe | hxm⟩ := exists_head_of_headFields hes hc' hread
  · subst hxe
    have := (not_isQuoted_of_writeField hw hes.quote).2
    simp [this] at hfree
  have hxmark : x = '\ufeff' := by
    refine hmarks x ?_
    rw [← hfirst]
    exact mem_columnName 0 (List.mem_cons_of_mem d hxm) hx
  obtain ⟨hplain, hcons⟩ := not_isQuoted_of_writeField hw (by rw [hxmark]; decide)
  have htext := fun y hy => (ordinary_of_not_isQuoted hplain y hy).2
  cases names with
  | nil =>
    obtain ⟨fresh', hlone⟩ := headFields_text hes htext hfree false ('\n' :: rest)
    simp [joined, writeField_of_not_isQuoted hplain, hlone, headFields_lineFeed hes] at hread
  | cons c'' names =>
    obtain ⟨fresh', hlone⟩ := headFields_text hes htext hfree false
      (d :: (joined d (c''.toList :: names.map String.toList) ++ '\n' :: rest))
    obtain ⟨part, parts, hpart⟩ := exists_headFields e false
      (joined d (c''.toList :: names.map String.toList) ++ '\n' :: rest)
    rw [List.map_cons, List.map_cons, joined_cons_cons, writeField_of_not_isQuoted hplain,
      List.append_assoc, List.cons_append, hlone, headFields_foreign hes hds hne, hpart,
      List.modifyHead_cons, List.modifyHead_cons, List.cons.injEq] at hread
    obtain ⟨rfl, -⟩ := hread
    have hends := Text.trim_eq_self_iff.mp hc'.trim_eq
    have hlast : ∀ y ∈ (d :: c'.toList).getLast?, Text.isBlank y = false := by
      intro y hy
      rw [List.getLast?_cons_of_ne_nil hc'.ne_nil] at hy
      exact hends.2 y hy
    have hnot : Text.isBlankText (d :: c'.toList ++ d :: part) = false :=
      Text.isBlankText_eq_false_of_mem (c := x) (by simp [hcons]) hx
    have htrim := congrArg String.toList hfirst
    rw [← List.cons_append, toList_columnName hnot] at htrim
    obtain ⟨hstart, hrestblank⟩ := trimStart_eq_of_not_mem (by simp) hlast htrim hdmark
    refine ⟨?_, c'', names, rfl, ?_⟩
    · cases hblank : Text.isBlank d with
      | true =>
        have hskip : Text.trimStart (d :: c'.toList) = Text.trimStart c'.toList := by
          simp [Text.trimStart, hblank]
        rw [hskip, Text.trimStart_eq_self hends.1] at hstart
        exact String.toList_inj.mp hstart
      | false =>
        rw [Text.trimStart_eq_self (by simpa using hblank)] at hstart
        simp [← hstart] at hdmark
    · exact mem_of_isBlankText hes (hnames c'' (by simp)) hpart hrestblank

/-- **Names of nothing but byte order marks** are not found again: the third name would have to
hold the reader's delimiter. -/
theorem mapIdx_headFields_ne_of_marks (hd : d ∈ candidates) (he : e ∈ candidates) (hne : d ≠ e)
    {c c' : String} {names : List String} (hnames : ∀ n ∈ c' :: names, IsName n)
    (hmarks : ∀ x ∈ c.toList, x = '\ufeff') {rest : List Char} :
    (headFields e true (d :: (joined d ((c' :: names).map String.toList) ++
      '\n' :: rest))).mapIdx columnName ≠ c :: c' :: names := by
  intro h
  have hds := separates_of_mem_candidates hd
  have hes := separates_of_mem_candidates he
  have hshield : Shielded e (joined d ((c' :: names).map String.toList)) :=
    shielded_joined hds hes hne _
  have hquotemark : '\x22' ∉ c.toList := fun hm => absurd (hmarks _ hm) (by decide)
  obtain ⟨field, fields, hread⟩ := exists_headFields e false
    (joined d ((c' :: names).map String.toList) ++ '\n' :: rest)
  rw [headFields_foreign hes hds hne, hread, List.modifyHead_cons, List.mapIdx_cons,
    List.cons.injEq] at h
  obtain ⟨hfirst, hothers⟩ := h
  have hquote : '\x22' ∉ field := by
    intro hm
    have := mem_columnName 0 (List.mem_cons_of_mem d hm) (by decide)
    exact hquotemark (hfirst ▸ this)
  cases fields with
  | nil => simp at hothers
  | cons second fields =>
    rw [List.mapIdx_cons, List.cons.injEq] at hothers
    obtain ⟨hsecond, hothers⟩ := hothers
    have hfree : e ∉ c'.toList := by
      rw [← hsecond]
      exact candidate_not_mem_columnName he (not_mem_second hes hshield (by simp) hread hquote)
    obtain ⟨rfl, c'', names', rfl, hmem⟩ :=
      second_eq_of_marks hd he hne hnames hmarks hfree hread hfirst
    have hquote' : '\x22' ∉ second := by
      intro hm
      have := mem_columnName 1 hm (by decide)
      exact hquotemark (hsecond ▸ this)
    obtain ⟨text', hread', hshield', hhead'⟩ := hshield.next hes (by simp) hread hquote
    cases fields with
    | nil => simp at hothers
    | cons third fields =>
      rw [List.mapIdx_cons, List.cons.injEq] at hothers
      have hthird := not_mem_second hes hshield' (fun _ => hhead') hread' hquote'
      exact candidate_not_mem_columnName he hthird (hothers.1 ▸ hmem)

/-- **Where byte order marks were dropped**, other names are found. -/
theorem mapIdx_headFields_ne_of_mark (hd : d ∈ candidates) (he : e ∈ candidates)
    {c c' : String} {names : List String} (hnames : ∀ n ∈ c :: c' :: names, IsName n)
    (hplain : isQuoted d c.toList = false) (hmark : c.toList.head? = some '\ufeff')
    {rest : List Char} :
    (headFields e true (c.toList.dropWhile (· = '\ufeff') ++
      d :: (joined d ((c' :: names).map String.toList) ++ '\n' :: rest))).mapIdx columnName ≠
        c :: c' :: names := by
  intro h
  have hds := separates_of_mem_candidates hd
  have hes := separates_of_mem_candidates he
  have hmem : '\ufeff' ∈ c.toList := List.mem_of_mem_head? hmark
  have hsuffix : c.toList.dropWhile (· = '\ufeff') <:+ c.toList := List.dropWhile_suffix _
  have hlen := length_dropWhile_lt hmark
  have hleft := fun x hx => ordinary_of_not_isQuoted hplain x (hsuffix.subset hx)
  generalize hl : c.toList.dropWhile (· = '\ufeff') = left at h hsuffix hlen hleft
  by_cases hcut : e ∈ left
  · obtain ⟨field, fields, hread⟩ := exists_headFields e true
      (left ++ d :: (joined d ((c' :: names).map String.toList) ++ '\n' :: rest))
    rw [hread, List.mapIdx_cons, List.cons.injEq] at h
    exact columnName_ne_of_mem he (fun x hx => (hleft x hx).2) hcut (hsuffix.subset hcut) hread h.1
  · obtain ⟨fresh', hfirst⟩ := headFields_text hes (fun x hx => (hleft x hx).2) hcut true
      (d :: (joined d ((c' :: names).map String.toList) ++ '\n' :: rest))
    by_cases hde : d = e
    · subst hde
      rw [hfirst, headFields_delimiter hes, List.modifyHead_cons, List.append_nil,
        List.mapIdx_cons, List.cons.injEq] at h
      exact columnName_ne_of_length hmem hlen h.1
    · by_cases hnil : left = []
      · refine mapIdx_headFields_ne_of_marks hd he hde
          (fun n hn => hnames n (List.mem_cons_of_mem _ hn)) ?_ (hnil ▸ h)
        intro x hx
        rw [hnil, List.dropWhile_eq_nil_iff] at hl
        simpa using hl x hx
      · obtain ⟨field, fields, hread⟩ := exists_headFields e false
          (joined d ((c' :: names).map String.toList) ++ '\n' :: rest)
        rw [hfirst, headFields_foreign hes hds hde, hread, List.modifyHead_cons,
          List.modifyHead_cons, List.mapIdx_cons, List.cons.injEq] at h
        have hdfree : d ∉ c.toList := delimiter_not_mem_of_not_isQuoted hplain
        exact columnName_ne_of_dropped (hnames c List.mem_cons_self) hsuffix hlen hnil hdfree _ _
          h.1

/-- Nor is the name of a single column found again. -/
theorem mapIdx_headFields_ne_of_lone_mark (he : e ∈ candidates) {c : String}
    (hplain : isQuoted d c.toList = false) (hmark : c.toList.head? = some '\ufeff')
    {rest : List Char} :
    (headFields e true (c.toList.dropWhile (· = '\ufeff') ++ '\n' :: rest)).mapIdx columnName ≠
      [c] := by
  intro h
  have hes := separates_of_mem_candidates he
  have hmem : '\ufeff' ∈ c.toList := List.mem_of_mem_head? hmark
  have hsuffix : c.toList.dropWhile (· = '\ufeff') <:+ c.toList := List.dropWhile_suffix _
  have hlen := length_dropWhile_lt hmark
  have hleft := fun x hx => ordinary_of_not_isQuoted hplain x (hsuffix.subset hx)
  generalize c.toList.dropWhile (· = '\ufeff') = left at h hsuffix hlen hleft
  by_cases hcut : e ∈ left
  · obtain ⟨field, fields, hread⟩ := exists_headFields e true (left ++ '\n' :: rest)
    rw [hread, List.mapIdx_cons, List.cons.injEq] at h
    exact columnName_ne_of_mem he (fun x hx => (hleft x hx).2) hcut (hsuffix.subset hcut) hread h.1
  · obtain ⟨fresh', hfirst⟩ := headFields_text hes (fun x hx => (hleft x hx).2) hcut true
      ('\n' :: rest)
    rw [hfirst, headFields_lineFeed hes, List.modifyHead_cons, List.append_nil,
      List.mapIdx_cons, List.cons.injEq] at h
    exact columnName_ne_of_length hmem hlen h.1

/-! ## 5. The header that comes back -/

/-- Nothing is lost between two documents: the columns are the same, and so are the rows, one by
one, but for missing cells that became empty. -/
def Kept (old new : Document) : Prop :=
  new.columns = old.columns ∧ List.Forall₂ (Keeps old.columns) old.rows new.rows

theorem dropWhile_append_cons {p : Char → Bool} {x : Char} (hx : p x = false)
    (front behind : List Char) :
    (front ++ x :: behind).dropWhile p = front.dropWhile p ++ x :: behind := by
  induction front with
  | nil => simp [hx]
  | cons c front ih =>
    cases hc : p c with
    | true => simp [hc, ih]
    | false => simp [hc]

theorem headerLine_eq (document : Document) : document.headerLine =
    joined document.delimiter (document.columns.map String.toList) ++ ['\n'] := rfl

/-- The columns that are read are the fields of the first record. -/
theorem columns_toText {document : Document} (hne : document.columns ≠ [])
    (h : (ofText document.toText).columns = document.columns) : ∃ rest,
    (headFields document.detected true
      ((joined document.delimiter (document.columns.map String.toList) ++ '\n' :: rest).dropWhile
        (· = '\ufeff'))).mapIdx columnName = document.columns := by
  have hline := firstLine_flatMap document
    ((document.rows.map (record document.columns)).flatMap (writeRecord document.delimiter))
  refine ⟨(document.rows.map (record document.columns)).flatMap (writeRecord document.delimiter),
    ?_⟩
  rw [toText_eq, allRecords, List.flatMap_cons] at h
  change (ofText (String.ofList (document.headerLine ++ _))).columns = _ at h
  rw [columns_ofText, hline] at h
  split at h
  · exact absurd h.symm hne
  · rw [headerLine_eq, List.append_assoc, List.singleton_append] at h
    exact h

theorem head?_writeField_eq_mark {c : String} (h : (writeField d c.toList).head? = some '\ufeff') :
    isQuoted d c.toList = false ∧ c.toList.head? = some '\ufeff' := by
  obtain ⟨more, hw⟩ := List.head?_eq_some_iff.mp h
  obtain ⟨hplain, hcons⟩ := not_isQuoted_of_writeField hw (by decide)
  exact ⟨hplain, by simp [hcons]⟩

/-- A header that comes back has no byte order mark in front. -/
theorem unmarked_of_columns {document : Document} (ht : document.Tidy)
    (h : (ofText document.toText).columns = document.columns) :
    document.headerLine.head? ≠ some '\ufeff' := by
  intro hmark
  rw [headerLine_eq] at hmark
  have hcand : document.detected ∈ candidates := delimiterOf_mem_candidates _
  have hd : document.delimiter ≠ '\ufeff' := by
    intro hd
    have := ht.delimiter_mem
    rw [hd] at this
    exact absurd this (by decide)
  match hcols : document.columns with
  | [] => simp [hcols, joined] at hmark
  | [c] =>
    obtain ⟨rest, hread⟩ := columns_toText (by simp [hcols]) h
    have hc : IsName c := ht.isName c (by simp [hcols])
    simp only [hcols, joined, List.map_cons, List.map_nil,
      List.intercalate_singleton] at hmark hread
    obtain ⟨x, more, hw, -⟩ := exists_cons_writeField (d := document.delimiter) hc
    obtain ⟨hplain, hhead⟩ := head?_writeField_eq_mark (d := document.delimiter) (c := c)
      (by simpa [hw] using hmark)
    rw [writeField_of_not_isQuoted hplain, dropWhile_append_cons (by decide)] at hread
    exact mapIdx_headFields_ne_of_lone_mark hcand hplain hhead hread
  | c :: c' :: names =>
    obtain ⟨rest, hread⟩ := columns_toText (by simp [hcols]) h
    simp only [hcols, List.map_cons, joined_cons_cons] at hmark hread
    obtain ⟨x, more, hw, -⟩ := exists_cons_writeField (d := document.delimiter)
      (ht.isName c (by simp [hcols]))
    obtain ⟨hplain, hhead⟩ := head?_writeField_eq_mark (d := document.delimiter) (c := c)
      (by simpa [hw] using hmark)
    rw [writeField_of_not_isQuoted hplain, List.append_assoc, List.cons_append,
      dropWhile_append_cons (by simpa using hd)] at hread
    exact mapIdx_headFields_ne_of_mark ht.delimiter_mem hcand
      (fun n hn => ht.isName n (hcols ▸ hn)) hplain hhead hread

/-- A header of two columns or more that comes back was read with its own delimiter. -/
theorem detected_of_columns {document : Document} (ht : document.Tidy)
    (h2 : 2 ≤ document.columns.length)
    (h : (ofText document.toText).columns = document.columns) :
    document.detected = document.delimiter := by
  have hunmarked := unmarked_of_columns ht h
  match hcols : document.columns, h2 with
  | c :: c' :: names, _ =>
    obtain ⟨rest, hread⟩ := columns_toText (by simp [hcols]) h
    obtain ⟨x, more, hline, -⟩ := exists_cons_headerLine ht (by simp [hcols])
    have hx : x ≠ '\ufeff' := by simpa [hline] using hunmarked
    have htext : joined document.delimiter (document.columns.map String.toList) ++ '\n' :: rest =
        x :: (more ++ rest) := by
      rw [← List.cons_append, ← hline, headerLine_eq, List.append_assoc, List.singleton_append]
    rw [htext, List.dropWhile_cons_of_neg (by simpa using hx), ← htext, hcols] at hread
    exact (eq_of_mapIdx_headFields ht.delimiter_mem (delimiterOf_mem_candidates _)
      (ht.isName c (by simp [hcols])) (ht.isName c' (by simp [hcols])) hread).symm

/-! ## 6. Lone fields that come back -/

/-- A field that is the first part of itself was not split. -/
theorem not_mem_of_splitOn {field : List Char} {parts : List (List Char)}
    (h : field.splitOn e = field :: parts) : e ∉ field := by
  intro hm
  obtain ⟨front, behind, hfield, hfront⟩ := List.eq_append_cons_of_mem hm
  rw [hfield, List.splitOn_append_cons_self_of_not_mem hfront, List.cons.injEq] at h
  have := congrArg List.length h.1
  simp at this

/-- A field that is no blank line and comes back as the first of its record survives. -/
theorem survives_of_head {field : List Char} {more : List (List Char)}
    (hline : isBlankLine (fieldMarks d e field) = false)
    (hread : parts d e field = field :: more) :
    survives d e field := by
  cases hq : isQuoted d field with
  | true => exact Or.inl hq
  | false =>
    rw [parts, hq, if_neg (by simp)] at hread
    have hm := not_mem_of_splitOn hread
    rw [isBlankLine_fieldMarks, hq] at hline
    exact Or.inr ⟨by simpa [hm] using hline, hm⟩

theorem get?_rowOf_single (c : String) (field : List Char) (fields : List (List Char)) :
    (rowOf [c] (field :: fields)).get? c = some (.text (String.ofList field)) := by
  simp [rowOf, Row.get?_ofList, Entries.get?]

/-- The cell of a row that is kept. -/
theorem get?_of_keeps {columns : List String} {old new : Row} {c : String} (hc : c ∈ columns)
    (htext : ∀ v, old.get? c = some v → ∃ s, v = .text s) (h : Keeps columns old new) :
    new.get? c = some (.text (String.ofList (cellText old c))) := by
  rw [h c, if_pos hc]
  cases hg : old.get? c with
  | none => simp [cellText, hg]
  | some v =>
    obtain ⟨s, rfl⟩ := htext v hg
    simp [cellText, hg, Value.display]

/-- What is read of a document with a single column: the header, which is no blank line, and the
rows that are none. -/
theorem ofText_toText_of_name {document : Document} (ht : document.Tidy) {c : String}
    (hcols : document.columns = [c]) (hmark : document.headerLine.head? ≠ some '\ufeff') :
    (ofText document.toText).columns =
        (parts document.delimiter document.detected c.toList).mapIdx columnName ∧
      (ofText document.toText).rows =
        ((document.rows.map (cellText · c)).filter fun field =>
          !isBlankLine (fieldMarks document.delimiter document.detected field)).map fun field =>
            rowOf (ofText document.toText).columns
              (parts document.delimiter document.detected field) := by
  have hc : IsName c := ht.isName c (by simp [hcols])
  have hcline : isBlankLine (fieldMarks document.delimiter document.detected c.toList) = false := by
    rw [isBlankLine_fieldMarks, hc.not_blank]
    simp
  rw [ofText_toText_of_single ht hcols hmark, loneFields,
    List.filter_cons_of_pos (by simp [hcline]), List.map_cons]
  refine ⟨rfl, ?_⟩
  simp only [ofRecords, List.map_map]
  rfl

theorem lone_of_kept {document : Document} (ht : document.Tidy) {c : String}
    (hcols : document.columns = [c]) (h : Kept document (ofText document.toText)) :
    ∀ field ∈ c.toList :: document.rows.map (cellText · c),
      survives document.delimiter document.detected field := by
  obtain ⟨hcolumns, hrows⟩ := h
  have hc : IsName c := ht.isName c (by simp [hcols])
  obtain ⟨hheader, hread⟩ := ofText_toText_of_name ht hcols (unmarked_of_columns ht hcolumns)
  rw [hcolumns, hcols] at hheader hread
  intro field hfield
  rcases List.mem_cons.mp hfield with rfl | hfield
  · cases hq : isQuoted document.delimiter c.toList with
    | true => exact Or.inl hq
    | false =>
      have hlen := congrArg List.length hheader
      rw [parts, hq, if_neg (by simp), List.length_mapIdx, List.length_singleton] at hlen
      obtain ⟨part, hpart⟩ := List.length_eq_one_iff.mp hlen.symm
      exact Or.inr ⟨hc.not_blank, fun hm => splitOn_ne_singleton hm part hpart⟩
  · have hlen := hrows.length_eq
    rw [hread, List.length_map] at hlen
    have hall := List.length_filter_eq_length_iff.mp (hlen.symm.trans (List.length_map _).symm)
    rw [hread, List.filter_eq_self.mpr hall, List.map_map, List.forall₂_map_right_iff,
      List.forall₂_same] at hrows
    obtain ⟨row, hrow, rfl⟩ := List.mem_map.mp hfield
    have hcell := get?_of_keeps (by simp [hcols]) (fun v hv => (ht.text row hrow c v hv).2)
      (hrows row hrow)
    obtain ⟨part, more, hparts⟩ :=
      exists_parts document.delimiter document.detected (cellText row c)
    rw [Function.comp_apply, hparts, get?_rowOf_single, Option.some.injEq, Value.text.injEq,
      String.ofList_inj] at hcell
    rw [hcell] at hparts
    exact survives_of_head (by simpa using hall _ hfield) hparts

/-! ## 7. The documents that come back -/

/-- **A document comes back iff it is rereadable.** -/
theorem kept_ofText_toText_iff {document : Document} (ht : document.Tidy) :
    Kept document (ofText document.toText) ↔ document.Rereadable := by
  constructor
  · intro h
    exact ⟨unmarked_of_columns ht h.1, fun h2 => detected_of_columns ht h2 h.1,
      fun c hcols => lone_of_kept ht hcols h⟩
  · intro hr
    obtain ⟨hcolumns, hrows⟩ := ofText_toText ht hr
    refine ⟨hcolumns, ?_⟩
    rw [hrows, List.forall₂_map_right_iff, List.forall₂_same]
    exact fun row hrow => keeps_completed (ht.text row hrow)

end Document
end Tabular
