/-
# Reading the keys of JSON objects

Whoever reads an answer gets the columns of a row as the keys of an object.  `Json.keys?` is such a
reader, for objects whose values are texts, numbers and nulls: it undoes the escapes of a string and
passes over a value.

A column can hold quotes, colons and braces, so it has to be read as a string from end to end
(`readString_quote`), and a value that is a text must be passed over in the same way.  Any other
value holds none of these characters (`toJson_cases`).

* `readString_escapeChar`: one character that is written is one that is read;
* `Spacing.readMember_append`: a member is read up to the comma or the brace that ends it;
* **`keys?_toJson`**, **`keys?_prettyRow`**: in both spellings of a row, the keys are its columns.
-/
import Tabular.Json
import Tabular.Sql.Escaped
import Tabular.Proofs.Binary64.Spelling
import Tabular.Proofs.Pieces

namespace Tabular
namespace Json

/-! ## 1. A reader of keys -/

/-- The character that an escape with one letter stands for. -/
def escaped? : Char → Option Char
  | '\x22' => some '\x22'
  | '\\' => some '\\'
  | '/' => some '/'
  | 'b' => some '\x08'
  | 'f' => some '\x0c'
  | 'n' => some '\n'
  | 'r' => some '\r'
  | 't' => some '\t'
  | _ => none

/-- Puts a character in front of what was read. -/
def push (c : Char) (read : List Char × List Char) : List Char × List Char := (c :: read.1, read.2)

/-- Reads a string behind its opening quote: its characters, and what follows its closing quote. -/
def readString : List Char → Option (List Char × List Char)
  | [] => none
  | '\x22' :: rest => some ([], rest)
  | '\\' :: 'u' :: a :: b :: c :: d :: rest =>
    ((Sql.readDigits? 16 [a, b, c, d]).bind Sql.charOfCode?).bind fun x =>
      (readString rest).map (push x)
  | '\\' :: e :: rest => (escaped? e).bind fun x => (readString rest).map (push x)
  | c :: rest => if c.toNat < 0x20 then none else (readString rest).map (push c)

/-- Spaces and line breaks may stand between the parts of an object. -/
def isSpace (c : Char) : Bool := c = ' ' || c = '\n'

def skipSpace (cs : List Char) : List Char := cs.dropWhile isSpace

/-- Passes over a value and the space behind it: a string, or everything up to a comma or a
closing brace. -/
def skipValue : List Char → Option (List Char)
  | '\x22' :: rest => (readString rest).map fun read => skipSpace read.2
  | cs => some (cs.dropWhile fun c => c ≠ ',' ∧ c ≠ '\x7d')

/-- Reads a key behind its opening quote, and passes over its value. -/
def readMember (cs : List Char) : Option (List Char × List Char) :=
  (readString cs).bind fun key =>
    match skipSpace key.2 with
    | ':' :: rest => (skipValue (skipSpace rest)).map (key.1, ·)
    | _ => none

/-- The keys of an object behind its opening brace, if they are so many at most. -/
def readKeys : Nat → List Char → Option (List String)
  | 0, _ => none
  | fuel + 1, cs =>
    match skipSpace cs with
    | '\x22' :: rest =>
      (readMember rest).bind fun member =>
        match member.2 with
        | ',' :: rest => (readKeys fuel rest).map (String.ofList member.1 :: ·)
        | ['\x7d'] => some [String.ofList member.1]
        | _ => none
    | _ => none

/-- The keys of an object, in order. -/
def keys? (cs : List Char) : Option (List String) :=
  match cs with
  | ['\x7b', '\x7d'] => some []
  | '\x7b' :: rest => readKeys rest.length rest
  | _ => none

/-! ## 2. Strings -/

theorem readDigits?_hexByte : ∀ n < 0x20,
    (Sql.readDigits? 16 (['0', '0'] ++ hexByte n)).bind Sql.charOfCode? = some (Char.ofNat n) := by
  decide

/-- **A character that is written** is read back, whatever follows. -/
theorem readString_escapeChar (c : Char) (rest : List Char) :
    readString (escapeChar c ++ rest) = (readString rest).map (push c) := by
  unfold escapeChar
  split
  any_goals rfl
  rename_i hquote hbackslash _ _ _ _ _
  split
  · rename_i hlow
    have hread := readDigits?_hexByte c.toNat hlow
    rw [Char.ofNat_toNat] at hread
    change readString ('\\' :: 'u' :: '0' :: '0' :: _ :: _ :: rest) = _
    rw [readString]
    change Option.bind ((Sql.readDigits? 16 (['0', '0'] ++ hexByte c.toNat)).bind _) _ = _
    rw [hread, Option.bind_some]
  · rename_i hhigh
    rw [List.singleton_append, readString, if_neg hhigh]
    · exact hquote
    · exact fun _ _ _ _ _ hc _ => hbackslash hc
    · exact fun _ _ hc _ => hbackslash hc

theorem readString_flatMap (cs rest : List Char) :
    readString (cs.flatMap escapeChar ++ '\x22' :: rest) = some (cs, rest) := by
  induction cs with
  | nil => rfl
  | cons c cs ih =>
    rw [List.flatMap_cons, List.append_assoc, readString_escapeChar, ih]
    rfl

/-- A string that is written is read back. -/
theorem readString_quote (s : String) (rest : List Char) :
    ∃ cs, (quote s).toList ++ rest = '\x22' :: cs ∧ readString cs = some (s.toList, rest) :=
  ⟨s.toList.flatMap escapeChar ++ '\x22' :: rest, by simp [quote], readString_flatMap _ rest⟩

theorem skipSpace_append {space : List Char} (h : ∀ c ∈ space, isSpace c = true) {c : Char}
    (hc : isSpace c = false) (rest : List Char) : skipSpace (space ++ c :: rest) = c :: rest := by
  rw [skipSpace, List.dropWhile_append_of_pos h, List.dropWhile_cons_of_neg (by simp [hc])]

/-! ## 3. Values -/

/-- A character that means nothing to a reader of objects. -/
def isPlain (c : Char) : Bool := decide (c ∉ [',', '\x7d', '\x22', ' ', '\n'])

/-- The text of a value that is not a string. -/
structure IsScalar (cs : List Char) : Prop where
  ne_nil : cs ≠ []
  plain : ∀ c ∈ cs, isPlain c = true

theorem isPlain_of_isDigit {c : Char} (h : c.isDigit = true) : isPlain c = true := by
  rw [isPlain, decide_eq_true_eq]
  intro hmem
  simp only [List.mem_cons, List.not_mem_nil, or_false] at hmem
  rcases hmem with rfl | rfl | rfl | rfl | rfl <;> exact absurd h (by decide)

theorem isScalar_toDigits (n : Nat) : IsScalar (Nat.toDigits 10 n) :=
  ⟨Nat.toDigits_ne_nil, fun _ hc => isPlain_of_isDigit (Decimal.isDigit_of_mem_digits hc)⟩

theorem IsScalar.cons {c : Char} {cs : List Char} (hc : isPlain c = true) (h : IsScalar cs) :
    IsScalar (c :: cs) := by
  refine ⟨by simp, fun x hx => ?_⟩
  rcases List.mem_cons.mp hx with rfl | hx
  · exact hc
  · exact h.plain x hx

theorem IsScalar.append {cs : List Char} (h : IsScalar cs) {more : List Char}
    (hmore : ∀ c ∈ more, isPlain c = true) : IsScalar (cs ++ more) := by
  refine ⟨by simp [h.ne_nil], fun c hc => ?_⟩
  rcases List.mem_append.mp hc with hc | hc
  · exact h.plain c hc
  · exact hmore c hc

theorem isScalar_repr (i : Int) : IsScalar i.repr.toList := by
  rw [Int.repr_eq_if]
  split
  · rw [Nat.toList_repr]
    exact isScalar_toDigits _
  · rw [String.toList_append, Nat.toList_repr]
    exact (isScalar_toDigits _).cons (by decide)

theorem isScalar_writePositional (point : Bool) {digits : List Char} (h : IsScalar digits)
    (exponent : Int) : IsScalar (Binary64.writePositional point digits exponent) := by
  have hzeros : ∀ n, ∀ c ∈ List.replicate n '0', isPlain c = true := fun n c hc =>
    isPlain_of_isDigit (Decimal.isDigit_of_mem_zeros hc)
  unfold Binary64.writePositional
  split
  · refine (h.append (hzeros _)).append ?_
    cases point <;> simp [isPlain]
  · -- The digits with zeros in front, and a point in between.
    dsimp only
    generalize hpadded : List.replicate _ '0' ++ digits = padded
    have hplain : ∀ c ∈ padded, isPlain c = true := by
      intro c hc
      rcases List.mem_append.mp (hpadded ▸ hc) with hc | hc
      · exact hzeros _ c hc
      · exact h.plain c hc
    refine ⟨by simp, fun c hc => ?_⟩
    rcases List.mem_append.mp hc with hc | hc
    · exact hplain c (List.mem_of_mem_take hc)
    · rcases List.mem_cons.mp hc with rfl | hc
      · decide
      · exact hplain c (List.mem_of_mem_drop hc)

theorem isScalar_writeScientific {digits : List Char} (h : IsScalar digits) (leading : Int) :
    IsScalar (Binary64.writeScientific digits leading) := by
  have hsign : ∀ c ∈ ['e', if leading < 0 then '-' else '+'], isPlain c = true := by
    split <;> exact List.all_eq_true.mp rfl
  have hexponent := (isScalar_toDigits leading.natAbs).plain
  unfold Binary64.writeScientific
  rcases digits with _ | ⟨d, _ | ⟨e, rest⟩⟩
  · exact absurd rfl h.ne_nil
  · exact (h.append hsign).append hexponent
  · have hmantissa : IsScalar (d :: '.' :: e :: rest) := by
      have hplain := h.plain
      simp only [List.mem_cons, forall_eq_or_imp] at hplain
      refine ⟨by simp, ?_⟩
      simp only [List.mem_cons, forall_eq_or_imp]
      exact ⟨hplain.1, by decide, hplain.2⟩
    exact (hmantissa.append hsign).append hexponent

theorem isScalar_write (layout : Binary64.Layout) (x : Binary64) :
    IsScalar (x.write layout).toList := by
  have hdigits : ∀ u, IsScalar (layout.digits u) := by
    intro u
    unfold Binary64.Layout.digits
    split
    · exact isScalar_writePositional _ ⟨by simp, List.all_eq_true.mp rfl⟩ _
    · dsimp only
      split
      · split
        · exact isScalar_writePositional _ (isScalar_toDigits _) _
        · exact isScalar_writeScientific (isScalar_toDigits _) _
      · exact isScalar_writePositional _ (isScalar_toDigits _) _
  unfold Binary64.write
  split
  · exact ⟨by decide, List.all_eq_true.mp rfl⟩
  · split
    · exact ⟨by decide, List.all_eq_true.mp rfl⟩
    · exact ⟨by decide, List.all_eq_true.mp rfl⟩
  · rw [String.toList_ofList]
    split
    · exact (hdigits _).cons (by decide)
    · exact hdigits _

/-- **A value is a string or a scalar.** -/
theorem toJson_cases (v : Value) : (∃ s, v.toJson = quote s) ∨ IsScalar v.toJson.toList := by
  have hnull : IsScalar "null".toList := ⟨by decide, List.all_eq_true.mp rfl⟩
  cases v with
  | null => exact Or.inr hnull
  | text s => exact Or.inl ⟨s, rfl⟩
  | number x =>
    right
    rw [Value.toJson]
    split
    · exact isScalar_repr _
    · split
      · exact isScalar_write _ _
      · exact hnull

/-- What ends a value: a comma or a closing brace, with space in front or none. -/
structure IsEnd (after rest : List Char) : Prop where
  skip : skipSpace after = rest
  stop : after.dropWhile (fun c => c ≠ ',' ∧ c ≠ '\x7d') = rest

theorem isEnd_comma (rest : List Char) : IsEnd (',' :: rest) (',' :: rest) := ⟨rfl, rfl⟩

theorem isEnd_brace {space : List Char} (h : ∀ c ∈ space, isSpace c = true) :
    IsEnd (space ++ ['\x7d']) ['\x7d'] := by
  refine ⟨skipSpace_append h rfl [], ?_⟩
  rw [List.dropWhile_append_of_pos]
  · rfl
  · intro c hc
    have hspace := h c hc
    simp only [isSpace, Bool.or_eq_true, decide_eq_true_eq] at hspace
    rcases hspace with rfl | rfl <;> decide

/-- **A value is passed over**, with the space around it. -/
theorem skipValue_toJson {gap : List Char} (hgap : ∀ c ∈ gap, isSpace c = true) (v : Value)
    {after rest : List Char} (h : IsEnd after rest) :
    skipValue (skipSpace (gap ++ (v.toJson.toList ++ after))) = some rest := by
  rcases toJson_cases v with ⟨s, hs⟩ | hscalar
  · obtain ⟨cs, hcs, hread⟩ := readString_quote s after
    rw [hs, hcs, skipSpace_append hgap rfl, skipValue, hread, Option.map_some, h.skip]
  · obtain ⟨c, cs, hcs⟩ := List.exists_cons_of_ne_nil hscalar.ne_nil
    have hplain := hscalar.plain
    simp only [isPlain, decide_eq_true_eq, List.mem_cons, List.not_mem_nil, or_false, not_or]
      at hplain
    have hc := hplain c (hcs ▸ List.mem_cons_self)
    have hskip : ∀ x ∈ c :: cs, decide (x ≠ ',' ∧ x ≠ '\x7d') = true := by
      intro x hx
      have hx := hplain x (hcs ▸ hx)
      simp [hx.1, hx.2.1]
    rw [hcs, List.cons_append, skipSpace_append hgap (by simp [isSpace, hc.2.2.2]), skipValue,
      ← List.cons_append, List.dropWhile_append_of_pos hskip, h.stop]
    exact fun _ hquote => hc.2.2.1 (List.cons.inj hquote).1

/-! ## 4. Objects -/

/-- The space in a spelling of objects. -/
structure Spacing where
  /-- In front of a key. -/
  indent : List Char
  /-- Behind a colon. -/
  gap : List Char
  /-- In front of the closing brace. -/
  close : List Char
  isSpace_indent : ∀ c ∈ indent, isSpace c = true
  isSpace_gap : ∀ c ∈ gap, isSpace c = true
  isSpace_close : ∀ c ∈ close, isSpace c = true

namespace Spacing

/-- Everything on one line. -/
def compact : Spacing := ⟨[], [], [], by simp, by simp, by simp⟩

/-- A line for each member, in a list of objects. -/
def lines : Spacing :=
  ⟨"\n    ".toList, [' '], "\n  ".toList, List.all_eq_true.mp rfl, List.all_eq_true.mp rfl,
    List.all_eq_true.mp rfl⟩

variable (spacing : Spacing)

/-- A member of an object: a key and its value. -/
def member (cell : String × Value) : List Char :=
  (quote cell.1).toList ++ ':' :: (spacing.gap ++ cell.2.toJson.toList)

/-- The members of an object, up to its closing brace. -/
def members (cells : Cells) : List Char :=
  [','].intercalate (cells.map fun cell => spacing.indent ++ spacing.member cell) ++
    (spacing.close ++ ['\x7d'])

theorem members_singleton (cell : String × Value) : spacing.members [cell] =
    spacing.indent ++ (spacing.member cell ++ (spacing.close ++ ['\x7d'])) := by
  simp [members]

theorem members_cons_cons (cell next : String × Value) (cells : Cells) :
    spacing.members (cell :: next :: cells) =
      spacing.indent ++ (spacing.member cell ++ ',' :: spacing.members (next :: cells)) := by
  simp [members]

theorem readMember_append (cell : String × Value) {after rest : List Char} (h : IsEnd after rest) :
    ∃ cs, spacing.member cell ++ after = '\x22' :: cs ∧
      readMember cs = some (cell.1.toList, rest) := by
  obtain ⟨cs, hcs, hread⟩ :=
    readString_quote cell.1 (':' :: (spacing.gap ++ (cell.2.toJson.toList ++ after)))
  refine ⟨cs, by rw [← hcs]; simp [member], ?_⟩
  have hcolon : skipSpace (':' :: (spacing.gap ++ (cell.2.toJson.toList ++ after))) =
      ':' :: (spacing.gap ++ (cell.2.toJson.toList ++ after)) := rfl
  rw [readMember, hread, Option.bind_some]
  simp only [hcolon, skipValue_toJson spacing.isSpace_gap cell.2 h, Option.map_some]

/-- **The keys of an object** are the names of its members. -/
theorem readKeys_members {cells : Cells} (hne : cells ≠ []) {fuel : Nat}
    (hfuel : cells.length ≤ fuel) : readKeys fuel (spacing.members cells) = some cells.names := by
  induction cells generalizing fuel with
  | nil => exact absurd rfl hne
  | cons cell cells ih =>
    obtain ⟨fuel, rfl⟩ := Nat.exists_eq_add_one_of_ne_zero (Nat.ne_zero_of_lt hfuel)
    cases cells with
    | nil =>
      obtain ⟨cs, hcs, hread⟩ :=
        spacing.readMember_append cell (isEnd_brace spacing.isSpace_close)
      rw [members_singleton, hcs, readKeys, skipSpace_append spacing.isSpace_indent rfl]
      simp [hread, Entries.names]
    | cons next cells =>
      obtain ⟨cs, hcs, hread⟩ :=
        spacing.readMember_append cell (isEnd_comma (spacing.members (next :: cells)))
      have hrest := ih (by simp) (Nat.le_of_succ_le_succ hfuel)
      rw [members_cons_cons, hcs, readKeys, skipSpace_append spacing.isSpace_indent rfl]
      simp [hread, hrest, Entries.names]

/-- Every member takes up room, so that the text of an object bounds how many it has. -/
theorem length_le_length_members (cells : Cells) :
    cells.length ≤ (spacing.members cells).length := by
  induction cells with
  | nil => exact Nat.zero_le _
  | cons cell cells ih =>
    cases cells with
    | nil => exact Nat.succ_le_of_lt (List.length_pos_iff.mpr (by simp [members]))
    | cons next cells =>
      rw [members_cons_cons, ← List.append_assoc, List.length_append]
      exact Nat.le_add_left_of_le (Nat.succ_le_succ ih)

theorem keys?_members {cells : Cells} (hne : cells ≠ []) :
    keys? ('\x7b' :: spacing.members cells) = some cells.names := by
  have hread := spacing.readKeys_members hne (spacing.length_le_length_members cells)
  unfold keys?
  split
  · rename_i heq
    have hnil := (List.cons.inj heq).2
    rw [hnil] at hread
    simp [readKeys, skipSpace, isSpace] at hread
  · rename_i rest heq
    rwa [← (List.cons.inj heq).2]
  · rename_i hno
    exact absurd rfl (hno _)

end Spacing

/-- **On one line**, the keys of a row are its columns. -/
theorem keys?_toJson (row : Row) : keys? row.toJson.toList = some row.columns := by
  by_cases hne : row.cells = []
  · simp [Row.toJson, Row.columns, hne, keys?, Entries.names]
  have htext : row.toJson.toList = '\x7b' :: Spacing.compact.members row.cells := by
    simp [Row.toJson, Spacing.compact, Spacing.members, Spacing.member, Function.comp_def]
  rw [htext]
  exact Spacing.compact.keys?_members hne

/-- **With a line for each cell**, they are the same. -/
theorem keys?_prettyRow (row : Row) : keys? (prettyRow row).toList = some row.columns := by
  by_cases hne : row.cells = []
  · simp [prettyRow, Row.isEmpty, Row.columns, hne, keys?, Entries.names]
  -- The line break behind every comma, and the first one, stand in front of the keys.
  have hparts : row.cells.map (fun cell => "    ".toList ++ Spacing.lines.member cell) ≠ [] := by
    simpa using hne
  have hlead := append_intercalate ',' hparts ['\n']
  rw [List.map_map] at hlead
  have htext : (prettyRow row).toList = '\x7b' :: Spacing.lines.members row.cells := by
    change _ = '\x7b' :: ([','].intercalate (row.cells.map ((['\n'] ++ ·) ∘ fun cell =>
      "    ".toList ++ Spacing.lines.member cell)) ++ ("\n  ".toList ++ ['\x7d']))
    rw [← hlead]
    simp [prettyRow, Row.isEmpty, hne, Spacing.member, Spacing.lines, Function.comp_def]
  rw [htext]
  exact Spacing.lines.keys?_members hne

end Json
end Tabular
