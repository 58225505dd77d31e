/-
# Reading in one pass

`records` first marks the whole text and then splits the marks.  A reader can also go through the
text once, with the records and fields that it has completed, the field at hand and two flags
(`Reader`).  Both give the same records of every text (`Reader.read_eq_records`).

The argument is an invariant that ties the state to marks: `Holds r ms` says that the record at
hand, as far as it was read, has the marks `ms`.  One step of the reader (`Reader.step_spec`)
either adds to these marks what the character means, or ends the record; a run (`Reader.records_run`)
then gives what splitting the marks gives.

At last, **`written_records_are_read`**: records that are written are read as they were, by
either reader, if a record of one field is no blank line.
-/
import Tabular.Proofs.Delimited.Document

namespace Tabular
namespace Delimited

/-! ## 1. The reader -/

/-- What is known of a text that was read up to some place. -/
structure Reader where
  /-- The complete records, without the blank lines. -/
  records : List (List (List Char))
  /-- The complete fields of the record at hand. -/
  fields : List (List Char)
  /-- The field at hand. -/
  current : List Char
  /-- Is a quote open? -/
  inQuotes : Bool
  /-- Has the record at hand a quote that opens? -/
  quoted : Bool

namespace Reader

/-- The reader before the text. -/
def start : Reader := ⟨[], [], [], false, false⟩

/-- Adds a character to the field at hand. -/
def push (r : Reader) (c : Char) : Reader := { r with current := r.current ++ [c] }

/-- Opens a quote. -/
def openQuote (r : Reader) : Reader := { r with inQuotes := true, quoted := true }

/-- Closes the quote. -/
def closeQuote (r : Reader) : Reader := { r with inQuotes := false }

/-- Ends the field at hand. -/
def endField (r : Reader) : Reader :=
  { r with fields := r.fields ++ [r.current], current := [] }

/-- Is the record at hand a blank line? -/
def isBlank (r : Reader) : Bool :=
  !r.quoted &&
    match r.fields ++ [r.current] with
    | [field] => Text.isBlankText field
    | _ => false

/-- Ends the record at hand; a blank line is none. -/
def endRecord (r : Reader) : Reader where
  records := if r.isBlank then r.records else r.records ++ [r.fields ++ [r.current]]
  fields := []
  current := []
  inQuotes := r.inQuotes
  quoted := false

/-- Reads the character `c`, and the next one with it if the two are a quote inside quotes.  The
result is the reader behind them and the rest of the text. -/
def step (d : Char) (r : Reader) (c : Char) (rest : List Char) : Reader × List Char :=
  if c = '\x22' ∧ r.inQuotes then
    if rest.head? = some '\x22' then (r.push '\x22', rest.tail) else (r.closeQuote, rest)
  else if c = '\x22' ∧ r.current = [] then (r.openQuote, rest)
  else if c = d ∧ !r.inQuotes then (r.endField, rest)
  else if c = '\r' ∧ !r.inQuotes ∧ rest.head? = some '\n' then (r, rest)
  else if c = '\n' ∧ !r.inQuotes then (r.endRecord, rest)
  else (r.push c, rest)

theorem length_step_le (d : Char) (r : Reader) (c : Char) (rest : List Char) :
    (step d r c rest).2.length ≤ rest.length := by
  unfold step
  split_ifs <;> simp

/-- Reads a text to its end, which ends the last record. -/
def run (d : Char) (r : Reader) : List Char → Reader
  | [] => r.endRecord
  | c :: rest => run d (step d r c rest).1 (step d r c rest).2
termination_by text => text.length
decreasing_by
  have := length_step_le d r c rest
  simp only [List.length_cons]
  omega

/-- The records of a text. -/
def read (d : Char) (text : List Char) : List (List (List Char)) := (run d start text).records

end Reader

/-! ## 2. Splitting marks piece by piece -/

/-- The records of a list of marks. -/
def recordsOf (ms : List Mark) : List (List (List Char)) :=
  ((ms.splitOnP (· = .recordEnd)).filter (!isBlankLine ·)).map fieldsOf

theorem recordsOf_of_notMem {ms : List Mark} (h : Mark.recordEnd ∉ ms) :
    recordsOf ms = if isBlankLine ms then [] else [fieldsOf ms] := by
  have hne : ∀ m ∈ ms, decide (m = Mark.recordEnd) = false := by
    intro m hm
    simp only [decide_eq_false_iff_not]
    rintro rfl
    exact h hm
  rw [recordsOf, List.splitOnP_eq_singleton hne]
  cases hblank : isBlankLine ms <;> simp [hblank]

theorem recordsOf_append (ms more : List Mark) :
    recordsOf (ms ++ .recordEnd :: more) = recordsOf ms ++ recordsOf more := by
  unfold recordsOf
  rw [List.splitOnP_append_cons _ _ (by simp), List.filter_append, List.map_append]

theorem fieldsOf_cons (m : Mark) (ms : List Mark) :
    fieldsOf (m :: ms) = if m = .fieldEnd then [] :: fieldsOf ms
      else (fieldsOf ms).modifyHead (m.char?.toList ++ ·) := by
  unfold fieldsOf
  rw [List.splitOnP_cons_eq_if_modifyHead]
  split_ifs with h
  · simp_all
  · simp_all
  · simp_all
  · cases hs : ms.splitOnP (· = .fieldEnd) with
    | nil => rfl
    | cons part parts => cases hm : m.char? <;> simp [hm]

/-! ## 3. One step -/

/-- The record at hand has the marks `ms`, as far as the reader has read it: whatever marks
follow, its fields go on where the reader is. -/
structure Holds (r : Reader) (ms : List Mark) : Prop where
  fieldsOf_append : ∀ more, fieldsOf (ms ++ more) =
    r.fields ++ (fieldsOf more).modifyHead (r.current ++ ·)
  opening_mem : Mark.opening ∈ ms ↔ r.quoted = true
  recordEnd_notMem : Mark.recordEnd ∉ ms

namespace Holds

variable {r : Reader} {ms : List Mark}

theorem nil (h : r.fields = [] ∧ r.current = [] ∧ r.quoted = false) : Holds r [] where
  fieldsOf_append := fun more => by
    cases hf : fieldsOf more <;> simp [h, hf]
  opening_mem := by simp [h]
  recordEnd_notMem := List.not_mem_nil

theorem push (h : Holds r ms) (c : Char) : Holds (r.push c) (ms ++ [.char c]) where
  fieldsOf_append := fun more => by
    rw [List.append_assoc, h.fieldsOf_append, List.singleton_append, fieldsOf_cons]
    cases hf : fieldsOf more <;> simp [Reader.push, Mark.char?]
  opening_mem := by simpa [Reader.push] using h.opening_mem
  recordEnd_notMem := by simpa using h.recordEnd_notMem

theorem openQuote (h : Holds r ms) : Holds r.openQuote (ms ++ [.opening]) where
  fieldsOf_append := fun more => by
    rw [List.append_assoc, h.fieldsOf_append, List.singleton_append, fieldsOf_cons]
    cases hf : fieldsOf more <;> simp [Reader.openQuote, Mark.char?]
  opening_mem := by simp [Reader.openQuote]
  recordEnd_notMem := by simpa using h.recordEnd_notMem

theorem closeQuote (h : Holds r ms) : Holds r.closeQuote ms :=
  ⟨h.fieldsOf_append, h.opening_mem, h.recordEnd_notMem⟩

theorem endField (h : Holds r ms) : Holds r.endField (ms ++ [.fieldEnd]) where
  fieldsOf_append := fun more => by
    rw [List.append_assoc, h.fieldsOf_append, List.singleton_append, fieldsOf_cons]
    cases hf : fieldsOf more <;> simp [Reader.endField]
  opening_mem := by simpa [Reader.endField] using h.opening_mem
  recordEnd_notMem := by simpa using h.recordEnd_notMem

/-- The fields of the record, if it ends here. -/
theorem fieldsOf_eq (h : Holds r ms) : fieldsOf ms = r.fields ++ [r.current] := by
  have hnil : fieldsOf [] = [[]] := rfl
  simpa [hnil] using h.fieldsOf_append []

theorem isBlank_eq (h : Holds r ms) : r.isBlank = isBlankLine ms := by
  have hquoted : ms.contains .opening = r.quoted := by
    rw [Bool.eq_iff_iff, List.contains_iff_mem]
    exact h.opening_mem
  rw [isBlankLine, h.fieldsOf_eq, hquoted]
  rfl

theorem records_endRecord (h : Holds r ms) :
    r.endRecord.records = r.records ++ recordsOf ms := by
  rw [recordsOf_of_notMem h.recordEnd_notMem, ← h.isBlank_eq, h.fieldsOf_eq, Reader.endRecord]
  cases r.isBlank <;> simp

end Holds

namespace Reader

variable {d : Char} {r : Reader} {ms : List Mark}

/-- The marks of the text in front of the reader. -/
def ahead (d : Char) (r : Reader) (text : List Char) : List Mark :=
  marks d r.inQuotes r.current.isEmpty text

theorem ahead_push (d : Char) (r : Reader) (c : Char) (text : List Char) :
    ahead d (r.push c) text = marks d r.inQuotes false text := by
  have hne : (r.current ++ [c]).isEmpty = false := by simp
  rw [ahead, push, hne]

/-- Between two places of a text the reader stays in one record: it holds more marks of it, and
those are no longer ahead. -/
def StaysIn (d : Char) (r : Reader) (ms : List Mark) (text : List Char)
    (after : Reader × List Char) : Prop :=
  ∃ more, Holds after.1 (ms ++ more) ∧ after.1.records = r.records ∧
    ahead d r text = more ++ ahead d after.1 after.2

/-- Inside quotes a step adds a character, or closes the quote. -/
theorem step_inside (h : Holds r ms) (hq : r.inQuotes = true) (c : Char) (rest : List Char) :
    StaysIn d r ms (c :: rest) (step d r c rest) := by
  by_cases hc : c = '\x22'
  · subst hc
    by_cases hnext : rest.head? = some '\x22'
    · obtain ⟨rest', rfl⟩ : ∃ rest', rest = '\x22' :: rest' := List.head?_eq_some_iff.mp hnext
      have hstep : step d r '\x22' ('\x22' :: rest') = (r.push '\x22', rest') := by
        simp [step, hq]
      rw [hstep]
      refine ⟨[.char '\x22'], h.push _, rfl, ?_⟩
      rw [ahead_push, ahead, hq, marks_double]
      rfl
    · have hstep : step d r '\x22' rest = (r.closeQuote, rest) := by
        simp [step, hq, hnext]
      rw [hstep]
      refine ⟨[], by simpa using h.closeQuote, rfl, ?_⟩
      rw [ahead, hq, marks_close _ hnext]
      rfl
  · have hstep : step d r c rest = (r.push c, rest) := by
      simp [step, hq, hc]
    rw [hstep]
    refine ⟨[.char c], h.push c, rfl, ?_⟩
    rw [ahead_push, ahead, hq, marks_inside _ hc]
    rfl

theorem step_of_not_inQuotes (hq : r.inQuotes = false) (d c : Char) (rest : List Char) :
    step d r c rest =
      if c = '\x22' ∧ r.current = [] then (r.openQuote, rest)
      else if c = d then (r.endField, rest)
      else if c = '\r' ∧ rest.head? = some '\n' then (r, rest)
      else if c = '\n' then (r.endRecord, rest)
      else (r.push c, rest) := by
  simp [step, hq]

theorem ahead_of_not_inQuotes (hq : r.inQuotes = false) (d c : Char) (rest : List Char) :
    ahead d r (c :: rest) =
      if c = '\x22' ∧ r.current = [] then .opening :: ahead d r.openQuote rest
      else if c = d then .fieldEnd :: ahead d r.endField rest
      else if c = '\r' ∧ rest.head? = some '\n' then ahead d r rest
      else if c = '\n' then .recordEnd :: ahead d r.endRecord rest
      else .char c :: ahead d (r.push c) rest := by
  rw [ahead, hq, marks_outside, ahead_push]
  simp [ahead, openQuote, endField, endRecord, hq]

/-- Outside quotes a step opens a quote, ends a field, skips a carriage return or adds a
character, if it does not end the record. -/
theorem step_outside (h : Holds r ms) (hq : r.inQuotes = false) (c : Char) (rest : List Char) :
    (step d r c rest = (r.endRecord, rest) ∧
      ahead d r (c :: rest) = .recordEnd :: ahead d r.endRecord rest) ∨
    StaysIn d r ms (c :: rest) (step d r c rest) := by
  unfold StaysIn
  rw [step_of_not_inQuotes hq, ahead_of_not_inQuotes hq]
  split_ifs with hopen hd hr hn
  · exact Or.inr ⟨[.opening], h.openQuote, rfl, rfl⟩
  · exact Or.inr ⟨[.fieldEnd], h.endField, rfl, rfl⟩
  · exact Or.inr ⟨[], by simpa using h, rfl, rfl⟩
  · exact Or.inl ⟨rfl, rfl⟩
  · exact Or.inr ⟨[.char c], h.push c, rfl, rfl⟩

/-- **One step**, in or outside quotes. -/
theorem step_spec (h : Holds r ms) (c : Char) (rest : List Char) :
    (step d r c rest = (r.endRecord, rest) ∧
      ahead d r (c :: rest) = .recordEnd :: ahead d r.endRecord rest) ∨
    StaysIn d r ms (c :: rest) (step d r c rest) := by
  cases hq : r.inQuotes with
  | true => exact Or.inr (step_inside h hq c rest)
  | false => exact step_outside h hq c rest

/-! ## 4. A run -/

/-- **What a run gives** is what was complete before, and the records of the marks of the record
at hand with those ahead. -/
theorem records_run (h : Holds r ms) (text : List Char) :
    (run d r text).records = r.records ++ recordsOf (ms ++ ahead d r text) := by
  induction r, text using run.induct d generalizing ms with
  | case1 r =>
    have hnil : ahead d r [] = [] := by simp [ahead, marks]
    rw [run, hnil, List.append_nil]
    exact h.records_endRecord
  | case2 r c rest ih =>
    rw [run]
    rcases step_spec (d := d) h c rest with ⟨hstep, hahead⟩ | ⟨more, hmore, hrecords, hahead⟩
    · rw [hstep] at ih ⊢
      rw [ih (Holds.nil ⟨rfl, rfl, rfl⟩), hahead, recordsOf_append, h.records_endRecord,
        List.append_assoc]
      rfl
    · rw [ih hmore, hrecords, hahead, List.append_assoc]

/-- **Reading in one pass** gives the same records as marking the text and splitting the marks,
for every text and every delimiter. -/
theorem read_eq_records (d : Char) (text : List Char) : read d text = Delimited.records d text := by
  rw [read, records_run (Holds.nil ⟨rfl, rfl, rfl⟩)]
  rfl

end Reader

/-! ## 5. Written records -/

variable {d : Char} {rs : List (List (List Char))}

theorem isQuoted_iff {field : List Char} : isQuoted d field = true ↔
    d ∈ field ∨ '\x22' ∈ field ∨ '\n' ∈ field ∨ '\r' ∈ field := by
  simp only [isQuoted, isSpecial, List.any_eq_true, Bool.or_eq_true, decide_eq_true_eq]
  constructor
  · rintro ⟨c, hc, ((rfl | rfl) | rfl) | rfl⟩ <;> simp [hc]
  · rintro (h | h | h | h) <;> exact ⟨_, h, by simp⟩

/-- When a lone field is read: a quote is not blank, so it needs no case of its own. -/
theorem not_vanishes_iff {field : List Char} : vanishes d [field] = false ↔
    Text.trim field ≠ [] ∨ d ∈ field ∨ '\r' ∈ field ∨ '\n' ∈ field := by
  have hvanishes : vanishes d [field] = false ↔
      isQuoted d field = true ∨ Text.isBlankText field = false := by
    cases hq : isQuoted d field <;> simp [vanishes, hq]
  have hquote : '\x22' ∈ field → Text.isBlankText field = false :=
    fun h => Text.isBlankText_eq_false_of_mem h (by decide)
  rw [hvanishes, isQuoted_iff, ne_eq, Text.trim_eq_nil_iff, Bool.not_eq_true]
  tauto

/-- **Written records come back**: each with all its fields, whatever characters they hold, and
in their order.  A record of one field must not be a blank line. -/
theorem written_records_are_read (hd : d ∈ Document.candidates)
    (hne : ∀ fields ∈ rs, fields ≠ [])
    (hlone : ∀ field, [field] ∈ rs →
      Text.trim field ≠ [] ∨ d ∈ field ∨ '\r' ∈ field ∨ '\n' ∈ field) :
    Reader.read d (rs.flatMap (writeRecord d)) = rs ∧
      records d (rs.flatMap (writeRecord d)) = rs := by
  have hkept : ∀ fields ∈ rs, (!vanishes d fields) = true := by
    intro fields hfields
    match fields with
    | [] => exact absurd rfl (hne [] hfields)
    | [field] => simpa using not_vanishes_iff.mpr (hlone field hfields)
    | _ :: _ :: _ => rfl
  have hrecords : records d (rs.flatMap (writeRecord d)) = rs := by
    rw [records_flatMap_writeRecord (Document.separates_of_mem_candidates hd) hne,
      List.filter_eq_self.mpr hkept]
  exact ⟨by rw [Reader.read_eq_records, hrecords], hrecords⟩

/-- Quotes, a delimiter and line breaks inside of fields, beside a lone field that is blank but for
a tab, which parts the fields. -/
theorem written_records_are_read_tab :
    let rs : List (List (List Char)) :=
      [["say \x22hi\x22".toList, "a\tb".toList, "x\r\ny".toList, []], ["\t".toList]]
    Reader.read '\t' (rs.flatMap (writeRecord '\t')) = rs ∧
      records '\t' (rs.flatMap (writeRecord '\t')) = rs := by
  refine written_records_are_read (by decide) (by decide) ?_
  intro field hfield
  have hfield' : field = "\t".toList := by simpa using hfield
  exact Or.inr (Or.inl (by rw [hfield']; decide))

end Delimited
end Tabular
