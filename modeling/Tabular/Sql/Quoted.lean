/-
# Text between quotes

The scanners below read what follows an opening quote: each returns the text and the rest, or
nothing when the quote is never closed.  A quote that is doubled stands for itself.

Each scanner comes with the fact that the rest is a proper end of its input, which is what lets
the tokenizer run to the end of a statement.
-/
namespace Tabular
namespace Sql

/-- What a scanner has read, and the rest. -/
abbrev Scanned := List Char × List Char

/-- Puts a character in front of what has been read. -/
def push (c : Char) (s : Scanned) : Scanned := (c :: s.1, s.2)

/-- Putting a character in front does not change the rest. -/
theorem exists_of_map_push {c : Char} {o : Option Scanned} {text rest : List Char}
    (h : o.map (push c) = some (text, rest)) : ∃ s, o = some (s, rest) := by
  obtain ⟨⟨s, r⟩, hs, he⟩ := Option.map_eq_some_iff.mp h
  obtain ⟨_, rfl⟩ : c :: s = text ∧ r = rest := by simpa [push] using he
  exact ⟨s, hs⟩

/-! ## 1. Doubled quotes -/

/-- The text up to the closing quote `q`; `qq` is one `q`. -/
def scanQuoted (q : Char) : List Char → Option Scanned
  | [] => none
  | c :: cs =>
    if c = q then
      match cs with
      | [] => some ([], [])
      | d :: ds => if d = q then (scanQuoted q ds).map (push q) else some ([], d :: ds)
    else (scanQuoted q cs).map (push c)

theorem scanQuoted_suffix {q : Char} {cs text rest : List Char}
    (h : scanQuoted q cs = some (text, rest)) : rest <:+ cs := by
  fun_induction scanQuoted q cs generalizing text with
  | case1 => simp at h
  | case2 => simp_all
  | case3 ds ih =>
    obtain ⟨s, hs⟩ := exists_of_map_push h
    exact (ih hs).trans ((List.suffix_cons _ _).trans (List.suffix_cons _ _))
  | case4 d ds hd =>
    obtain ⟨rfl, rfl⟩ : [] = text ∧ d :: ds = rest := by simpa using h
    exact List.suffix_cons _ _
  | case5 c cs hc ih =>
    obtain ⟨s, hs⟩ := exists_of_map_push h
    exact (ih hs).trans (List.suffix_cons _ _)

/-! ## 2. Three quotes -/

/-- The text up to the next three quotes in a row. -/
def scanTripled (q : Char) : List Char → Option Scanned
  | [] => none
  | c :: cs =>
    if c = q ∧ cs.take 2 = [q, q] then some ([], cs.drop 2)
    else (scanTripled q cs).map (push c)

theorem scanTripled_suffix {q : Char} {cs text rest : List Char}
    (h : scanTripled q cs = some (text, rest)) : rest <:+ cs := by
  fun_induction scanTripled q cs generalizing text with
  | case1 => simp at h
  | case2 c cs hc =>
    obtain ⟨rfl, rfl⟩ : [] = text ∧ cs.drop 2 = rest := by simpa using h
    exact (List.drop_suffix _ _).trans (List.suffix_cons _ _)
  | case3 c cs hc ih =>
    obtain ⟨s, hs⟩ := exists_of_map_push h
    exact (ih hs).trans (List.suffix_cons _ _)

/-! ## 3. Backslashes -/

/-- What a character stands for after a backslash. -/
def afterBackslash (c : Char) : Char :=
  match c with
  | '0' => '\x00'
  | 'a' => '\x07'
  | 'b' => '\x08'
  | 'f' => '\x0c'
  | 'n' => '\n'
  | 'r' => '\r'
  | 't' => '\t'
  | 'Z' => '\x1a'
  | c => c

/-- The text up to the closing quote `q`, where a doubled quote is one quote and a backslash
changes the meaning of the character after it. -/
def scanSlashed (q : Char) : List Char → Option Scanned
  | [] => none
  | c :: cs =>
    if c = q then
      match cs with
      | [] => some ([], [])
      | d :: ds => if d = q then (scanSlashed q ds).map (push q) else some ([], d :: ds)
    else if c = '\\' then
      match cs with
      | [] => none
      | d :: ds => (scanSlashed q ds).map (push (afterBackslash d))
    else (scanSlashed q cs).map (push c)

theorem scanSlashed_suffix {q : Char} {cs text rest : List Char}
    (h : scanSlashed q cs = some (text, rest)) : rest <:+ cs := by
  fun_induction scanSlashed q cs generalizing text with
  | case1 => simp at h
  | case2 => simp_all
  | case3 ds ih =>
    obtain ⟨s, hs⟩ := exists_of_map_push h
    exact (ih hs).trans ((List.suffix_cons _ _).trans (List.suffix_cons _ _))
  | case4 d ds hd =>
    obtain ⟨rfl, rfl⟩ : [] = text ∧ d :: ds = rest := by simpa using h
    exact List.suffix_cons _ _
  | case5 => simp at h
  | case6 d ds hq ih =>
    obtain ⟨s, hs⟩ := exists_of_map_push h
    exact (ih hs).trans ((List.suffix_cons _ _).trans (List.suffix_cons _ _))
  | case7 c cs hc hb ih =>
    obtain ⟨s, hs⟩ := exists_of_map_push h
    exact (ih hs).trans (List.suffix_cons _ _)

end Sql
end Tabular
