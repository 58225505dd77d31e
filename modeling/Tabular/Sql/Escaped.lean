/-
# Escapes that name characters

Two literal forms name characters by number.  In an escape string (`e'..'`) a backslash starts
a control character, a code point of four or eight hexadecimal digits, or a byte of up to two
hexadecimal or three octal digits; a number that names no character, or names the null
character, makes the whole literal unreadable.  In a Unicode string (`u&'..'`) a backslash starts
a code point of four digits, or of six after a plus sign, and every fault has its own place.

Both scanners return a proper end of their input.
-/
import Tabular.Sql.Quoted

namespace Tabular
namespace Sql

/-! ## 1. Numbers of characters -/

/-- The value of a digit in a radix up to sixteen. -/
def digitValue? (radix : Nat) (c : Char) : Option Nat :=
  let value :=
    if c.isDigit then some (c.toNat - '0'.toNat)
    else if 'a' ≤ c ∧ c ≤ 'f' then some (c.toNat - 'a'.toNat + 10)
    else if 'A' ≤ c ∧ c ≤ 'F' then some (c.toNat - 'A'.toNat + 10)
    else none
  value.filter (· < radix)

/-- Is this a digit of the radix? -/
def isDigitOf (radix : Nat) (c : Char) : Bool := (digitValue? radix c).isSome

/-- The number that a list of digits writes. -/
def readDigits? (radix : Nat) (cs : List Char) : Option Nat :=
  cs.foldlM (fun n c => (digitValue? radix c).map (radix * n + ·)) 0

/-- The number that digits write, with a plus sign before them or not. -/
def readUnsigned? (radix : Nat) (cs : List Char) : Option Nat :=
  let digits := if cs.head? = some '+' then cs.tail else cs
  if digits = [] then none else readDigits? radix digits

/-- The character of a code point, if it has one. -/
def charOfCode? (n : Nat) : Option Char := if n.isValidChar then some (Char.ofNat n) else none

/-- The character of a byte that digits write: the number is cut to eight bits, and only ASCII
is a character. -/
def charOfByte? (radix : Nat) (digits : List Char) : Option Char :=
  match readDigits? radix digits with
  | some n => if n % 256 ≤ 127 then some (Char.ofNat (n % 256)) else none
  | none => none

/-! ## 2. Escape strings -/

/-- A code point of exactly `count` digits. -/
def scanCode (count : Nat) (cs : List Char) : Option (Char × List Char) :=
  if cs.length < count then none
  else ((readUnsigned? 16 (cs.take count)).bind charOfCode?).map (·, cs.drop count)

/-- The digits of a byte at the start of a text, `count` at most, and the rest. -/
def spanDigits (radix : Nat) : Nat → List Char → Scanned
  | count + 1, c :: cs =>
    if isDigitOf radix c then push c (spanDigits radix count cs) else ([], c :: cs)
  | _, cs => ([], cs)

/-- The character that an escape names, by what follows the backslash. -/
def scanEscape : List Char → Option (Char × List Char)
  | [] => none
  | c :: cs =>
    if c = 'u' then scanCode 4 cs
    else if c = 'U' then scanCode 8 cs
    else if c = 'x' then
      let (digits, rest) := spanDigits 16 2 cs
      if digits = [] then some ('x', rest) else (charOfByte? 16 digits).map (·, rest)
    else if isDigitOf 8 c then
      let (digits, rest) := spanDigits 8 2 cs
      (charOfByte? 8 (c :: digits)).map (·, rest)
    else if c = 'b' then some ('\x08', cs)
    else if c = 'f' then some ('\x0c', cs)
    else if c = 'n' then some ('\n', cs)
    else if c = 'r' then some ('\r', cs)
    else if c = 't' then some ('\t', cs)
    else some (c, cs)

theorem spanDigits_suffix (radix count : Nat) (cs : List Char) :
    (spanDigits radix count cs).2 <:+ cs := by
  fun_induction spanDigits radix count cs with
  | case1 count c cs h ih => exact ih.trans (List.suffix_cons _ _)
  | case2 => exact List.suffix_rfl
  | case3 => exact List.suffix_rfl

theorem scanCode_suffix {count : Nat} {cs rest : List Char} {c : Char}
    (h : scanCode count cs = some (c, rest)) : rest <:+ cs := by
  unfold scanCode at h
  split at h
  · simp at h
  · obtain ⟨d, _, he⟩ := Option.map_eq_some_iff.mp h
    obtain ⟨_, rfl⟩ : d = c ∧ cs.drop count = rest := by simpa using he
    exact List.drop_suffix _ _

/-- An escape takes at least the character after the backslash. -/
theorem scanEscape_suffix {d : Char} {cs rest : List Char} {c : Char}
    (h : scanEscape (d :: cs) = some (c, rest)) : rest <:+ cs := by
  have hx := spanDigits_suffix 16 2 cs
  have ho := spanDigits_suffix 8 2 cs
  have hrefl : cs <:+ cs := List.suffix_rfl
  unfold scanEscape at h
  dsimp only at h
  split at h
  · exact scanCode_suffix h
  split at h
  · exact scanCode_suffix h
  split at h
  · split at h
    · simp_all
    · obtain ⟨e, _, he⟩ := Option.map_eq_some_iff.mp h
      simp_all
  split at h
  · obtain ⟨e, _, he⟩ := Option.map_eq_some_iff.mp h
    simp_all
  repeat' split at h
  all_goals simp_all

theorem length_lt_of_scanEscape {cs rest : List Char} {c : Char}
    (h : scanEscape cs = some (c, rest)) : rest.length < cs.length := by
  cases cs with
  | nil => simp [scanEscape] at h
  | cons d cs => exact Nat.lt_succ_of_le (scanEscape_suffix h).length_le

/-- The text of an escape string up to the closing quote.  A doubled quote is one quote. -/
def scanEscaped : List Char → Option Scanned
  | [] => none
  | c :: cs =>
    if c = '\x27' then
      match cs with
      | [] => some ([], [])
      | d :: ds => if d = '\x27' then (scanEscaped ds).map (push d) else some ([], d :: ds)
    else if c = '\\' then
      match h : scanEscape cs with
      | none => none
      | some (d, rest) =>
        have := length_lt_of_scanEscape h
        if d = '\x00' then none else (scanEscaped rest).map (push d)
    else (scanEscaped cs).map (push c)
termination_by cs => cs.length

theorem scanEscaped_suffix {cs text rest : List Char}
    (h : scanEscaped cs = some (text, rest)) : rest <:+ cs := by
  fun_induction scanEscaped cs generalizing text with
  | case1 => simp at h
  | case2 => simp_all
  | case3 ds ih =>
    obtain ⟨s, hs⟩ := exists_of_map_push h
    exact (ih hs).trans ((List.suffix_cons _ _).trans (List.suffix_cons _ _))
  | case4 d ds hd =>
    obtain ⟨rfl, rfl⟩ : [] = text ∧ d :: ds = rest := by simpa using h
    exact List.suffix_cons _ _
  | case5 => simp at h
  | case6 => simp at h
  | case7 cs d r hr hlt hd hq ih =>
    obtain ⟨s, hs⟩ := exists_of_map_push h
    have hcs : r <:+ cs := by
      cases cs with
      | nil => simp [scanEscape] at hr
      | cons e es => exact (scanEscape_suffix hr).trans (List.suffix_cons _ _)
    exact ((ih hs).trans hcs).trans (List.suffix_cons _ _)
  | case8 c cs hq hb ih =>
    obtain ⟨s, hs⟩ := exists_of_map_push h
    exact (ih hs).trans (List.suffix_cons _ _)

/-! ## 3. Unicode strings -/

/-- What can be wrong with a Unicode string. -/
inductive UnicodeFault where
  /-- The closing quote is missing. -/
  | unterminated
  /-- The text ends inside an escape. -/
  | endInEscape
  /-- A character inside an escape is no hexadecimal digit. -/
  | badDigit (c : Char)
  /-- An escape names no character. -/
  | noCharacter (code : Nat)
  deriving DecidableEq, Repr

/-- The number that the next `count` digits write, continuing from `n`; a fault comes with the
text behind it. -/
def scanHex : Nat → Nat → List Char → Except (UnicodeFault × List Char) (Nat × List Char)
  | 0, n, cs => .ok (n, cs)
  | _ + 1, _, [] => .error (.endInEscape, [])
  | count + 1, n, c :: cs =>
    match digitValue? 16 c with
    | some d => scanHex count (16 * n + d) cs
    | none => .error (.badDigit c, cs)

/-- The character that the next `count` digits name. -/
def scanHexChar (count : Nat) (cs : List Char) :
    Except (UnicodeFault × List Char) (Char × List Char) :=
  match scanHex count 0 cs with
  | .error e => .error e
  | .ok (n, rest) =>
    match charOfCode? n with
    | some c => .ok (c, rest)
    | none => .error (.noCharacter n, rest)

/-- The character that an escape names, by what follows the backslash. -/
def scanUnicodeEscape : List Char → Except (UnicodeFault × List Char) (Char × List Char)
  | [] => .error (.endInEscape, [])
  | c :: cs =>
    if c = '\\' then .ok ('\\', cs)
    else if c = '+' then scanHexChar 6 cs
    else scanHexChar 4 (c :: cs)

theorem scanHex_suffix {count n m : Nat} {cs rest : List Char}
    (h : scanHex count n cs = .ok (m, rest)) : rest <:+ cs := by
  fun_induction scanHex count n cs with
  | case1 => obtain ⟨_, rfl⟩ := (by simpa using h); exact List.suffix_rfl
  | case2 => simp at h
  | case3 count n c cs d hd ih => exact (ih h).trans (List.suffix_cons _ _)
  | case4 => simp at h

theorem scanHexChar_suffix {count : Nat} {cs rest : List Char} {c : Char}
    (h : scanHexChar count cs = .ok (c, rest)) : rest <:+ cs := by
  unfold scanHexChar at h
  split at h
  · simp at h
  · rename_i n r hr
    split at h
    · obtain ⟨_, rfl⟩ := (by simpa using h); exact scanHex_suffix hr
    · simp at h

theorem scanUnicodeEscape_suffix {cs rest : List Char} {c : Char}
    (h : scanUnicodeEscape cs = .ok (c, rest)) : rest <:+ cs := by
  cases cs with
  | nil => simp [scanUnicodeEscape] at h
  | cons d cs =>
    simp only [scanUnicodeEscape] at h
    split at h
    · obtain ⟨_, rfl⟩ := (by simpa using h); exact List.suffix_cons _ _
    split at h
    · exact (scanHexChar_suffix h).trans (List.suffix_cons _ _)
    · exact scanHexChar_suffix h

/-- The text of a Unicode string up to the closing quote.  A doubled quote is one quote. -/
def scanUnicode (cs : List Char) : Except (UnicodeFault × List Char) Scanned :=
  match cs with
  | [] => .error (.unterminated, [])
  | c :: cs =>
    if c = '\x27' then
      match cs with
      | [] => .ok ([], [])
      | d :: ds => if d = '\x27' then (scanUnicode ds).map (push d) else .ok ([], d :: ds)
    else if c = '\\' then
      match h : scanUnicodeEscape cs with
      | .error e => .error e
      | .ok (d, rest) =>
        have := (scanUnicodeEscape_suffix h).length_le
        (scanUnicode rest).map (push d)
    else (scanUnicode cs).map (push c)
termination_by cs.length

theorem exists_of_map_push_ok {ε : Type} {c : Char} {o : Except ε Scanned}
    {text rest : List Char} (h : o.map (push c) = .ok (text, rest)) :
    ∃ s, o = .ok (s, rest) := by
  cases o with
  | error e => simp [Except.map] at h
  | ok s =>
    obtain ⟨s, r⟩ := s
    obtain ⟨_, rfl⟩ : c :: s = text ∧ r = rest := by simpa [Except.map, push] using h
    exact ⟨s, rfl⟩

theorem scanUnicode_suffix {cs text rest : List Char}
    (h : scanUnicode cs = .ok (text, rest)) : rest <:+ cs := by
  fun_induction scanUnicode cs generalizing text with
  | case1 => simp at h
  | case2 => simp_all
  | case3 ds ih =>
    obtain ⟨s, hs⟩ := exists_of_map_push_ok h
    exact (ih hs).trans ((List.suffix_cons _ _).trans (List.suffix_cons _ _))
  | case4 d ds hd =>
    obtain ⟨rfl, rfl⟩ : [] = text ∧ d :: ds = rest := by simpa using h
    exact List.suffix_cons _ _
  | case5 => simp at h
  | case6 cs d r hr hlt hq ih =>
    obtain ⟨s, hs⟩ := exists_of_map_push_ok h
    exact ((ih hs).trans (scanUnicodeEscape_suffix hr)).trans (List.suffix_cons _ _)
  | case7 c cs hq hb ih =>
    obtain ⟨s, hs⟩ := exists_of_map_push_ok h
    exact (ih hs).trans (List.suffix_cons _ _)

end Sql
end Tabular
