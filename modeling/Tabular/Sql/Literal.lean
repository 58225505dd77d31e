/-
# Literals, comments and their faults

The scanners for tokens that end with a closing mark.  Where the mark is missing, or where an
escape cannot be read, the result is a fault together with the text that stands from its place
on; `Position.before` counts lines and columns from it.
-/
import Tabular.Sql.Dollar
import Tabular.Sql.Escaped
import Tabular.Sql.Token
import Tabular.Text.Blank
import Tabular.Text.Letters

namespace Tabular
namespace Sql

/-! ## 1. Faults and places -/

/-- What can be wrong with the tokens of a text. -/
inductive ScanFault where
  /-- A string without closing quote. -/
  | unterminatedString
  /-- An escape string without closing quote, or with an escape that names no character. -/
  | unreadableEscapes
  /-- A fault in a Unicode string. -/
  | unicode (fault : UnicodeFault)
  /-- A quoted word without closing quote. -/
  | openWord (quotedBy : Char)
  /-- A comment that is not closed. -/
  | openComment
  /-- Two dollar signs that are not closed. -/
  | openDollars
  /-- A tag between dollar signs that is not closed. -/
  | openTag
  deriving DecidableEq, Repr

/-- A fault and the text from its place on. -/
structure ScanError where
  fault : ScanFault
  rest : List Char
  deriving DecidableEq, Repr

/-- A token and the text behind it, or a fault. -/
abbrev Scan := Except ScanError (Token × List Char)

/-- A place in a text: both numbers start at one, and only a line feed starts a line. -/
structure Position where
  line : Nat
  column : Nat
  deriving DecidableEq, Repr

/-- The place behind a text. -/
def Position.after (cs : List Char) : Position :=
  cs.foldl (fun p c => if c = '\n' then ⟨p.line + 1, 1⟩ else ⟨p.line, p.column + 1⟩) ⟨1, 1⟩

/-- The place in `whole` where its end `rest` starts. -/
def Position.before (whole rest : List Char) : Position :=
  .after (whole.take (whole.length - rest.length))

/-! ## 2. Literals and comments -/

/-- A scanned text as a token, or a fault. -/
def literalOr (fault : ScanError) (token : String → Token) : Option Scanned → Scan
  | some (text, rest) => .ok (token (String.ofList text), rest)
  | none => .error fault

/-- A text in quotes behind its capital letters. -/
def printQuoted (letters : String) (q : Char) (text : String) : Token :=
  .literal (letters ++ String.ofList (q :: (text.toList ++ [q])))

/-- A raw string, from its opening quote `q` on: two quotes are empty, three open a text that
runs to the next three. -/
def scanRaw (q : Char) (cs : List Char) : Scan :=
  if cs.take 2 = [q, q] then
    literalOr ⟨.unterminatedString, cs.drop 2⟩
      (fun text => .literal (String.ofList (['R', q, q, q] ++ text.toList ++ [q, q, q])))
      (scanTripled q (cs.drop 2))
  else if cs.head? = some q then .ok (printQuoted "R" q "", cs.tail)
  else literalOr ⟨.unterminatedString, cs⟩ (printQuoted "R" q) (scanQuoted q cs)

/-- A Unicode string, behind its opening quote. -/
def scanUnicodeString (cs : List Char) : Scan :=
  match scanUnicode cs with
  | .ok (text, rest) => .ok (printQuoted "U&" '\x27' (String.ofList text), rest)
  | .error (fault, rest) => .error ⟨.unicode fault, rest⟩

/-- A literal that a letter and a quote start, if the text starts so. -/
def scanPrefixed (c : Char) (cs : List Char) : Option Scan :=
  match cs with
  | [] => none
  | q :: ds =>
    let letter := c.toUpper
    if Text.isQuote q ∧ letter = 'B' then
      some (literalOr ⟨.unterminatedString, cs⟩ (printQuoted "B" q) (scanQuoted q ds))
    else if Text.isQuote q ∧ letter = 'R' then some (scanRaw q ds)
    else if q = '\x27' ∧ letter = 'N' then
      some (literalOr ⟨.unterminatedString, cs⟩ (printQuoted "N" q) (scanSlashed q ds))
    else if q = '\x27' ∧ letter = 'X' then
      some (literalOr ⟨.unterminatedString, cs⟩ (printQuoted "X" q) (scanSlashed q ds))
    else if q = '\x27' ∧ letter = 'E' then
      some (literalOr ⟨.unreadableEscapes, c :: cs⟩ (printQuoted "E" q) (scanEscaped ds))
    else if letter = 'U' ∧ q = '&' ∧ ds.head? = some '\x27' then some (scanUnicodeString ds.tail)
    else none

/-- What follows a comment, behind its opening.  Each slash and star adds a level and each star
and slash ends one, where a character may belong to two pairs. -/
def skipComment : Nat → Option Char → List Char → Option (List Char)
  | _, _, [] => none
  | depth, last, c :: cs =>
    if last = some '/' ∧ c = '*' then skipComment (depth + 1) (some c) cs
    else if last = some '*' ∧ c = '/' then
      if depth = 0 then some cs else skipComment (depth - 1) (some c) cs
    else skipComment depth (some c) cs

/-- A placeholder or a string that a dollar sign starts. -/
def scanDollar (cs : List Char) : Scan :=
  if cs.head? = some '$' then
    literalOr ⟨.openDollars, []⟩ (fun text => .literal ("$$" ++ text ++ "$$"))
      (scanDollars cs.tail)
  else
    let isTagPart := fun c => Text.isAlphanumeric c || c = '_'
    let tag := cs.takeWhile isTagPart
    let behind := cs.dropWhile isTagPart
    let opening := "$" ++ String.ofList tag
    if behind.head? = some '$' then
      literalOr ⟨.openTag, []⟩ (fun text => .literal (opening ++ "$" ++ text ++ opening ++ "$"))
        (scanTagged tag behind.tail)
    else .ok (.literal opening, behind)

theorem literalOr_suffix {fault : ScanError} {token : String → Token} {o : Option Scanned}
    {cs rest : List Char} {t : Token} (ho : ∀ s r, o = some (s, r) → r <:+ cs)
    (h : literalOr fault token o = .ok (t, rest)) : rest <:+ cs := by
  cases o with
  | none => simp [literalOr] at h
  | some s =>
    obtain ⟨s, r⟩ := s
    obtain ⟨_, rfl⟩ : _ ∧ r = rest := by simpa [literalOr] using h
    exact ho s r rfl

theorem scanRaw_suffix {q : Char} {cs rest : List Char} {t : Token}
    (h : scanRaw q cs = .ok (t, rest)) : rest <:+ cs := by
  unfold scanRaw at h
  split at h
  · exact literalOr_suffix (fun _ _ e => (scanTripled_suffix e).trans (List.drop_suffix _ _)) h
  split at h
  · obtain ⟨_, rfl⟩ : _ ∧ cs.tail = rest := by simpa using h
    exact List.tail_suffix _
  · exact literalOr_suffix (fun _ _ e => scanQuoted_suffix e) h

theorem scanUnicodeString_suffix {cs rest : List Char} {t : Token}
    (h : scanUnicodeString cs = .ok (t, rest)) : rest <:+ cs := by
  unfold scanUnicodeString at h
  split at h
  · rename_i text r hr
    obtain ⟨_, rfl⟩ : _ ∧ r = rest := by simpa using h
    exact scanUnicode_suffix hr
  · simp at h

theorem scanPrefixed_suffix {c : Char} {cs rest : List Char} {t : Token}
    (h : scanPrefixed c cs = some (.ok (t, rest))) : rest <:+ cs := by
  cases cs with
  | nil => simp [scanPrefixed] at h
  | cons q ds =>
    simp only [scanPrefixed] at h
    refine List.IsSuffix.trans ?_ (List.suffix_cons q ds)
    split at h
    · exact literalOr_suffix (fun _ _ e => scanQuoted_suffix e) (Option.some.inj h)
    split at h
    · exact scanRaw_suffix (Option.some.inj h)
    split at h
    · exact literalOr_suffix (fun _ _ e => scanSlashed_suffix e) (Option.some.inj h)
    split at h
    · exact literalOr_suffix (fun _ _ e => scanSlashed_suffix e) (Option.some.inj h)
    split at h
    · exact literalOr_suffix (fun _ _ e => scanEscaped_suffix e) (Option.some.inj h)
    split at h
    · exact (scanUnicodeString_suffix (Option.some.inj h)).trans (List.tail_suffix _)
    · simp at h

theorem skipComment_suffix {depth : Nat} {last : Option Char} {cs rest : List Char}
    (h : skipComment depth last cs = some rest) : rest <:+ cs := by
  fun_induction skipComment depth last cs with
  | case1 => simp at h
  | case2 depth last c cs _ ih => exact (ih h).trans (List.suffix_cons _ _)
  | case3 => obtain rfl := Option.some.inj h; exact List.suffix_cons _ _
  | case4 depth last c cs _ _ _ ih => exact (ih h).trans (List.suffix_cons _ _)
  | case5 depth last c cs _ _ ih => exact (ih h).trans (List.suffix_cons _ _)

theorem scanDollar_suffix {cs rest : List Char} {t : Token}
    (h : scanDollar cs = .ok (t, rest)) : rest <:+ cs := by
  unfold scanDollar at h
  dsimp only at h
  split at h
  · exact literalOr_suffix (fun _ _ e => (scanDollars_suffix e).trans (List.tail_suffix _)) h
  split at h
  · refine literalOr_suffix (fun _ _ e => ?_) h
    exact ((scanTagged_suffix e).trans (List.tail_suffix _)).trans (List.dropWhile_suffix _)
  · obtain ⟨_, rfl⟩ : _ ∧ _ = rest := by simpa using h
    exact List.dropWhile_suffix _

end Sql
end Tabular
