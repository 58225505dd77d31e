/-
# Lower case and ASCII capitals

`lower` is the full Unicode lowercase mapping: it works character by character, but for two
rules.  A dotted capital I becomes an `i` and a combining dot; and a capital sigma becomes a
final sigma where a word ends, that is, after a cased character and not before one, when
characters that case ignores are skipped.

`asciiCapitals?` is the full uppercase mapping of a word as far as keywords need it: it is
defined on the words whose uppercase form consists of ASCII capitals.  Besides ASCII letters
these may hold a dotless i, a long s, a sharp s and the Latin ligatures.
-/
import Tabular.Text.CaseTable

namespace Tabular
namespace Text

/-! ## 1. Lower case -/

/-- The lowercase code point of a code point, by the table. -/
def shiftLower (n : Nat) : List (Nat × Nat × Nat × Int) → Nat
  | [] => n
  | (low, high, step, shift) :: rest =>
    if n < low then n
    else if n ≤ high then (if (n - low) % step = 0 then (n + shift).toNat else n)
    else shiftLower n rest

/-- The lowercase form of a character out of context. -/
def lowerChar (c : Char) : List Char :=
  if c.toNat < 128 then [c.toLower]
  else if c = 'İ' then ['i', '\u0307']
  else [Char.ofNat (shiftLower c.toNat lowercaseShifts)]

/-- Is the nearest character that case does not ignore a cased one? -/
def startsCased : List Char → Bool
  | [] => false
  | c :: cs =>
    if inRanges c.toNat caseIgnorableRanges then startsCased cs
    else inRanges c.toNat casedRanges

/-- The lowercase form of `cs` where `before` stands in front of it, nearest first. -/
def lowerAfter (before : List Char) : List Char → List Char
  | [] => []
  | c :: cs =>
    (if c = 'Σ' then (if startsCased before && !startsCased cs then ['ς'] else ['σ'])
      else lowerChar c) ++ lowerAfter (c :: before) cs

/-- The lowercase form of a text. -/
def lower (s : String) : String := String.ofList (lowerAfter [] s.toList)

/-! ## 2. ASCII capitals -/

/-- The uppercase form of a character, if it consists of ASCII capitals. -/
def capitals? (c : Char) : Option (List Char) :=
  if c.isAlpha then some [c.toUpper]
  else match c with
    | 'ı' => some ['I']
    | 'ſ' => some ['S']
    | 'ß' => some ['S', 'S']
    | 'ﬀ' => some ['F', 'F']
    | 'ﬁ' => some ['F', 'I']
    | 'ﬂ' => some ['F', 'L']
    | 'ﬃ' => some ['F', 'F', 'I']
    | 'ﬄ' => some ['F', 'F', 'L']
    | 'ﬅ' => some ['S', 'T']
    | 'ﬆ' => some ['S', 'T']
    | _ => none

/-- The uppercase form of a word, if it consists of ASCII capitals. -/
def asciiCapitals? (s : String) : Option String :=
  (s.toList.mapM capitals?).map fun parts => String.ofList parts.flatten

end Text
end Tabular
