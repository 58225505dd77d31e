/-
# Blanks and trimming

A blank is a character with the Unicode property `White_Space`; there are 25 of them.  `trim`
drops the blanks at both ends of a text, `isBlankText` holds of a text of blanks only, and
`unquote` removes one pair of equal quotes around a text.
-/
import Tabular.Text.Ranges

namespace Tabular
namespace Text

/-- Code points with the property `White_Space`. -/
def blankRanges : Ranges :=
  [(0x9, 0xD), (0x20, 0x20), (0x85, 0x85), (0xA0, 0xA0), (0x1680, 0x1680), (0x2000, 0x200A),
   (0x2028, 0x2029), (0x202F, 0x202F), (0x205F, 0x205F), (0x3000, 0x3000)]

/-- A character that trimming drops. -/
def isBlank (c : Char) : Bool := inRanges c.toNat blankRanges

/-! ## 1. Trimming -/

/-- Drops the blanks in front. -/
def trimStart (cs : List Char) : List Char := cs.dropWhile isBlank

/-- Drops the blanks at the end. -/
def trimEnd (cs : List Char) : List Char := (cs.reverse.dropWhile isBlank).reverse

/-- Drops the blanks at both ends. -/
def trim (cs : List Char) : List Char := trimEnd (trimStart cs)

/-- A text of blanks only, such as the empty one. -/
def isBlankText (cs : List Char) : Bool := cs.all isBlank

/-! ## 2. Quotes -/

/-- The two quotes that may surround a text: the single and the double one. -/
def isQuote (c : Char) : Bool := c = '\x27' || c = '\x22'

/-- Removes a quote in front and the same quote at the end, once; a lone quote stays. -/
def unquote : List Char → List Char
  | [] => []
  | q :: rest => if isQuote q ∧ rest.getLast? = some q then rest.dropLast else q :: rest

/-- Inside the quotes nothing is changed. -/
theorem unquote_quoted {q : Char} (hq : isQuote q) (cs : List Char) :
    unquote (q :: (cs ++ [q])) = cs := by
  simp [unquote, hq]

end Text
end Tabular
