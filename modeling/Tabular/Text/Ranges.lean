/-
# Character classes as ranges

A class of characters is a list of ranges of code points in ascending order, each with both its
ends.  `inRanges` stops at the first range that starts past the code point.
-/
namespace Tabular
namespace Text

/-- A class of characters: ascending ranges of code points. -/
abbrev Ranges := List (Nat × Nat)

/-- Does a code point lie in one of the ranges? -/
def inRanges (n : Nat) : Ranges → Bool
  | [] => false
  | (low, high) :: rest => if n < low then false else n ≤ high || inRanges n rest

end Text
end Tabular
