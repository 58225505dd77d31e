/-
# Words, numbers and operators

The scanners for tokens that have no closing mark: each takes the longest token of its kind.
They never fail, and leave an end of the text behind the first character.
-/
import Tabular.Sql.Escaped
import Tabular.Sql.Token
import Tabular.Text.Letters

namespace Tabular
namespace Sql

/-! ## 1. Words -/

/-- A character that starts a word. -/
def isWordStart (c : Char) : Bool := Text.isAlphabetic c || c = '_' || c = '#' || c = '@'

/-- A character that continues a word. -/
def isWordPart (c : Char) : Bool :=
  Text.isAlphabetic c || c.isDigit || c = '@' || c = '$' || c = '#' || c = '_'

/-- The word that starts with `lead`. -/
def scanWord (lead cs : List Char) : Token × List Char :=
  (.word (String.ofList (lead ++ cs.takeWhile isWordPart)) none, cs.dropWhile isWordPart)

/-- What a sign that may start a word stands for: before a space or the end it is a symbol, and
otherwise it makes a word with the next character, whichever that is. -/
def scanSigil (lead : List Char) : List Char → Token × List Char
  | [] => (.symbol (.other (String.ofList lead)), [])
  | c :: cs =>
    if c = ' ' then (.symbol (.other (String.ofList lead)), c :: cs)
    else scanWord (lead ++ [c]) cs

theorem scanWord_suffix (lead cs : List Char) : (scanWord lead cs).2 <:+ cs :=
  List.dropWhile_suffix _

theorem scanSigil_suffix (lead cs : List Char) : (scanSigil lead cs).2 <:+ cs := by
  cases cs with
  | nil => exact List.suffix_rfl
  | cons c cs =>
    simp only [scanSigil]
    split
    · exact List.suffix_rfl
    · exact (scanWord_suffix _ _).trans (List.suffix_cons _ _)

/-! ## 2. Numbers -/

/-- The digits of a number that starts with `c`, a digit or a point: one point at most. -/
def scanMantissa (c : Char) (cs : List Char) : Scanned :=
  if c = '.' then (c :: cs.takeWhile Char.isDigit, cs.dropWhile Char.isDigit)
  else
    match cs.dropWhile Char.isDigit with
    | [] => (c :: cs.takeWhile Char.isDigit, [])
    | d :: r =>
      if d = '.' then
        (c :: cs.takeWhile Char.isDigit ++ d :: r.takeWhile Char.isDigit,
          r.dropWhile Char.isDigit)
      else (c :: cs.takeWhile Char.isDigit, d :: r)

/-- A sign, if one is there. -/
def spanSign : List Char → Scanned
  | [] => ([], [])
  | c :: cs => if c = '+' ∨ c = '-' then ([c], cs) else ([], c :: cs)

/-- An exponent, if a whole one is there: `e`, a sign or none, and digits. -/
def scanExponent : List Char → Scanned
  | [] => ([], [])
  | e :: cs =>
    let (sign, digits) := spanSign cs
    if (e = 'e' ∨ e = 'E') ∧ digits.takeWhile Char.isDigit ≠ [] then
      (e :: sign ++ digits.takeWhile Char.isDigit, digits.dropWhile Char.isDigit)
    else ([], e :: cs)

/-- A number, a period, or a hexadecimal literal, which prints in its quoted form. -/
def scanNumber (c : Char) (cs : List Char) : Token × List Char :=
  if c = '0' ∧ cs.head? = some 'x' then
    (.literal ("X'" ++ String.ofList (cs.tail.takeWhile (isDigitOf 16)) ++ "'"),
      cs.tail.dropWhile (isDigitOf 16))
  else
    let (mantissa, behind) := scanMantissa c cs
    if mantissa = ['.'] then (.symbol .period, behind)
    else
      let (exponent, rest) := scanExponent behind
      let long := rest.head? = some 'L'
      (.number (String.ofList (mantissa ++ exponent)) long, if long then rest.tail else rest)

theorem scanMantissa_suffix (c : Char) (cs : List Char) : (scanMantissa c cs).2 <:+ cs := by
  have hd : cs.dropWhile Char.isDigit <:+ cs := List.dropWhile_suffix _
  unfold scanMantissa
  split
  · exact hd
  · split
    · exact List.nil_suffix
    · rename_i d r hr
      rw [hr] at hd
      split
      · exact (List.dropWhile_suffix _).trans ((List.suffix_cons d r).trans hd)
      · exact hd

theorem spanSign_suffix (cs : List Char) : (spanSign cs).2 <:+ cs := by
  cases cs with
  | nil => exact List.suffix_rfl
  | cons c cs =>
    simp only [spanSign]
    split
    · exact List.suffix_cons _ _
    · exact List.suffix_rfl

theorem scanExponent_suffix (cs : List Char) : (scanExponent cs).2 <:+ cs := by
  cases cs with
  | nil => exact List.suffix_rfl
  | cons e cs =>
    simp only [scanExponent]
    split
    · exact (List.dropWhile_suffix _).trans ((spanSign_suffix _).trans (List.suffix_cons _ _))
    · exact List.suffix_rfl

theorem scanNumber_suffix (c : Char) (cs : List Char) : (scanNumber c cs).2 <:+ cs := by
  have hm := scanMantissa_suffix c cs
  have he := scanExponent_suffix (scanMantissa c cs).2
  simp only [scanNumber]
  split
  · exact (List.dropWhile_suffix _).trans (List.tail_suffix _)
  · split
    · exact hm
    · dsimp only
      split
      · exact ((List.tail_suffix _).trans he).trans hm
      · exact he.trans hm

/-! ## 3. Operators -/

/-- The operators by their first character and what follows it; of two that both fit, the
longer one stands first. -/
def operators : List (Char × String × Symbol) :=
  [('<', "=>", .spaceship), ('<', "=", .atMost), ('<', ">", .notEqual), ('<', "<", .other "<<"),
   ('<', "@", .other "<@"), ('<', "", .less),
   ('>', "=", .atLeast), ('>', ">", .other ">>"), ('>', "", .greater),
   ('=', "=", .doubleEqual), ('=', ">", .other "=>"), ('=', "", .equal),
   ('!', "=", .notEqual), ('!', "!", .other "!!"), ('!', "~~*", .other "!~~*"),
   ('!', "~~", .other "!~~"), ('!', "~*", .other "!~*"), ('!', "~", .other "!~"), ('!', "", .bang),
   ('~', "~*", .other "~~*"), ('~', "~", .other "~~"), ('~', "*", .other "~*"), ('~', "", .tilde),
   ('-', ">>", .other "->>"), ('-', ">", .other "->"), ('-', "", .minus),
   ('|', "|/", .other "||/"), ('|', "|", .other "||"), ('|', "/", .other "|/"),
   ('|', "", .other "|"),
   ('&', "&", .other "&&"), ('&', "", .other "&"),
   ('^', "@", .other "^@"), ('^', "", .other "^"),
   ('/', "/", .other "//"), ('/', "", .other "/"),
   (':', ":", .other "::"), (':', "=", .other ":="), (':', "", .other ":"),
   ('#', "-", .other "#-"), ('#', ">>", .other "#>>"), ('#', ">", .other "#>"),
   ('@', ">", .other "@>"), ('@', "?", .other "@?"),
   ('(', "", .leftParen), (')', "", .rightParen), (',', "", .comma), (';', "", .semicolon),
   ('*', "", .star)]

/-- The operator that a text starts with. -/
def scanOperator (c : Char) (cs : List Char) : Option (Token × List Char) :=
  (operators.find? fun o => o.1 = c && o.2.1.toList.isPrefixOf cs).map fun o =>
    (.symbol o.2.2, cs.drop o.2.1.length)

theorem scanOperator_suffix {c : Char} {cs rest : List Char} {t : Token}
    (h : scanOperator c cs = some (t, rest)) : rest <:+ cs := by
  obtain ⟨o, _, he⟩ := Option.map_eq_some_iff.mp h
  obtain ⟨_, rfl⟩ : _ ∧ cs.drop o.2.1.length = rest := by simpa using he
  exact List.drop_suffix _ _

end Sql
end Tabular
