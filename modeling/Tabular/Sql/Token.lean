/-
# Tokens

A statement is read as a list of tokens.  A token is known by its kind and by its printed form:
clauses that are kept as text are put together again from printed tokens, so the printed form is
part of what a statement means.  All blanks and comments are one kind of token.
-/
import Tabular.Sql.Keyword

namespace Tabular

/-- Operators and punctuation.  Those that no clause gives a meaning are kept by their spelling. -/
inductive Symbol where
  | leftParen | rightParen | comma | period | semicolon
  | star | minus
  | equal | doubleEqual | notEqual | less | greater | atMost | atLeast
  | spaceship | tilde | bang
  | other (spelling : String)
  deriving DecidableEq, Repr

namespace Symbol

/-- The printed form.  Both spellings of inequality print as `<>`. -/
def spelling : Symbol → String
  | leftParen => "("
  | rightParen => ")"
  | comma => ","
  | period => "."
  | semicolon => ";"
  | star => "*"
  | minus => "-"
  | equal => "="
  | doubleEqual => "=="
  | notEqual => "<>"
  | less => "<"
  | greater => ">"
  | atMost => "<="
  | atLeast => ">="
  | spaceship => "<=>"
  | tilde => "~"
  | bang => "!"
  | other spelling => spelling

end Symbol

/-- A token of a statement. -/
inductive Token where
  /-- A blank or a comment. -/
  | blank
  /-- A word; one between quotes is never a keyword. -/
  | word (text : String) (quotedBy : Option Char)
  /-- A number as written, and whether an `L` follows it. -/
  | number (digits : String) (long : Bool)
  /-- A string between single quotes, without them. -/
  | string (text : String)
  /-- A literal of another form, as printed. -/
  | literal (printed : String)
  | symbol (s : Symbol)
  deriving DecidableEq, Repr

namespace Token

/-- The printed form.  Inside quotes the text stands unescaped. -/
def print : Token → String
  | blank => " "
  | word text none => text
  | word text (some q) => String.ofList (q :: (text.toList ++ [q]))
  | number digits long => if long then digits ++ "L" else digits
  | string text => "'" ++ text ++ "'"
  | literal printed => printed
  | symbol s => s.spelling

/-- The keyword that a token is, if it is an unquoted word. -/
def keyword? : Token → Option Keyword
  | word text none => Keyword.ofWord? text
  | _ => none

/-- Is the token this keyword? -/
def isKeyword (k : Keyword) (t : Token) : Bool := t.keyword? = some k

/-- Is the token a blank or a comment? -/
def isBlank : Token → Bool
  | blank => true
  | _ => false

end Token

end Tabular
