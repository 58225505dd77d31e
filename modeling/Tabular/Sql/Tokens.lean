/-
# Lists of tokens

Clauses are found in a list of tokens by their keywords and parted by separators, both outside
parentheses only.  What is kept of a clause as text is rendered from its tokens: blanks at the
ends go, and every run of blanks inside becomes one space.

The depth of parentheses never goes below zero, so that a closing one without partner does not
hide what follows it.
-/
import Tabular.Sql.Token
import Tabular.Error

namespace Tabular
namespace Sql

/-! ## 1. Rendering -/

/-- Drops the blanks in front. -/
def skipBlanks (ts : List Token) : List Token := ts.dropWhile Token.isBlank

/-- Drops the blanks at both ends. -/
def trimTokens (ts : List Token) : List Token := (skipBlanks (skipBlanks ts).reverse).reverse

/-- The tokens that are not blank. -/
def significant (ts : List Token) : List Token := ts.filter fun t => !t.isBlank

/-- One blank for every run of blanks. -/
def collapse : List Token → List Token
  | [] => []
  | t :: ts =>
    if t.isBlank ∧ ts.head?.any Token.isBlank then collapse ts else t :: collapse ts

/-- The text of a list of tokens. -/
def render (ts : List Token) : String := String.join ((collapse (trimTokens ts)).map Token.print)

/-! ## 2. Keywords and separators outside parentheses -/

/-- The depth of parentheses behind a token. -/
def depthAfter (depth : Nat) : Token → Nat
  | .symbol .leftParen => depth + 1
  | .symbol .rightParen => depth - 1
  | _ => depth

/-- What follows a sequence of keywords that the tokens start with, blanks before each allowed. -/
def matchKeywords : List Keyword → List Token → Option (List Token)
  | [], ts => some ts
  | k :: ks, ts =>
    match skipBlanks ts with
    | [] => none
    | t :: rest => if t.isKeyword k then matchKeywords ks rest else none

/-- What stands before and behind the first occurrence of a sequence of keywords. -/
def splitAtKeywords (k : Keyword) (ks : List Keyword) :
    Nat → List Token → Option (List Token × List Token)
  | _, [] => none
  | depth, t :: ts =>
    match if depthAfter depth t = 0 ∧ t.isKeyword k then matchKeywords ks ts else none with
    | some rest => some ([], rest)
    | none => (splitAtKeywords k ks (depthAfter depth t) ts).map fun p => (t :: p.1, p.2)

/-- Splits off an optional clause: what stands before its keywords, and its body. -/
def splitClause (k : Keyword) (ks : List Keyword) (ts : List Token) :
    List Token × Option (List Token) :=
  match splitAtKeywords k ks 0 ts with
  | some (before, body) => (before, some body)
  | none => (ts, none)

/-- The parts between separators. -/
def splitTopLevel (isSeparator : Token → Bool) : Nat → List Token → List (List Token)
  | _, [] => [[]]
  | depth, t :: ts =>
    if depth = 0 ∧ isSeparator t then [] :: splitTopLevel isSeparator depth ts
    else
      match splitTopLevel isSeparator (depthAfter depth t) ts with
      | [] => [[t]]
      | part :: parts => (t :: part) :: parts

/-- Is the token a comma? -/
def isComma (t : Token) : Bool := t = .symbol .comma

/-- What stands before the first token of a kind, that token, and what stands behind it. -/
def splitFirst (p : Token → Bool) : List Token → Option (List Token × Token × List Token)
  | [] => none
  | t :: ts => if p t then some ([], t, ts) else (splitFirst p ts).map fun s => (t :: s.1, s.2)

/-- The texts of a list between commas, none of which may be empty. -/
def readList (clause : Clause) (entry : String) (ts : List Token) :
    Except QueryError (List String) :=
  (splitTopLevel isComma 0 ts).mapM fun part =>
    if render part = "" then .error (.malformed clause (.emptyEntry entry)) else .ok (render part)

/-! ## 3. Reading from the front -/

/-- What follows a keyword, if the tokens start with it. -/
def eatKeyword (k : Keyword) (ts : List Token) : Option (List Token) := matchKeywords [k] ts

/-- What follows a keyword that must be there. -/
def expectKeyword (clause : Clause) (k : Keyword) (ts : List Token) :
    Except QueryError (List Token) :=
  match eatKeyword k ts with
  | some rest => .ok rest
  | none => .error (.malformed clause (.missingKeyword k))

/-- A name: any word, in lower case. -/
def readName (clause : Clause) (ts : List Token) : Except QueryError (String × List Token) :=
  match skipBlanks ts with
  | .word text _ :: rest => .ok (Text.lower text, rest)
  | _ => .error (.malformed clause .missingName)

/-- A column, or `table.column` with the point directly behind the table. -/
def readReference (clause : Clause) (ts : List Token) :
    Except QueryError (String × List Token) :=
  match readName clause ts with
  | .error e => .error e
  | .ok (name, .symbol .period :: rest) =>
    match readName clause rest with
    | .error e => .error e
    | .ok (column, rest) => .ok (name ++ "." ++ column, rest)
  | .ok (name, rest) => .ok (name, rest)

/-- What stands before the parenthesis that closes the current one, and behind it. -/
def splitAtClosing : Nat → List Token → Option (List Token × List Token)
  | _, [] => none
  | depth, t :: ts =>
    if depth = 0 ∧ t = .symbol .rightParen then some ([], ts)
    else (splitAtClosing (depthAfter depth t) ts).map fun p => (t :: p.1, p.2)

/-- The tokens between parentheses, and what follows them. -/
def readParenthesized (clause : Clause) (ts : List Token) :
    Except QueryError (List Token × List Token) :=
  match skipBlanks ts with
  | .symbol .leftParen :: rest =>
    match splitAtClosing 0 rest with
    | some parts => .ok parts
    | none => .error (.malformed clause .missingClosing)
  | _ => .error (.malformed clause .missingOpening)

/-- Nothing but blanks may be left. -/
def expectEnd (clause : Clause) (part : String) (ts : List Token) : Except QueryError Unit :=
  if skipBlanks ts = [] then .ok () else .error (.malformed clause (.trailing part (render ts)))

end Sql
end Tabular
