/-
# The grammar of queries for rows

A `SelectPhrase` is a query for rows as a user may write it: every part that the grammar offers,
every keyword in its own spelling, and every run of blanks by its length.  It has two readings:
`tokens` writes it down, and `query` says what it asks for.

Names are words without quotes that are no keywords of queries for rows, so `insert` may be one;
only tables may be named between quotes.  Blanks may stand before every word and every sign but the
point between a table and its column, also inside the parentheses of a call.  The text of a field
keeps them, each run as one space.
-/
import Tabular.Proofs.Sql.Lexemes
import Tabular.Proofs.Sql.Tokens

namespace Tabular
namespace Sql

/-! ## 1. Words -/

/-- A keyword in any letter case, with the blanks before it. -/
structure Written (k : Keyword) where
  gap : Nat
  text : String
  ofWord : Keyword.ofWord? text = some k

/-- A word that is no keyword of queries for rows. -/
structure Name where
  text : String
  ne_empty : text ≠ ""
  notKeyword : (Keyword.ofWord? text).all (· ∈ changeKeywords) = true

/-- The name of a table: a word that is no keyword of queries for rows, such as any word between
quotes. -/
structure TableName where
  text : String
  quotedBy : Option Char
  notKeyword : (Token.keyword? (.word text quotedBy)).all (· ∈ changeKeywords) = true

/-- The name of an aggregate function, in any letter case. -/
structure FunctionName where
  text : String
  function : AggregateFunction
  ofName : AggregateFunction.ofName? text = some function

/-- A number as its digits. -/
structure Numeral where
  text : String
  ne_empty : text ≠ ""
  digits : text.toList.all Char.isDigit = true

/-- A part with the blanks before it. -/
structure Spaced (α : Type) where
  gap : Nat
  item : α

/-- One part or several, with something between any two of them. -/
structure Listed (σ α : Type) where
  head : α
  tail : List (σ × α)

def Written.token {k : Keyword} (w : Written k) : Token := .word w.text none

def Written.tokens {k : Keyword} (w : Written k) : List Token := blanks w.gap ++ [w.token]

def Name.token (n : Name) : Token := .word n.text none

def Name.name (n : Name) : String := Text.lower n.text

def TableName.token (n : TableName) : Token := .word n.text n.quotedBy

def TableName.name (n : TableName) : String := Text.lower n.text

/-- An identifier as a name in a query. -/
def Identifier.name (i : Identifier) : Name where
  text := i.text
  ne_empty := by
    intro h
    have hbare := i.bare
    rw [h] at hbare
    exact absurd hbare (by decide)
  notKeyword := by rw [i.notKeyword]; rfl

/-- A keyword in capitals, behind blanks. -/
def capitals (k : Keyword) (n : Nat) : Written k := ⟨n, k.spelling, by cases k <;> decide⟩

def Numeral.token (n : Numeral) : Token := .number n.text false

def Numeral.value (n : Numeral) : Nat := Nat.ofDigitChars 10 n.text.toList 0

def Spaced.tokens {α : Type} (f : α → List Token) (s : Spaced α) : List Token :=
  blanks s.gap ++ f s.item

namespace Listed

variable {σ α : Type}

/-- The parts. -/
def items (l : Listed σ α) : List α := l.head :: l.tail.map Prod.snd

/-- The parts with what stands between them: blanks and one more token. -/
def tokens (gap : σ → Nat) (mark : σ → Token) (f : α → List Token) (l : Listed σ α) :
    List Token :=
  f l.head ++ l.tail.flatMap fun p => blanks (gap p.1) ++ mark p.1 :: f p.2

/-- The parts with commas between them, each with the blanks before it. -/
def commaTokens (f : α → List Token) (l : Listed Nat α) : List Token :=
  l.tokens id (fun _ => .symbol .comma) f

end Listed

/-! ## 2. Fields -/

/-- A column, or a table and a column. -/
structure Reference where
  table : Option Name
  column : Name

namespace Reference

def tokens (r : Reference) : List Token :=
  match r.table with
  | none => [r.column.token]
  | some t => [t.token, .symbol .period, r.column.token]

def text (r : Reference) : String :=
  match r.table with
  | none => r.column.text
  | some t => t.text ++ "." ++ r.column.text

/-- Both names in lower case. -/
def name (r : Reference) : String :=
  match r.table with
  | none => r.column.name
  | some t => t.name ++ "." ++ r.column.name

end Reference

/-- What an aggregate function can be applied to. -/
inductive ArgumentPhrase where
  | star (gap : Nat)
  | column (r : Spaced Reference)
  | distinct (w : Written .DISTINCT) (r : Spaced Reference)

namespace ArgumentPhrase

def tokens : ArgumentPhrase → List Token
  | star gap => blanks gap ++ [.symbol .star]
  | column r => r.tokens Reference.tokens
  | distinct w r => w.tokens ++ r.tokens Reference.tokens

def text : ArgumentPhrase → String
  | star gap => gapText gap ++ "*"
  | column r => gapText r.gap ++ r.item.text
  | distinct w r => gapText w.gap ++ (w.text ++ (gapText r.gap ++ r.item.text))

def argument : ArgumentPhrase → AggregateArgument
  | star _ => .star
  | column r => .column (Text.lower r.item.text)
  | distinct _ r => .column (Text.lower r.item.text)

def isDistinct : ArgumentPhrase → Bool
  | distinct _ _ => true
  | _ => false

end ArgumentPhrase

/-- A call of an aggregate function. -/
structure CallPhrase where
  function : FunctionName
  openGap : Nat
  argument : ArgumentPhrase
  closeGap : Nat

namespace CallPhrase

def tokens (c : CallPhrase) : List Token :=
  .word c.function.text none :: (blanks c.openGap ++ .symbol .leftParen ::
    (c.argument.tokens ++ (blanks c.closeGap ++ [.symbol .rightParen])))

def text (c : CallPhrase) : String :=
  c.function.text ++ (gapText c.openGap ++ ("(" ++ (c.argument.text ++ (gapText c.closeGap ++ ")"))))

def call (c : CallPhrase) : AggregateCall :=
  ⟨c.function.function, c.argument.argument, c.argument.isDistinct⟩

end CallPhrase

/-- A field: a column, all columns, or a call. -/
inductive FieldPhrase where
  | reference (r : Reference)
  | star
  | call (c : CallPhrase)

namespace FieldPhrase

def tokens : FieldPhrase → List Token
  | reference r => r.tokens
  | star => [.symbol .star]
  | call c => c.tokens

def text : FieldPhrase → String
  | reference r => r.text
  | star => "*"
  | call c => c.text

/-- The text in lower case names the field. -/
def name (f : FieldPhrase) : String := Text.lower f.text

def aggregate : FieldPhrase → Option AggregateCall
  | call c => some c.call
  | _ => none

def field (f : FieldPhrase) : Field := ⟨f.name, f.aggregate⟩

/-- The column that is counted without repetitions. -/
def distinctColumn? : FieldPhrase → Option String
  | call ⟨_, _, .distinct _ r, _⟩ => some (Text.lower r.item.text)
  | _ => none

end FieldPhrase

/-! ## 3. Conditions -/

/-- A comparison as it is written. -/
inductive OperatorPhrase where
  | equal (doubled : Bool)
  | notEqual | greater | less | atLeast | atMost
  | like (text : String) (h : Keyword.ofWord? text = some .LIKE)

namespace OperatorPhrase

def token : OperatorPhrase → Token
  | equal doubled => .symbol (if doubled then .doubleEqual else .equal)
  | notEqual => .symbol .notEqual
  | greater => .symbol .greater
  | less => .symbol .less
  | atLeast => .symbol .atLeast
  | atMost => .symbol .atMost
  | like text _ => .word text none

def comparison : OperatorPhrase → Comparison
  | equal _ => .equal
  | notEqual => .notEqual
  | greater => .greater
  | less => .less
  | atLeast => .atLeast
  | atMost => .atMost
  | like _ _ => .like

end OperatorPhrase

/-- A string between single quotes, or a number. -/
inductive LiteralPhrase where
  | string (text : String)
  | number (n : Numeral)

namespace LiteralPhrase

def token : LiteralPhrase → Token
  | string text => .string text
  | number n => n.token

/-- The literal as printed. -/
def text : LiteralPhrase → String
  | string text => "'" ++ text ++ "'"
  | number n => n.text

/-- The literal without quotes. -/
def bare : LiteralPhrase → String
  | string text => text
  | number n => n.text

end LiteralPhrase

/-- A field, a comparison and a literal. -/
structure ConditionPhrase where
  field : Spaced Reference
  operator : Spaced OperatorPhrase
  literal : Spaced LiteralPhrase

namespace ConditionPhrase

def tokens (c : ConditionPhrase) : List Token :=
  c.field.tokens Reference.tokens ++ (blanks c.operator.gap ++ c.operator.item.token ::
    (blanks c.literal.gap ++ [c.literal.item.token]))

/-- A pattern is taken without its quotes. -/
def condition (c : ConditionPhrase) : Condition :=
  ⟨Text.lower c.field.item.text, c.operator.item.comparison,
    if c.operator.item.comparison = .like then c.literal.item.bare else c.literal.item.text⟩

end ConditionPhrase

/-- What parts two conditions. -/
inductive Connective where
  | and (w : Written .AND)
  | or (w : Written .OR)

def Connective.gap : Connective → Nat
  | and w => w.gap
  | or w => w.gap

def Connective.token : Connective → Token
  | and w => w.token
  | or w => w.token

/-! ## 4. Sort keys and joins -/

/-- The direction of a sort key. -/
inductive DirectionPhrase where
  | ascending (w : Written .ASC)
  | descending (w : Written .DESC)

def DirectionPhrase.tokens : DirectionPhrase → List Token
  | ascending w => w.tokens
  | descending w => w.tokens

def DirectionPhrase.direction : DirectionPhrase → Direction
  | ascending _ => .ascending
  | descending _ => .descending

/-- A sort key, with a direction or without. -/
structure SortPhrase where
  field : Spaced FieldPhrase
  direction : Option DirectionPhrase

def SortPhrase.tokens (s : SortPhrase) : List Token :=
  s.field.tokens FieldPhrase.tokens ++ s.direction.elim [] DirectionPhrase.tokens

def SortPhrase.key (s : SortPhrase) : SortKey :=
  ⟨s.field.item.name, s.direction.elim .ascending DirectionPhrase.direction⟩

/-- What stands before `JOIN`. -/
inductive JoinOpening where
  | plain
  | inner (w : Written .INNER)
  | left (w : Written .LEFT) (outer : Option (Written .OUTER))
  | right (w : Written .RIGHT) (outer : Option (Written .OUTER))

namespace JoinOpening

def tokens : JoinOpening → List Token
  | plain => []
  | inner w => w.tokens
  | left w outer => w.tokens ++ outer.elim [] Written.tokens
  | right w outer => w.tokens ++ outer.elim [] Written.tokens

def kind : JoinOpening → JoinKind
  | plain => .inner
  | inner _ => .inner
  | left _ _ => .left
  | right _ _ => .right

end JoinOpening

/-- A join on the equality of two columns. -/
structure JoinPhrase where
  opening : JoinOpening
  join : Written .JOIN
  table : Spaced TableName
  on : Written .ON
  left : Spaced Reference
  gap : Nat
  doubled : Bool
  right : Spaced Reference

namespace JoinPhrase

/-- The equality sign, with one stroke or two. -/
def sign (j : JoinPhrase) : Token := .symbol (if j.doubled then .doubleEqual else .equal)

def tokens (j : JoinPhrase) : List Token :=
  j.opening.tokens ++ (j.join.tokens ++ (blanks j.table.gap ++ j.table.item.token ::
    (j.on.tokens ++ (j.left.tokens Reference.tokens ++ (blanks j.gap ++ j.sign ::
      j.right.tokens Reference.tokens)))))

def spec (j : JoinPhrase) : Join :=
  ⟨j.opening.kind, j.table.item.name, j.left.item.name, j.right.item.name⟩

end JoinPhrase

/-! ## 5. Queries -/

/-- A number that a limit can be. -/
structure Limit where
  numeral : Numeral
  lt : numeral.value < UInt64.size

/-- A query for rows as it is written. -/
structure SelectPhrase where
  select : Written .SELECT
  distinct : Option (Written .DISTINCT)
  fields : Listed Nat (Spaced FieldPhrase)
  «from» : Written .FROM
  table : Spaced TableName
  join : Option JoinPhrase
  conditions : Option (Written .WHERE × Listed Connective ConditionPhrase)
  groupBy : Option (Written .GROUP × Written .BY × Listed Nat (Spaced FieldPhrase))
  orderBy : Option (Written .ORDER × Written .BY × Listed Nat SortPhrase)
  limit : Option (Written .LIMIT × Spaced Limit)
  /-- The blanks at the end. -/
  gap : Nat

namespace SelectPhrase

def fieldTokens : Listed Nat (Spaced FieldPhrase) → List Token :=
  Listed.commaTokens (Spaced.tokens FieldPhrase.tokens)

/-- The part before the optional clauses. -/
def headTokens (p : SelectPhrase) : List Token :=
  p.select.tokens ++ (p.distinct.elim [] Written.tokens ++ (fieldTokens p.fields ++
    (p.from.tokens ++ (blanks p.table.gap ++ p.table.item.token ::
      p.join.elim [] JoinPhrase.tokens))))

/-- The body of `WHERE`. -/
def conditionTokens : Listed Connective ConditionPhrase → List Token :=
  Listed.tokens Connective.gap Connective.token ConditionPhrase.tokens

/-- What follows `GROUP`. -/
def groupTokens (g : Written .BY × Listed Nat (Spaced FieldPhrase)) : List Token :=
  g.1.tokens ++ fieldTokens g.2

/-- What follows `ORDER`. -/
def orderTokens (o : Written .BY × Listed Nat SortPhrase) : List Token :=
  o.1.tokens ++ o.2.commaTokens SortPhrase.tokens

/-- The body of `LIMIT`. -/
def limitTokens (l : Spaced Limit) : List Token := l.tokens fun x => [x.numeral.token]

/-- An optional clause: its first keyword, and what follows. -/
def clauseTokens {k : Keyword} {α : Type} (f : α → List Token) :
    Option (Written k × α) → List Token
  | none => []
  | some (w, a) => w.tokens ++ f a

/-- The tokens of the query. -/
def tokens (p : SelectPhrase) : List Token :=
  p.headTokens ++ (clauseTokens conditionTokens p.conditions ++
    (clauseTokens groupTokens p.groupBy ++ (clauseTokens orderTokens p.orderBy ++
      (clauseTokens limitTokens p.limit ++ blanks p.gap))))

/-- What the query asks for. -/
def query (p : SelectPhrase) : Select where
  fields := p.fields.items.map fun f => f.item.field
  table := p.table.item.name
  distinct := p.distinct.isSome
  distinctFields :=
    if p.distinct.isSome then p.fields.items.map fun f => f.item.name
    else p.fields.items.filterMap fun f => f.item.distinctColumn?
  conditions := p.conditions.elim [] fun c => c.2.items.map ConditionPhrase.condition
  join := p.join.map JoinPhrase.spec
  groupBy := p.groupBy.map fun g => g.2.2.items.map fun f => f.item.name
  aggregated := p.fields.items.any (fun f => f.item.aggregate.isSome) && p.groupBy.isNone
  orderBy := p.orderBy.map fun o => o.2.2.items.map SortPhrase.key
  limit := p.limit.map fun l => l.2.item.numeral.value

end SelectPhrase

end Sql
end Tabular
