/-
# Errors

Everything that can go wrong with a statement, by its cause.  The wording is in the functions
`message`, and `QueryError.clause?` names the clause at fault.
-/
import Tabular.Sql.Literal

namespace Tabular

/-! ## 1. Statements that cannot be read -/

/-- The part of a statement that a fault belongs to. -/
inductive Clause where
  | statement | select | fields | «from» | join | «where» | groupBy | orderBy | limit
  | insert | values | delete
  deriving DecidableEq, Repr

/-- The name of a clause in messages. -/
def Clause.name : Clause → String
  | statement => "statement"
  | select => "SELECT"
  | fields => "field list"
  | «from» => "FROM"
  | join => "JOIN"
  | «where» => "WHERE"
  | groupBy => "GROUP BY"
  | orderBy => "ORDER BY"
  | limit => "LIMIT"
  | insert => "INSERT"
  | values => "VALUES"
  | delete => "DELETE"

namespace Sql

/-- The wording of a fault in the tokens of a text. -/
def ScanFault.message : ScanFault → String
  | unterminatedString => "Unterminated string literal"
  | unreadableEscapes => "Unterminated encoded string literal"
  | unicode .unterminated => "Unterminated unicode encoded string literal"
  | unicode .endInEscape => "Unexpected EOF while parsing hex digit in escaped unicode string."
  | unicode (.badDigit c) =>
    "Invalid hex digit in escaped unicode string: " ++ String.ofList [c]
  | unicode (.noCharacter code) =>
    "Invalid unicode character: " ++ String.ofList (Nat.toDigits 16 code)
  | openWord q => "Expected close delimiter '" ++ String.ofList [q] ++ "' before EOF."
  | openComment => "Unexpected EOF while in a multi-line comment"
  | openDollars => "Unterminated dollar-quoted string"
  | openTag => "Unterminated dollar-quoted, expected $"

end Sql

/-- What can be wrong with the words of a clause. -/
inductive Fault where
  /-- The text has no tokens, for a fault at a place. -/
  | scan (fault : Sql.ScanFault) (place : Sql.Position)
  /-- The statement is of no known kind. -/
  | unknownStatement
  /-- A keyword is missing. -/
  | missingKeyword (keyword : Keyword)
  /-- A query has no `FROM`. -/
  | missingTable
  /-- A name is missing. -/
  | missingName
  /-- An opening parenthesis is missing. -/
  | missingOpening
  /-- A closing parenthesis is missing. -/
  | missingClosing
  /-- The equality of a join is missing. -/
  | missingEquality
  /-- Something stands behind the last part of a statement. -/
  | trailing (part text : String)
  /-- An entry of a list has no text. -/
  | emptyEntry (entry : String)
  /-- A field has no text. -/
  | emptyField
  /-- A sort key has no text. -/
  | emptySortKey
  /-- A condition has no field, no operator or no value. -/
  | badCondition
  /-- A limit is no integer. -/
  | badLimit
  /-- A row has more columns than values, or fewer. -/
  | countMismatch (columns values : Nat)
  deriving DecidableEq, Repr

/-- The wording of a fault in a clause. -/
def Fault.message (clause : Clause) : Fault → String
  | scan fault place =>
    "SQL tokenizing error: " ++ fault.message ++ " at Line: " ++ place.line.repr
      ++ ", Column: " ++ place.column.repr
  | unknownStatement => "Unsupported statement: expected SELECT, INSERT or DELETE"
  | missingKeyword keyword =>
    "Invalid " ++ clause.name ++ " clause: expected " ++ keyword.spelling
  | missingTable =>
    "Invalid SELECT clause. Ensure it follows 'SELECT field1, field2 FROM table' format"
  | missingName => "Invalid " ++ clause.name ++ " clause: expected a table name"
  | missingOpening => "Invalid " ++ clause.name ++ " clause: expected '('"
  | missingClosing => "Invalid " ++ clause.name ++ " clause: missing ')'"
  | missingEquality => "Invalid JOIN clause: expected '=' in ON condition"
  | trailing part text => "Unexpected text after " ++ part ++ ": " ++ text
  | emptyEntry entry => "Invalid " ++ clause.name ++ " clause: empty " ++ entry
  | emptyField => "Invalid SELECT clause: empty field"
  | emptySortKey => "Invalid ORDER BY clause: empty sort key"
  | badCondition => "Invalid WHERE clause format"
  | badLimit => "Invalid LIMIT clause: expected an integer"
  | countMismatch columns values =>
    "Invalid VALUES clause: " ++ columns.repr ++ " column(s) but " ++ values.repr ++ " value(s)"

/-! ## 2. Tables that cannot be read -/

/-- Why a file cannot be read, or a directory not be listed. -/
inductive AccessFault where
  /-- The file does not hold text. -/
  | notText
  /-- There is nothing at the path. -/
  | missing
  /-- The path has a zero character in it, which ends paths. -/
  | zeroInPath
  /-- The path is too long, or a part of it. -/
  | tooLong
  /-- The path goes on behind the name of a file. -/
  | notFolder
  /-- The path is that of a folder. -/
  | folder
  /-- Anything else, in the words of the system. -/
  | other (words : String)
  deriving DecidableEq, Repr

/-- The wording of an access fault. -/
def AccessFault.message : AccessFault → String
  | notText => "stream did not contain valid UTF-8"
  | missing => "No such file or directory (os error 2)"
  | zeroInPath => "file name contained an unexpected NUL byte"
  | tooLong => "File name too long (os error 36)"
  | notFolder => "Not a directory (os error 20)"
  | folder => "Is a directory (os error 21)"
  | other words => words

/-! ## 3. All errors -/

/-- Why a statement fails. -/
inductive QueryError where
  /-- A query for rows cannot be read, for the cause inside. -/
  | invalidSelect (cause : QueryError)
  /-- A clause cannot be read. -/
  | malformed (clause : Clause) (fault : Fault)
  /-- A reference names no column of a row. -/
  | unknownField (reference : String)
  /-- An operator has no meaning in conditions. -/
  | unsupportedOperator (symbol : String)
  /-- There is no such table. -/
  | tableNotFound (table : String)
  /-- A table is there, for all that is known, and cannot be read. -/
  | unreadable (table : String) (fault : AccessFault)
  deriving DecidableEq, Repr

namespace QueryError

/-- The wording of an error. -/
def message : QueryError → String
  | invalidSelect _ => "Query parsing error: Invalid SELECT format"
  | malformed clause fault => fault.message clause
  | unknownField reference => "Invalid field: " ++ reference
  | unsupportedOperator symbol => "Unsupported operator: " ++ symbol
  | tableNotFound table => "Table '" ++ table ++ "' not found"
  | unreadable table fault => "Failed to access table '" ++ table ++ "': " ++ fault.message

/-- The wording of what is behind an error, where the message does not say it all. -/
def cause? : QueryError → Option String
  | invalidSelect cause => some cause.message
  | unreadable _ fault => some fault.message
  | _ => none

/-- The clause at fault; inside a query that cannot be read it is that of the cause. -/
def clause? : QueryError → Option Clause
  | invalidSelect cause => cause.clause?
  | malformed clause _ => some clause
  | unsupportedOperator _ => some .where
  | _ => none

end QueryError

end Tabular
