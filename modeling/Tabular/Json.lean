/-
# JSON text

Cells and rows as JSON.  A row is an object with its columns in order.  Whole numbers that a
table would show as integers are written so; other finite numbers follow `Layout.json`, and what
is not finite is `null`.  Only the quote, the backslash and characters below the space are
escaped.

There are two spellings: `Row.toJson` on one line without spaces, and `Json.pretty` with one
cell a line.
-/
import Tabular.Row

namespace Tabular

namespace Json

/-! ## 1. Strings -/

/-- The two hexadecimal digits, in lower case, of a number below 256. -/
def hexByte (n : Nat) : List Char := [Nat.digitChar (n / 16), Nat.digitChar (n % 16)]

/-- A character inside a JSON string. -/
def escapeChar (c : Char) : List Char :=
  match c with
  | '\x22' => ['\\', '\x22']
  | '\\' => ['\\', '\\']
  | '\n' => ['\\', 'n']
  | '\r' => ['\\', 'r']
  | '\t' => ['\\', 't']
  | '\x08' => ['\\', 'b']
  | '\x0c' => ['\\', 'f']
  | c => if c.toNat < 0x20 then ['\\', 'u', '0', '0'] ++ hexByte c.toNat else [c]

/-- A JSON string with its quotes. -/
def quote (s : String) : String :=
  String.ofList ('\x22' :: (s.toList.flatMap escapeChar ++ ['\x22']))

end Json

/-! ## 2. Values and rows -/

/-- A cell as JSON. -/
def Value.toJson : Value → String
  | .null => "null"
  | .number x =>
    match Value.asInteger x with
    | some i => i.repr
    | none => if x.isFinite then x.write .json else "null"
  | .text s => Json.quote s

/-- A row as a JSON object on one line. -/
def Row.toJson (row : Row) : String :=
  "\x7b" ++ ",".intercalate (row.cells.map fun cell => Json.quote cell.1 ++ ":" ++ cell.2.toJson)
    ++ "\x7d"

namespace Json

/-- A row as a JSON object with a line for each cell, two levels deep. -/
def prettyRow (row : Row) : String :=
  if row.isEmpty then "\x7b\x7d"
  else
    let cell := fun (c : String × Value) => "    " ++ quote c.1 ++ ": " ++ c.2.toJson
    "\x7b\n" ++ ",\n".intercalate (row.cells.map cell) ++ "\n  \x7d"

/-- Rows as a JSON array with a line for each cell. -/
def pretty (rows : List Row) : String :=
  if rows.isEmpty then "[]"
  else "[\n" ++ ",\n".intercalate (rows.map fun row => "  " ++ prettyRow row) ++ "\n]"

end Json

end Tabular
