/-
# Documents

A document is a table as a delimited text.  Its first record names the columns; the delimiter is
not told and is taken from the header line, as the most frequent of three candidates.  Values are
the fields, as text.

A record with fewer fields than there are columns gives a row without the last columns, and
fields beyond the last column are lost.
-/
import Tabular.Delimited.Records
import Tabular.Row

namespace Tabular

/-- A table with the delimiter that it is written with. -/
structure Document where
  columns : List String
  delimiter : Char
  rows : List Row

namespace Document

/-! ## 1. Reading -/

/-- The delimiters that are looked for, the preferred one first. -/
def candidates : List Char := [',', '\t', '|']

/-- The candidate that a line holds most of; of equals the preferred one. -/
def delimiterOf (line : List Char) : Char :=
  candidates.foldl (fun best d => if line.count best < line.count d then d else best) ','

/-- The name of a column; a blank one is named by its place. -/
def columnName (place : Nat) (field : List Char) : String :=
  if Text.isBlankText field then "_col_" ++ place.repr else String.ofList (Text.trim field)

/-- The row of a record. -/
def rowOf (columns : List String) (fields : List (List Char)) : Row :=
  Row.ofList (columns.zip (fields.map fun field => .text (String.ofList field)))

/-- The document of a list of records. -/
def ofRecords (delimiter : Char) : List (List (List Char)) → Document
  | [] => ⟨[], delimiter, []⟩
  | header :: records =>
    let columns := header.mapIdx columnName
    ⟨columns, delimiter, records.map (rowOf columns)⟩

/-- The first line of a text. -/
def firstLine (text : List Char) : List Char := text.takeWhile (· ≠ '\n')

/-- Reads a document.  Byte order marks in front are dropped, and a text with a blank first line
is an empty document. -/
def ofText (s : String) : Document :=
  let text := s.toList.dropWhile (· = '\ufeff')
  if Text.isBlankText (firstLine text) then ⟨[], ',', []⟩
  else
    let delimiter := delimiterOf (firstLine text)
    ofRecords delimiter (Delimited.records delimiter text)

/-! ## 2. Writing -/

/-- The text of a cell; a null and a missing cell have none. -/
def cellText (row : Row) (column : String) : List Char :=
  match row.get? column with
  | none | some .null => []
  | some value => value.display.toList

/-- Writes a document: the header, then a record for each row. -/
def toText (document : Document) : String :=
  String.ofList
    (Delimited.writeRecord document.delimiter (document.columns.map String.toList) ++
      document.rows.flatMap fun row =>
        Delimited.writeRecord document.delimiter (document.columns.map (cellText row)))

/-! ## 3. Changes -/

/-- Adds a row at the end; columns that only it has become the last ones. -/
def append (document : Document) (row : Row) : Document :=
  { document with
    columns := document.columns ++ row.columns.filter (· ∉ document.columns)
    rows := document.rows ++ [row] }

end Document
end Tabular
