/-
# Delimited records

A text of records: fields are parted by a delimiter and records by line breaks.  A field may
stand in double quotes; delimiters and line breaks inside belong to it, and a quote inside is
written twice.  Quotes count only where a field begins.

Reading goes in two steps.  `marks` tells what every character of the text means, which is all
that depends on the quotes; then the marks are split at the ends of records and fields.  Writing
is `writeRecord`.
-/
import Tabular.Text.Blank

namespace Tabular
namespace Delimited

/-! ## 1. Marks -/

/-- What a character of the text means. -/
inductive Mark where
  /-- It belongs to a field. -/
  | char (c : Char)
  /-- It is a quote that opens. -/
  | opening
  /-- It ends a field. -/
  | fieldEnd
  /-- It ends a record. -/
  | recordEnd
  deriving DecidableEq

/-- The character that belongs to a field. -/
def Mark.char? : Mark → Option Char
  | char c => some c
  | _ => none

/-- The marks of a text.  `quoted` says that a quote is open and `fresh` that the field at hand
has no character yet, for only there a quote opens.  A carriage return before a line break is a
part of it. -/
def marks (delimiter : Char) : (quoted fresh : Bool) → List Char → List Mark
  | _, _, [] => []
  | true, _, '\x22' :: '\x22' :: rest => .char '\x22' :: marks delimiter true false rest
  | true, fresh, '\x22' :: rest => marks delimiter false fresh rest
  | true, _, c :: rest => .char c :: marks delimiter true false rest
  | false, fresh, c :: rest =>
    if c = '\x22' ∧ fresh then .opening :: marks delimiter true fresh rest
    else if c = delimiter then .fieldEnd :: marks delimiter false true rest
    else if c = '\r' ∧ rest.head? = some '\n' then marks delimiter false fresh rest
    else if c = '\n' then .recordEnd :: marks delimiter false true rest
    else .char c :: marks delimiter false false rest

/-! ## 2. Records -/

/-- The fields of a record. -/
def fieldsOf (record : List Mark) : List (List Char) :=
  (record.splitOnP (· = .fieldEnd)).map (·.filterMap Mark.char?)

/-- Is a record a blank line?  A line with quotes is none. -/
def isBlankLine (record : List Mark) : Bool :=
  !record.contains .opening &&
    match fieldsOf record with
    | [field] => Text.isBlankText field
    | _ => false

/-- The records of a text, without the blank lines. -/
def records (delimiter : Char) (text : List Char) : List (List (List Char)) :=
  (((marks delimiter false true text).splitOnP (· = .recordEnd)).filter
    (!isBlankLine ·)).map fieldsOf

/-! ## 3. Writing -/

/-- Must a field with this character stand in quotes? -/
def isSpecial (delimiter c : Char) : Bool :=
  c = delimiter || c = '\x22' || c = '\n' || c = '\r'

/-- A character inside quotes. -/
def double (c : Char) : List Char := if c = '\x22' then ['\x22', '\x22'] else [c]

/-- A field as written, in quotes where it must be. -/
def writeField (delimiter : Char) (field : List Char) : List Char :=
  if field.any (isSpecial delimiter) then '\x22' :: (field.flatMap double ++ ['\x22']) else field

/-- A record as written, with its line break. -/
def writeRecord (delimiter : Char) (fields : List (List Char)) : List Char :=
  [delimiter].intercalate (fields.map (writeField delimiter)) ++ ['\n']

end Delimited
end Tabular
