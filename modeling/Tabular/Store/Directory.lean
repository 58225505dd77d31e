/-
# Tables in a directory

A table is the file `table.csv` of a directory, and every change writes its file anew.  Letter
case in file names does not count: where there is no file with the name in lower case, one that
differs in ASCII letter case serves.

A table name is part of a path as it stands, so a name with slashes may lead to a file elsewhere,
and a name may be none that the system takes.  If there is just nothing at the path, there is no
such table; any other reason for which a file cannot be read is given as it is.  A file that has
been read can be written.
-/
import Tabular.Delimited.Document
import Tabular.Store.Basic
import Tabular.Store.Surroundings
import Tabular.Text.Casing

namespace Tabular

/-- A directory, with what is around it. -/
structure Directory where
  around : Surroundings
  /-- Its files by name; there are none if there is no such directory. -/
  files : Option (Entries Content)

namespace Directory

variable (directory : Directory)

/-! ## 1. Files -/

/-- The path of the directory. -/
def path : String := directory.around.path

/-- The names of its files. -/
def names : Option (List String) := directory.files.map Entries.names

/-- The content of a file. -/
def content? : Target → Option Content
  | .inside name => directory.files.bind (Entries.get? name)
  | .outside name => directory.around.elsewhere.get? name

/-- The file that a path leads to, and its content. -/
def fileAt (path : String) : Except AccessFault (Target × Content) := do
  let target ← directory.around.follow directory.names path
  match directory.content? target with
  | some content => return (target, content)
  | none => throw .missing

/-- The text of the file that a path leads to. -/
def readText (path : String) : Except AccessFault String := do
  let (target, content) ← directory.fileAt path
  match directory.around.barred target, content with
  | some fault, _ => throw fault
  | none, .text s => return s
  | none, .binary _ => throw .notText

/-- The directory with a text written to the file that a path leads to. -/
def writeText (path text : String) : Directory :=
  match directory.around.follow directory.names path with
  | .ok (.inside name) =>
    { directory with files := directory.files.map (·.set name (.text text)) }
  | .ok (.outside name) =>
    { directory with
      around := { directory.around with
        elsewhere := directory.around.elsewhere.set name (.text text) } }
  | .error _ => directory

/-! ## 2. The files of tables -/

/-- The extension of table files. -/
def suffix : String := ".csv"

/-- The path of a table inside the directory. -/
def pathOf (table : String) : String := Text.lower table ++ suffix

/-- Are two names equal apart from the case of ASCII letters? -/
def sameName (a b : String) : Bool := a.toList.map Char.toLower = b.toList.map Char.toLower

/-- The path of a table's file: the one with the name in lower case if it leads to a file, or else
a listed name in other letter case, if there is one. -/
def locate (table : String) : String :=
  if (directory.fileAt (pathOf table)).isOk then pathOf table
  else
    match directory.around.list directory.names with
    | .ok names => (names.find? (sameName (pathOf table))).getD (pathOf table)
    | .error _ => pathOf table

/-- The table that a file name stands for. -/
def tableOf? (name : String) : Option String :=
  let cs := name.toList
  let stem := cs.take (cs.length - 4)
  if stem ≠ [] ∧ sameName (String.ofList (cs.drop (cs.length - 4))) suffix then
    some (Text.lower (String.ofList stem))
  else none

/-- The error for a table whose file cannot be read. -/
def failure (table : String) : AccessFault → QueryError
  | .missing => .tableNotFound table
  | fault => .unreadable table fault

/-! ## 3. The store -/

/-- The path of a table's file, and its document. -/
def load (table : String) : Except QueryError (String × Document) :=
  match directory.readText (directory.locate table) with
  | .ok s => .ok (directory.locate table, .ofText s)
  | .error fault => .error (failure table fault)

/-- The directory with a document written to the file that a path leads to. -/
def write (path : String) (document : Document) : Directory :=
  directory.writeText path document.toText

/-- The rows of a table. -/
def fetch (table : String) : Except QueryError (List Row) :=
  (directory.load table).map fun loaded => loaded.2.rows

/-- The directory with a row added at the end of a table. -/
def append (table : String) (row : Row) : Except QueryError Directory :=
  (directory.load table).map fun (path, document) => directory.write path (document.append row)

/-- The number of rows of a table that a test accepts, and the directory without them. -/
def remove (table : String) (test : Row → Except QueryError Bool) :
    Except QueryError (Nat × Directory) := do
  let (path, document) ← directory.load table
  let (count, kept) ← Relation.discard test document.rows
  return (count, directory.write path { document with rows := kept })

/-- The names of all tables, sorted and without repetitions. -/
def tables : Except QueryError (List String) :=
  match directory.around.list directory.names with
  | .ok names => .ok (sortNames (names.filterMap tableOf?)).eraseReps
  | .error fault => .error (.unreadable directory.path fault)

instance : Store Directory where
  fetch := fetch
  append := append
  remove := remove
  tables := tables

end Directory
end Tabular
