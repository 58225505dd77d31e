/-
# The terminal

The program runs one statement, or talks line by line: it prompts, reads a line, prints what the
line asks for, and goes on until it is told to stop or the input ends.  Errors go to the second
stream and end a single statement, but not a talk.

Lines that start with a point are commands.  All other lines are statements.
-/
import Tabular.Session
import Tabular.Shell.Options
import Tabular.Store.Directory

namespace Tabular
namespace Shell

/-! ## 1. Output -/

/-- What is printed to the two output streams. -/
structure Output where
  out : String
  err : String
  deriving DecidableEq

namespace Output

/-- Nothing is printed. -/
def empty : Output := ⟨"", ""⟩

/-- Prints a line. -/
def line (text : String) : Output := ⟨text ++ "\n", ""⟩

/-- Prints an error. -/
def error (text : String) : Output := ⟨"", "Error: " ++ text ++ "\n"⟩

/-- One output after another. -/
def append (a b : Output) : Output := ⟨a.out ++ b.out, a.err ++ b.err⟩

instance : Append Output := ⟨append⟩

end Output

/-- An error and what is behind it, on one line. -/
def inlineError (e : QueryError) : String := e.message ++ e.cause?.elim "" (": " ++ ·)

/-- A text with every line indented. -/
def indent (text : String) : String :=
  String.ofList (text.toList.flatMap fun c => if c = '\n' then "\n    ".toList else [c])

/-- An error with what is behind it as a paragraph of its own. -/
def reportError (e : QueryError) : String :=
  e.message ++ e.cause?.elim "" ("\n\nCaused by:\n    " ++ indent ·)

/-- An answer in a format; messages stay as they are. -/
def printed (format : Format) : Answer → String
  | .message text => text
  | .rows rows =>
    match format with
    | .table => (Answer.rows rows).draw
    | .json => (Answer.rows rows).toJson

/-! ## 2. Lines -/

/-- What a line asks for. -/
inductive Command where
  | nothing
  | leave
  | help
  | tables
  /-- A command that there is none of. -/
  | unknown (text : String)
  | statement (sql : String)
  deriving DecidableEq

/-- Reads a line; blanks around it do not count. -/
def Command.ofLine (line : String) : Command :=
  match String.ofList (Text.trim line.toList) with
  | "" => .nothing
  | ".exit" => .leave
  | ".quit" => .leave
  | "exit" => .leave
  | ".help" => .help
  | ".tables" => .tables
  | text => if text.toList.head? = some '.' then .unknown text else .statement text

/-- The help text. -/
def helpLines : List String :=
  ["Special Commands:",
   "  .help              Show this help message",
   "  .tables            List the tables in the data directory",
   "  .exit, .quit       Exit the shell",
   "",
   "Supported SQL Statements:",
   "",
   "  SELECT:",
   "    SELECT * FROM student",
   "    SELECT DISTINCT age FROM student WHERE age > 20 ORDER BY age DESC LIMIT 5",
   "    SELECT student.name, enrollment.course FROM student",
   "      LEFT JOIN enrollment ON student.id = enrollment.student_id",
   "    SELECT age, COUNT(*) FROM student GROUP BY age",
   "",
   "  INSERT:",
   "    INSERT INTO student (id, name, age) VALUES (5, 'Eve', 28)",
   "",
   "  DELETE:",
   "    DELETE FROM student WHERE id = 5",
   "",
   "Notes:",
   "  - Keywords are case-insensitive; table and column names are lowercased",
   "  - WHERE conditions are always combined with AND, even when written with OR",
   "  - LIKE accepts % and _ wildcards",
   ""]

/-- The lines that greet. -/
def greetingLines (path : String) : List String :=
  ["╔════════════════════════════════════════════╗",
   "║           csvql Interactive Shell          ║",
   "╚════════════════════════════════════════════╝",
   "",
   "Data directory: " ++ path,
   "Type SQL statements or '.help' for help",
   "Type '.exit' to quit",
   ""]

/-- Prints lines. -/
def printLines (lines : List String) : Output := ⟨String.join (lines.map (· ++ "\n")), ""⟩

/-- Prints the names of the tables of a directory. -/
def printTables (directory : Directory) : Output :=
  match directory.tables with
  | .error e => .error (inlineError e)
  | .ok [] => .line ("No tables in " ++ directory.path)
  | .ok names => printLines (names.map ("  " ++ ·))

/-- What a line prints, and the directory after it; there is none after the last line. -/
def step (format : Format) (directory : Directory) (line : String) : Output × Option Directory :=
  match Command.ofLine line with
  | .nothing => (.empty, some directory)
  | .leave => (.line "Goodbye!", none)
  | .help => (printLines helpLines, some directory)
  | .tables => (printTables directory, some directory)
  | .unknown text =>
    (printLines ["Unknown command: " ++ text, "Type '.help' for help"], some directory)
  | .statement sql =>
    match Session.run directory sql with
    | .ok (answer, changed) => (.line (printed format answer), some changed)
    | .error e => (.error (inlineError e), some directory)

/-! ## 3. Whole runs -/

/-- What is printed before every line. -/
def prompt : String := "csvql> "

/-- A talk over the lines of an input: what is printed, and the directory after it. -/
def talk (format : Format) (directory : Directory) : List String → Output × Directory
  | [] => (⟨prompt ++ "\n", ""⟩, directory)
  | line :: rest =>
    match step format directory line with
    | (output, none) => (⟨prompt, ""⟩ ++ output, directory)
    | (output, some changed) =>
      let (later, final) := talk format changed rest
      (⟨prompt, ""⟩ ++ output ++ later, final)

/-- One statement: the exit code, what is printed, and the directory after it. -/
def single (format : Format) (directory : Directory) (sql : String) : Nat × Output × Directory :=
  match Session.run directory sql with
  | .ok (answer, changed) => (0, .line (printed format answer), changed)
  | .error e => (1, .error (reportError e), directory)

/-- The lines of an input; a line break at the end starts no further one. -/
def linesOf (input : String) : List String :=
  let lines := (input.toList.splitOn '\n').map String.ofList
  if lines.getLast? = some "" then lines.dropLast else lines

/-- The directory that the options name, seen from a working directory that holds files only. -/
def Options.openDirectory (options : Options) (files : Entries Content) : Directory :=
  let path := options.directory.getD "."
  ⟨.alone path, if ¬isAbsolute path ∧ pathSteps path = [] then some files else none⟩

/-- A run of the program on a directory. -/
def run (options : Options) (directory : Directory) (input : String) : Nat × Output × Directory :=
  let format := options.format.getD .table
  match options.statement with
  | some sql => single format directory sql
  | none =>
    let (output, final) := talk format directory (linesOf input)
    (0, printLines (greetingLines directory.path) ++ output, final)

end Shell
end Tabular
