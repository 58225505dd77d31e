/-
# Options

The command line takes a directory, a statement and a format, each at most once, and any number
of requests for more log output, of which there is none.  A value may be the next argument or
stand in the same one: `-f json`, `-fjson`, `-f=json`, `--format json` and `--format=json` all
say the same.
-/
namespace Tabular
namespace Shell

/-- How rows are printed. -/
inductive Format where
  | table | json
  deriving DecidableEq

/-- Reads the name of a format. -/
def Format.ofName? : String → Option Format
  | "table" => some .table
  | "json" => some .json
  | _ => none

/-- What the command line asks for. -/
structure Options where
  directory : Option String
  statement : Option String
  format : Option Format

/-- The options that take a value. -/
inductive Setting where
  | directory | statement | format

namespace Options

/-- Nothing is asked for. -/
def empty : Options := ⟨none, none, none⟩

/-- Takes a value, unless it is unreadable or the option has one. -/
def set (options : Options) (setting : Setting) (value : String) : Option Options :=
  match setting with
  | .directory =>
    if options.directory.isNone ∧ value ≠ "" then some { options with directory := some value }
    else none
  | .statement =>
    if options.statement.isNone then some { options with statement := some value } else none
  | .format =>
    if options.format.isNone then
      (Format.ofName? value).map fun format => { options with format := some format }
    else none

/-- The option with a long name. -/
def settingOfName? : String → Option Setting
  | "data-dir" => some .directory
  | "execute" => some .statement
  | "format" => some .format
  | _ => none

/-- The option with a letter. -/
def settingOfLetter? : Char → Option Setting
  | 'd' => some .directory
  | 'e' => some .statement
  | 'f' => some .format
  | _ => none

/-- What an argument asks for. -/
inductive Request where
  /-- More log output. -/
  | verbose
  /-- An option, with its value if that is in the argument. -/
  | setting (setting : Setting) (value : Option String)

/-- Reads letters: any number of `v`, then at most one option, whose value is the rest. -/
def letters? : List Char → Option Request
  | [] => some .verbose
  | 'v' :: rest => letters? rest
  | c :: rest =>
    (settingOfLetter? c).map fun setting =>
      .setting setting (match rest with
        | [] => none
        | '=' :: value => some (String.ofList value)
        | value => some (String.ofList value))

/-- Reads a long name, with a value behind an equality sign if there is one. -/
def name? (cs : List Char) : Option Request :=
  let name := String.ofList (cs.takeWhile (· ≠ '='))
  match cs.dropWhile (· ≠ '=') with
  | [] =>
    if name = "verbose" then some .verbose
    else (settingOfName? name).map fun setting => .setting setting none
  | _ :: value =>
    (settingOfName? name).map fun setting => .setting setting (some (String.ofList value))

/-- Reads an argument that names options. -/
def request? (argument : String) : Option Request :=
  match argument.toList with
  | '-' :: '-' :: name => name? name
  | '-' :: c :: rest => letters? (c :: rest)
  | _ => none

/-- Can the argument be the value of an option?  What starts with a dash is an option itself. -/
def isValue (argument : String) : Bool := argument.toList.head? ≠ some '-' || argument = "-"

/-- Reads arguments into options. -/
def read (options : Options) : List String → Option Options
  | [] => some options
  | argument :: rest =>
    match request? argument with
    | none => none
    | some .verbose => read options rest
    | some (.setting setting (some value)) =>
      match options.set setting value with
      | some options => read options rest
      | none => none
    | some (.setting setting none) =>
      match rest with
      | [] => none
      | value :: rest =>
        if isValue value then
          match options.set setting value with
          | some options => read options rest
          | none => none
        else none

/-- The options of a command line, if it can be read. -/
def ofArguments? (arguments : List String) : Option Options := read empty arguments

end Options
end Shell
end Tabular
