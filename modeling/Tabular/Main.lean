/-
# The program

Reads the files of the data directory, and those elsewhere that a statement names, lets `Shell` run
one statement or one line after the other on them, and writes back the files that change.
-/
import Tabular.Shell.Terminal

namespace Tabular
namespace Main

open Shell

/-- Why a file cannot be read. -/
def faultOf : IO.Error → AccessFault
  | .noFileOrDirectory .. => .missing
  | e => .other (toString e)

/-- What is at some paths that start in a directory: files, and reasons why there is no file. -/
def look (directory : String) (paths : List String) :
    IO (Entries Content × Entries AccessFault) := do
  let mut files : Entries Content := []
  let mut faults : Entries AccessFault := []
  for path in paths do
    try
      files := files.set path (.ofBytes (← IO.FS.readBinFile (joinPath directory path)))
    catch e =>
      faults := faults.set path (faultOf e)
  return (files, faults)

/-- The names in a directory that are those of tables, if there is such a directory. -/
def readNames (path : String) : IO (Option (List String)) := do
  try
    let entries ← (← IO.FS.realPath path).readDir
    return some ((entries.toList.map (·.fileName)).filter fun name =>
      (Directory.tableOf? name).isSome || Directory.sameName name Directory.suffix)
  catch _ =>
    return none

/-- The paths of the tables that a statement names, as far as they may lead away. -/
def pathsElsewhere (sql : String) : List String :=
  ((Sql.tablesOf sql).map Directory.pathOf).filter fun path => '/' ∈ path.toList

/-- The directory at a path as it is now, with what a statement can reach around it. -/
def readDirectory (path sql : String) : IO Directory := do
  let names ← readNames path
  let (files, faults) ← look path (names.getD [])
  let (elsewhere, others) ← look path (pathsElsewhere sql)
  return ⟨.seen path elsewhere (faults ++ others), names.map fun _ => files⟩

/-- Writes the files that a run has changed. -/
def writeChanges (before after : Directory) : IO Unit := do
  let all := fun (directory : Directory) => directory.files.getD [] ++ directory.around.elsewhere
  for (path, content) in all after do
    match content, (all before).get? path with
    | .text new, some (.text old) =>
      if new ≠ old then IO.FS.writeFile (joinPath before.path path) new
    | _, _ => pure ()

/-- Prints to the two output streams. -/
def print (output : Output) : IO Unit := do
  IO.print output.out
  (← IO.getStdout).flush
  IO.eprint output.err

/-- Prompts and answers until a line or the end of the input stops it. -/
partial def talk (format : Format) (path : String) : IO Unit := do
  print ⟨prompt, ""⟩
  let line ← (← IO.getStdin).getLine
  if line.isEmpty then print (.line "")
  else
    let directory ← readDirectory path (String.ofList (Text.trim line.toList))
    let (output, after) := step format directory line
    after.forM (writeChanges directory)
    print output
    if after.isSome then talk format path

/-- Runs the program on its arguments. -/
def run (arguments : List String) : IO UInt32 := do
  match Options.ofArguments? arguments with
  | none =>
    IO.eprintln "Usage: [-d DIRECTORY] [-e STATEMENT] [-f table|json]"
    return 2
  | some options =>
    let path := options.directory.getD "."
    let format := options.format.getD .table
    match options.statement with
    | some sql =>
      let directory ← readDirectory path sql
      let (code, output, after) := single format directory sql
      writeChanges directory after
      print output
      return UInt32.ofNat code
    | none =>
      print (printLines (greetingLines path))
      talk format path
      return 0

end Main
end Tabular

def main (arguments : List String) : IO UInt32 := Tabular.Main.run arguments
