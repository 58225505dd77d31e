/-
# What is around a directory

Where a path leads is for the system to say.  It may be a file of the directory or one elsewhere,
or no file at all, for one of many reasons.  What it says does not change while files are only
written anew, so it is given by functions, and the contents of the files are the only state
(`Surroundings`).

`Surroundings.seen` makes these functions from what a look around has found.  Nothing is known of
any other place, so a path that leaves the directory comes to nothing there.
-/
import Tabular.Entries
import Tabular.Error

namespace Tabular

/-! ## 1. Files -/

/-- The content of a file: a text, or bytes that are no text. -/
inductive Content where
  | text (s : String)
  | binary (bytes : ByteArray)

/-- Bytes are a text where they are valid UTF-8. -/
def Content.ofBytes (bytes : ByteArray) : Content :=
  match String.fromUTF8? bytes with
  | some s => .text s
  | none => .binary bytes

/-- A file that a path leads to. -/
inductive Target where
  /-- A file of the directory, by its name. -/
  | inside (name : String)
  /-- A file elsewhere, by any name of its own. -/
  | outside (name : String)
  deriving DecidableEq

/-- The path of a directory and the files elsewhere, with the answers of the system.  They depend on
the names of the files of the directory, which are missing if there is no such directory. -/
structure Surroundings where
  path : String
  elsewhere : Entries Content
  /-- The names that are listed in the directory: its files, and whatever else is there. -/
  list : Option (List String) → Except AccessFault (List String)
  /-- Where a path leads that starts in the directory. -/
  follow : Option (List String) → String → Except AccessFault Target
  /-- Why a file cannot be read, if it cannot. -/
  barred : Target → Option AccessFault

/-! ## 2. Paths -/

/-- Does a path start at the root, wherever it stands? -/
def isAbsolute (path : String) : Bool := path.toList.head? = some '/'

/-- A path that starts in a directory. -/
def joinPath (directory path : String) : String :=
  if isAbsolute path then path
  else if directory = "" ∨ directory.toList.getLast? = some '/' then directory ++ path
  else directory ++ "/" ++ path

/-- The parts of a path, without those that stay in place. -/
def pathSteps (path : String) : List (List Char) :=
  (path.toList.splitOn '/').filter fun part => part ≠ [] ∧ part ≠ ['.']

/-- The number of bytes of characters in UTF-8. -/
def byteCount (cs : List Char) : Nat := cs.foldr (fun c n => c.utf8Size + n) 0

/-- The most bytes of a part of a path. -/
def maxPartBytes : Nat := 255

/-- The most bytes of a path. -/
def maxPathBytes : Nat := 4095

/-! ## 3. A look around -/

namespace Surroundings

/-- Where the parts of a path lead: from the directory, as long as they stay inside, and from places
of which nothing is known after that. -/
def walk (names : List String) : Bool → List (List Char) → Except AccessFault Target
  | _, [] => .error .folder
  | inside, part :: rest =>
    if part = ['.', '.'] then walk names false rest
    else if maxPartBytes < byteCount part then .error .tooLong
    else if ¬inside then .error .missing
    else if rest = [] then .ok (.inside (String.ofList part))
    else if String.ofList part ∈ names then .error .notFolder
    else .error .missing

/-- Where a path leads, if it is not one that has been looked at. -/
def search (names : Option (List String)) (path : String) : Except AccessFault Target :=
  if isAbsolute path then walk [] false (pathSteps path)
  else
    match names with
    | none => .error .missing
    | some names => walk names true (pathSteps path)

/-- What a look around a directory has found: files elsewhere, by the paths that lead to them, and
what is at paths that lead to no file. -/
def seen (path : String) (elsewhere : Entries Content) (faults : Entries AccessFault) :
    Surroundings where
  path := path
  elsewhere := elsewhere
  list names :=
    match names with
    | none => .error .missing
    | some names => .ok (names ++ faults.names.filter fun name => '/' ∉ name.toList)
  follow names file :=
    if '\x00' ∈ (joinPath path file).toList then .error .zeroInPath
    else if maxPathBytes < byteCount (joinPath path file).toList then .error .tooLong
    else if (elsewhere.get? file).isSome then .ok (.outside file)
    else
      match faults.get? file with
      | some fault => .error fault
      | none => search names file
  barred _ := none

/-- A directory in which there are only files, and around which nothing is known. -/
def alone (path : String) : Surroundings := seen path [] []

instance : Coe String Surroundings := ⟨alone⟩

end Surroundings
end Tabular
