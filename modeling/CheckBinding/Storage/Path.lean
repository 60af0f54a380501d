import CheckBinding.Text.Pieces

/-!
Paths of files as texts.
-/

namespace CheckBinding.Storage.Path

open Text

/-- The path of an entry of a directory. The empty directory name is the place itself. -/
def join (directory name : String) : String :=
  if directory = "" then name
  else if directory.toList.getLast? = some '/' then directory ++ name
  else directory ++ "/" ++ name

def dropClosing : List Char → List Char
  | '/' :: rest => dropClosing rest
  | '.' :: '/' :: rest => dropClosing rest
  | characters => characters

/-- A file name without what follows its last dot; a dot in front does not count. -/
def stemChars (name : List Char) : List Char :=
  match cutChars '.' name.reverse with
  | some (_, []) => name
  | some (_, before) => before.reverse
  | none => name

/-- The path with the extension of its last name replaced, or added when there is none. A path
that ends in no name stays as it is. -/
def withExtension (extension path : String) : String :=
  let reversed := dropClosing path.toList.reverse
  let name := (reversed.takeWhile (fun character => character ≠ '/')).reverse
  let directory := (reversed.dropWhile (fun character => character ≠ '/')).reverse
  if name = [] ∨ name = ['.'] ∨ name = ['.', '.'] then path
  else String.ofList (directory ++ stemChars name) ++ "." ++ extension

end CheckBinding.Storage.Path
