import CheckBinding.Storage.Operation
import CheckBinding.Text.Pieces

/-!
A file system and the working directory of a process.

Entries are bound to locations, the lists of names that lead to them from the root. Paths are walked
name by name, from the root when they begin with a slash and else from the working directory: `..`
steps back, and every name but the last must lead to a directory.
-/

namespace CheckBinding.Storage

open Text

inductive Entry where
  | file (content : ByteArray)
  | directory

abbrev Location := List String

structure FileSystem where
  entries : List (Location × Entry)
  working : Location

namespace FileSystem

def empty : FileSystem := ⟨[], []⟩

def lookup (files : FileSystem) (location : Location) : Option Entry :=
  if location = [] then some .directory else files.entries.lookup location

def put (files : FileSystem) (location : Location) (entry : Entry) : FileSystem :=
  { files with
    entries := (location, entry) :: files.entries.filter (fun bound => bound.1 ≠ location) }

def drop (files : FileSystem) (location : Location) : FileSystem :=
  { files with entries := files.entries.filter (fun bound => bound.1 ≠ location) }

def dropTree (files : FileSystem) (location : Location) : FileSystem :=
  { files with entries := files.entries.filter (fun bound => !location.isPrefixOf bound.1) }

def longestName : Nat := 255

def longestPath : Nat := 4095

/-- Follows names from a location. The location reached last need not exist. -/
def walk (files : FileSystem) (location : Location) : List String → Except Fault Location
  | [] => .ok location
  | name :: rest =>
      match files.lookup location with
      | none => .error .notFound
      | some (.file _) => .error .notDirectory
      | some .directory =>
          if name = "" ∨ name = "." then walk files location rest
          else if name = ".." then walk files location.dropLast rest
          else if longestName < name.utf8ByteSize then .error .nameTooLong
          else walk files (location ++ [name]) rest

def start (files : FileSystem) (path : String) : Location :=
  if path.toList.head? = some '/' then [] else files.working

def locate (files : FileSystem) (path : String) : Except Fault Location :=
  if path.toList.contains (Char.ofNat 0) then .error .badName
  else if path = "" then .error .notFound
  else if longestPath < path.utf8ByteSize then .error .nameTooLong
  else files.walk (files.start path) (split '/' path)

def inspect (files : FileSystem) (path : String) : Except Fault EntryKind := do
  match files.lookup (← files.locate path) with
  | some (.file _) => return .file
  | some .directory => return .directory
  | none => .error .notFound

def read (files : FileSystem) (path : String) : Except Fault ByteArray := do
  match files.lookup (← files.locate path) with
  | some (.file content) => return content
  | some .directory => .error .isDirectory
  | none => .error .notFound

def openEmpty (files : FileSystem) (path : String) : Except Fault FileSystem := do
  let location ← files.locate path
  match files.lookup location with
  | some .directory => .error .isDirectory
  | _ => return files.put location (.file ByteArray.empty)

def append (files : FileSystem) (path : String) (bytes : ByteArray) :
    Except Fault FileSystem := do
  let location ← files.locate path
  match files.lookup location with
  | some (.file content) => return files.put location (.file (content ++ bytes))
  | some .directory => .error .isDirectory
  | none => .error .notFound

def remove (files : FileSystem) (path : String) : Except Fault FileSystem := do
  let location ← files.locate path
  match files.lookup location with
  | some (.file _) => return files.drop location
  | some .directory => .error .isDirectory
  | none => .error .notFound

def endsInSlash (path : String) : Bool :=
  path.toList.getLast? = some '/'

/-- Whether the last name of a path is one of the two that name no entry of their own. -/
def endsInDots (path : String) : Bool :=
  match (split '/' path).getLast? with
  | some name => name = "." || name = ".."
  | none => false

/-- Moves a file onto a path, replacing a file there; a directory is never replaced. -/
def rename (files : FileSystem) (source target : String) : Except Fault FileSystem := do
  let start ← files.locate source
  let goal ← files.locate target
  if endsInDots target then .error .busy
  else
    match files.lookup start with
    | none => .error .notFound
    | some .directory => .error .busy
    | some (.file content) =>
        if endsInSlash target then .error .notDirectory
        else
          match files.lookup goal with
          | some .directory => .error .isDirectory
          | _ => return (files.drop start).put goal (.file content)

def perform (files : FileSystem) :
    (operation : Operation) → FileSystem × Except Fault operation.Result
  | .inspect path => (files, files.inspect path)
  | .read path => (files, files.read path)
  | .openEmpty path => settle files (files.openEmpty path)
  | .append path bytes => settle files (files.append path bytes)
  | .sync _ => (files, .ok ())
  | .rename source target => settle files (files.rename source target)
  | .remove path => settle files (files.remove path)
where
  /-- A failed change leaves everything as it was. -/
  settle (before : FileSystem) : Except Fault FileSystem → FileSystem × Except Fault Unit
    | .ok after => (after, .ok ())
    | .error fault => (before, .error fault)

def makeDirectories (files : FileSystem) (location : Location) : FileSystem :=
  (List.range location.length).foldl
    (fun files depth =>
      let here := location.take (depth + 1)
      match files.lookup here with
      | none => files.put here .directory
      | some _ => files)
    files

end FileSystem
end CheckBinding.Storage
