/-
# Files

The files that a run reads and writes: a tree of directories and texts.  A path is followed
step by step from the working directory, as an operating system does, so that a missing or
wrong step is reported for what it is.
-/
import Playtest.Files.Path

namespace Playtest

/-! ## 1. What can go wrong -/

/-- The kinds of file and network errors. -/
inductive IoKind where
  | notFound
  | permissionDenied
  | addrInUse
  | invalidData
  | invalidInput
  | isDirectory
  | notDirectory
  | other
  deriving DecidableEq, Repr

/-- The text of a kind that comes without a text of its own. -/
def IoKind.description : IoKind → String
  | .notFound => "entity not found"
  | .permissionDenied => "permission denied"
  | .addrInUse => "address in use"
  | .invalidData => "invalid data"
  | .invalidInput => "invalid input parameter"
  | .isDirectory => "is a directory"
  | .notDirectory => "not a directory"
  | .other => "other error"

/-- An error with the text shown for it. -/
structure IoError where
  kind : IoKind
  text : String
  deriving DecidableEq, Repr

namespace IoError

def ofKind (kind : IoKind) : IoError := ⟨kind, kind.description⟩

def notFound : IoError := ⟨.notFound, "No such file or directory (os error 2)"⟩
def notDirectory : IoError := ⟨.notDirectory, "Not a directory (os error 20)"⟩
def isDirectory : IoError := ⟨.isDirectory, "Is a directory (os error 21)"⟩
def addressInUse : IoError := ⟨.addrInUse, "Address already in use (os error 98)"⟩

end IoError

/-! ## 2. The tree -/

/-- What stands at a place. -/
inductive Entry where
  | file (text : String)
  | directory
  deriving DecidableEq, Repr

/-- The places that hold something, each given by the names on the way from the root, with the
working directory. -/
structure Disk where
  cwd : String
  entries : List (List (List Char) × Entry)
  deriving Repr

namespace Disk

/-- What stands at a place.  Every place on the way to an entry is a directory. -/
def entryAt? (disk : Disk) (place : List (List Char)) : Option Entry :=
  match disk.entries.lookup place with
  | some entry => some entry
  | none =>
    if place = [] ∨ disk.entries.any (fun e => place.isPrefixOf e.1) then some .directory
    else none

/-- Follows steps from a place that is a directory or is not there. -/
def follow (disk : Disk) (place : List (List Char)) :
    List Path.Component → Except IoError (List (List Char))
  | [] => .ok place
  | step :: rest =>
    match disk.entryAt? place with
    | none => .error IoError.notFound
    | some (.file _) => .error IoError.notDirectory
    | some .directory =>
      match step with
      | .root => follow disk [] rest
      | .current => follow disk place rest
      | .parent => follow disk place.dropLast rest
      | .name text => follow disk (place ++ [text]) rest

/-- The place that a path names. -/
def place (disk : Disk) (path : String) : Except IoError (List (List Char)) :=
  if path = "" then .error IoError.notFound
  else
    let steps := Path.components (Path.join disk.cwd path).toList
    match disk.follow [] steps with
    | .error e => .error e
    | .ok place =>
      -- a slash at the end asks for a directory
      match disk.entryAt? place, path.toList.getLast? with
      | some (.file _), some '/' => .error IoError.notDirectory
      | _, _ => .ok place

/-- What a path names. -/
def get (disk : Disk) (path : String) : Except IoError Entry := do
  let place ← disk.place path
  match disk.entryAt? place with
  | some entry => .ok entry
  | none => .error IoError.notFound

/-- The path names something. -/
def has (disk : Disk) (path : String) : Bool := (disk.get path).isOk

/-- The text of the file that a path names. -/
def read (disk : Disk) (path : String) : Except IoError String := do
  match ← disk.get path with
  | .file text => .ok text
  | .directory => .error IoError.isDirectory

/-- Puts a text at a place. -/
def put (disk : Disk) (place : List (List Char)) (text : String) : Disk :=
  { disk with entries := (place, .file text) :: disk.entries.filter (fun e => e.1 ≠ place) }

/-- Writes a text to the file that a path names. -/
def write (disk : Disk) (path text : String) : Except IoError Disk := do
  let place ← disk.place path
  match disk.entryAt? place with
  | some .directory => .error IoError.isDirectory
  | some (.file _) => .ok (disk.put place text)
  | none =>
    if path.toList.getLast? = some '/' then .error IoError.isDirectory
    else
      match disk.entryAt? place.dropLast with
      | some .directory => .ok (disk.put place text)
      | some (.file _) => .error IoError.notDirectory
      | none => .error IoError.notFound

/-- The disk that holds these entries below its working directory. -/
def ofList (cwd : String) (files : List (String × Option String)) : Disk :=
  let names (path : String) : List (List Char) :=
    (Path.components path.toList).filterMap fun
      | .name text => some text
      | _ => none
  let base := names cwd
  ⟨cwd, (base, .directory) :: files.map fun (path, text?) =>
    (base ++ names path, match text? with | some text => .file text | none => .directory)⟩

end Disk
end Playtest
