/-
# Locations

Where an interpreter page or a story file is: an absolute URL, which is used as it is, or a
local path, which a server makes reachable if it lies below the directory that is served.

A text is a URL if it reads as one with a scheme of more than one letter.  A single letter is
the drive of a path.
-/
import Playtest.Files.Disk
import Playtest.Url.Reading

namespace Playtest

inductive Location where
  | url (url : Url)
  /-- A clean path, seen from the directory that it was given for. -/
  | path (path : String)
  deriving DecidableEq, Repr

/-- Why a location has no URL. -/
inductive LocationError where
  /-- The path is not below the directory that is served. -/
  | outsideRoot (path root : String)
  | invalidUrl (error : Url.Error)
  | io (error : IoError)
  deriving DecidableEq, Repr

def LocationError.message : LocationError → String
  | .outsideRoot path root => "'" ++ path ++ "' is outside the served directory '" ++ root ++ "'"
  | .invalidUrl error => "invalid URL: " ++ error.message
  | .io error => "cannot resolve relative path: " ++ error.text

namespace Location

/-! ## 1. Reading -/

/-- The location that a text names, a relative path being seen from a directory. -/
def parse [Url.Idna] (text directory : String) : Location :=
  let place := Location.path (Path.clean (Path.join directory text))
  match Url.parse text with
  | .ok address => if 1 < address.scheme.length then .url address else place
  | .error _ => place

/-! ## 2. Serving -/

/-- The clean path as seen from the working directory.  The empty path is none. -/
def absolute (cwd path : String) : Except LocationError String :=
  if path = "" then .error (.io ⟨.invalidInput, "cannot make an empty path absolute"⟩)
  else .ok (Path.absolute cwd path)

/-- The names on the way to a place, with slashes between them. -/
def reference (steps : List Path.Component) : String :=
  String.ofList (Text.joinWith ['/'] (steps.filterMap fun
    | .name text => some text
    | _ => none))

/-- The URL to load for a location, where `server` serves the directory `root`. -/
def toUrl [Url.Idna] (server : Url) (cwd root : String) : Location → Except LocationError Url
  | .url address => .ok address
  | .path file => do
    let place ← absolute cwd file
    let root ← absolute cwd root
    match Path.below? root place with
    | none => .error (.outsideRoot place root)
    | some steps =>
      match server.join (reference steps) with
      | .ok address => .ok address
      | .error e => .error (.invalidUrl e)

/-- The address of the local server. -/
def serverText (port : Nat) : String := "http://127.0.0.1:" ++ toString port ++ "/"

/-- The URL of the local server. -/
def serverUrl (port : Nat) : Url :=
  { scheme := "http"
    authority? := some
      { host := .ipv4 0x7F000001, port? := if port = 80 then none else some port }
    place := .path ['/'] }

end Location

/-! ## 3. The page of a run -/

/-- What the page of a run is made from. -/
structure PageAddress where
  interpreter : Url
  /-- The story file, for interpreters that load one. -/
  game? : Option Url := none
  deriving DecidableEq, Repr

/-- The URL of the page: the interpreter, told in its query which story to load, and not to
resume an earlier session. -/
def PageAddress.url (address : PageAddress) : Url :=
  let page :=
    match address.game? with
    | none => address.interpreter
    | some game => address.interpreter.appendPair "story" game.href
  page.appendName "do_vm_autosave"

end Playtest
