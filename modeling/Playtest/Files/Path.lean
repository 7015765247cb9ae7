/-
# Paths

A path is a text.  What it means is the list of its components: a slash at the start is the
root, a point at the start is the current directory, two points are the parent, and all other
points and repeated slashes mean nothing.

Cleaning a path is lexical.  It looks at no file, so `a/..` is nothing even where `a` is not
there.
-/
import Playtest.Text.Search

namespace Playtest
namespace Path

/-! ## 1. Components -/

/-- One step of a path. -/
inductive Component where
  | root
  | current
  | parent
  | name (text : List Char)
  deriving DecidableEq, Repr

/-- The step that a part between slashes stands for, if it stands for one. -/
def component? (part : List Char) : Option Component :=
  if part = [] ∨ part = ['.'] then none
  else if part = ['.', '.'] then some .parent
  else some (.name part)

/-- The steps of a path. -/
def components (path : List Char) : List Component :=
  let parts := Text.splitAt '/' path
  let start : List Component :=
    if path.head? = some '/' then [.root]
    else if parts.head? = some ['.'] then [.current]
    else []
  start ++ parts.filterMap component?

/-- The path is not relative. -/
def isAbsolute (path : String) : Bool := path.toList.head? = some '/'

/-- The text of one step. -/
def Component.text : Component → List Char
  | .root => ['/']
  | .current => ['.']
  | .parent => ['.', '.']
  | .name text => text

/-- The path with these steps. -/
def ofComponents : List Component → List Char
  | .root :: rest => '/' :: Text.joinWith ['/'] (rest.map Component.text)
  | steps => Text.joinWith ['/'] (steps.map Component.text)

/-! ## 2. Joining -/

/-- The path seen from a directory.  An absolute path is seen the same from everywhere. -/
def join (base path : String) : String :=
  if isAbsolute path ∨ base = "" then path
  else if base.toList.getLast? = some '/' then base ++ path
  else base ++ "/" ++ path

/-! ## 3. Cleaning -/

/-- Takes one more step behind clean ones, which are given last first. -/
def cleanStep (steps : List Component) (next : Component) : List Component :=
  match next with
  | .current => steps
  | .parent =>
    match steps with
    | .root :: _ => steps
    | .name _ :: rest => rest
    | _ => .parent :: steps
  | step => step :: steps

/-- The steps without those that the next one takes back. -/
def cleanComponents (steps : List Component) : List Component :=
  (steps.foldl cleanStep []).reverse

/-- The shortest path that lexically names the same place. -/
def clean (path : String) : String :=
  match cleanComponents (components path.toList) with
  | [] => "."
  | steps => String.ofList (ofComponents steps)

/-- The clean path as seen from the working directory. -/
def absolute (cwd path : String) : String := clean (join cwd path)

/-- The steps below a directory, if the path is the directory or below it. -/
def below? (root path : String) : Option (List Component) :=
  let rec go : List Component → List Component → Option (List Component)
    | [], steps => some steps
    | _ :: _, [] => none
    | a :: as, b :: bs => if a = b then go as bs else none
  go (components root.toList) (components path.toList)

/-- The directory that a path stands in, if it has a last step. -/
def parent? (path : String) : Option String :=
  match (components path.toList).reverse with
  | [] => none
  | .root :: _ => none
  | _ :: rest => some (String.ofList (ofComponents rest.reverse))

end Path
end Playtest
