/-
# Hierarchical paths

The path of a URL is a row of segments, each with a slash before it.  It is read segment by
segment behind a path that is already there: a point leaves the path as it is, two points take
its last segment away, and any other segment is put at its end.

The drive letter of a file (`C:`, also written `C|`) is never taken away.
-/
import Playtest.Text.Search
import Playtest.Url.Percent

namespace Playtest
namespace Url

/-- How a scheme reads what follows it. -/
inductive SchemeKind where
  /-- Schemes that name a machine, such as `http`. -/
  | machine
  | file
  /-- All other schemes. -/
  | plain
  deriving DecidableEq, Repr

def SchemeKind.isSpecial (kind : SchemeKind) : Bool := kind ≠ .plain

/-- The schemes with a meaning of their own, and the ports of those that have one. -/
def specialSchemes : List (String × Option Nat) :=
  [("http", some 80), ("https", some 443), ("ws", some 80), ("wss", some 443),
    ("ftp", some 21), ("file", none)]

def SchemeKind.ofScheme (scheme : String) : SchemeKind :=
  if scheme = "file" then .file
  else if specialSchemes.any (·.1 == scheme) then .machine
  else .plain

/-! ## 1. Slashes and drive letters -/

/-- The character separates segments. -/
def isSlash (kind : SchemeKind) (c : Char) : Bool := c == '/' || (kind.isSpecial && c == '\\')

/-- The segments of a text: one more than there are slashes. -/
def segments (kind : SchemeKind) : List Char → List (List Char)
  | [] => [[]]
  | c :: rest =>
    if isSlash kind c then [] :: segments kind rest
    else
      match segments kind rest with
      | [] => [[c]]
      | part :: parts => (c :: part) :: parts

/-- A letter and a colon or a bar. -/
def isDrive : List Char → Bool
  | [a, b] => a.isAlpha && (b == ':' || b == '|')
  | _ => false

/-- A letter and a colon. -/
def isPlainDrive : List Char → Bool
  | [a, b] => a.isAlpha && b == ':'
  | _ => false

/-- The text is a drive letter, or goes on behind one with a new part. -/
def startsWithDrive (s : List Char) : Bool :=
  isDrive (s.take 2) && (s.drop 2).head?.all fun c => c == '/' || c == '\\' || c == '?' || c == '#'

/-- The part of a path behind its last slash. -/
def lastSegment (path : List Char) : List Char :=
  (path.reverse.takeWhile (· ≠ '/')).reverse

/-- The path up to its last slash. -/
def upToSlash (path : List Char) : List Char := path.take (path.length - (lastSegment path).length)

/-- Takes away what stands behind the last slash. -/
def dropLastSegment (kind : SchemeKind) (path : List Char) : List Char :=
  if kind = .file ∧ isPlainDrive (lastSegment path) then path else upToSlash path

/-! ## 2. Segments -/

/-- A text with a point written as itself or percent-encoded. -/
def pointForms : List (List Char) := [".", "%2e", "%2E"].map String.toList

/-- The segment leaves the path as it is. -/
def isPoint (s : List Char) : Bool := pointForms.contains s

/-- The segment takes the last one away. -/
def isTwoPoints (s : List Char) : Bool := pointForms.any fun a => pointForms.any fun b => s = a ++ b

/-- The path has a slash at its end. -/
def endsInSlash (path : List Char) : Bool := path.getLast? = some '/'

/-- The path with a slash at its end. -/
def withSlash (path : List Char) : List Char := if endsInSlash path then path else path ++ ['/']

/-- The path without its last segment. -/
def goUp (kind : SchemeKind) (path : List Char) : List Char :=
  if endsInSlash path then
    let front := path.dropLast
    if front.contains '/' ∧ !startsWithDrive (lastSegment front ++ ['/']) then
      dropLastSegment kind front
    else path
  else dropLastSegment kind path

/-- Reads one segment behind a path.  `closed` says that a slash follows it.  The answer says
also whether the path is now a drive letter. -/
def addSegment (kind : SchemeKind) (path segment : List Char) (closed : Bool) :
    List Char × Bool :=
  let slash := if closed then ['/'] else []
  let isFile := kind = .file
  if isFile ∧ path = ['/'] ∧ isPlainDrive (segment.take 2) ∧ 2 < segment.length then
    (path ++ segment.take 2 ++ ['/'] ++ encode isPathEncoded (segment.drop 2) ++ slash, false)
  else
    let path := if isFile ∧ isPlainDrive (path.drop 1) ∧ segment ≠ [] then path ++ ['/'] else path
    let text := encode isPathEncoded segment
    if isTwoPoints text then
      let up := goUp kind path
      (if closed then withSlash up else up, false)
    else if isPoint text then (withSlash path, false)
    else if isFile ∧ path.length = 1 ∧ isDrive text then
      (path ++ text.take 1 ++ [':'] ++ slash, true)
    else (path ++ text ++ slash, false)

/-- Reads segments behind a path.  The answer says also whether a drive letter was read. -/
def addSegments (kind : SchemeKind) (path : List Char) : List (List Char) → List Char × Bool
  | [] => (path, false)
  | [segment] => addSegment kind path segment false
  | segment :: rest =>
    let (path, isDrive) := addSegment kind path segment true
    let (path, isDrive') := addSegments kind path rest
    (path, isDrive || isDrive')

/-- Reads a path behind one that is already there.  A path of files has one slash at its
beginning. -/
def readPath (kind : SchemeKind) (path : List Char) (s : List Char) : List Char × Bool :=
  let (path, isDrive) := addSegments kind path (segments kind s)
  (if kind = .file then '/' :: path.dropWhile (· == '/') else path, isDrive)

end Url
end Playtest
