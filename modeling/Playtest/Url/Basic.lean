/-
# URLs

A URL has a scheme, mostly an authority (who answers, with credentials and port), a path, and
perhaps a query and a fragment.  Some schemes have a path without hierarchy, which is one text
and cannot be the base of a relative reference.

All parts are held in the form in which they are printed.
-/
import Playtest.Url.Hierarchy
import Playtest.Url.Host

namespace Playtest

namespace Url

/-- Credentials, host and port. -/
structure Authority where
  username : List Char := []
  password : List Char := []
  host : Host
  port? : Option Nat := none
  deriving DecidableEq, Repr

/-- The path of a URL. -/
inductive Place where
  /-- A hierarchical path: empty, or a slash and more. -/
  | path (text : List Char)
  /-- A text without hierarchy. -/
  | opaqueText (text : List Char)
  deriving DecidableEq, Repr

end Url

structure Url where
  scheme : String
  authority? : Option Url.Authority
  place : Url.Place
  query? : Option (List Char) := none
  fragment? : Option (List Char) := none
  deriving DecidableEq, Repr

namespace Url

def kind (url : Url) : SchemeKind := SchemeKind.ofScheme url.scheme

/-! ## 1. Text -/

/-- A part behind its mark, if it is there. -/
def marked (mark : Char) : Option (List Char) → List Char
  | none => []
  | some text => mark :: text

/-- The text of an authority, with the slashes before it. -/
def Authority.text (a : Authority) : List Char :=
  let password := if a.password = [] then [] else ':' :: a.password
  let credentials :=
    if a.username = [] ∧ a.password = [] then [] else a.username ++ password ++ ['@']
  ['/', '/'] ++ credentials ++ a.host.text ++ marked ':' (a.port?.map fun n => (toString n).toList)

/-- The text of a URL up to its path.  Without an authority, a path that begins with two
slashes has a point before it, so that it is not read as an authority. -/
def front (url : Url) : List Char :=
  url.scheme.toList ++ [':'] ++
    match url.authority?, url.place with
    | some a, .path text => a.text ++ text
    | some a, .opaqueText text => a.text ++ text
    | none, .path text => if "//".toList.isPrefixOf text then "/.".toList ++ text else text
    | none, .opaqueText text => text

/-- The text of a URL. -/
def href (url : Url) : String :=
  String.ofList (url.front ++ marked '?' url.query? ++ marked '#' url.fragment?)

/-! ## 2. Queries -/

/-- Puts a pair, or a name alone, at the end of the query. -/
def appendToQuery (url : Url) (item : List Char) : Url :=
  let query := url.query?.getD []
  { url with query? := some (if query = [] then item else query ++ '&' :: item) }

/-- Puts a pair of a name and a value at the end of the query. -/
def appendPair (url : Url) (name value : String) : Url :=
  url.appendToQuery (encodeForm name ++ '=' :: encodeForm value)

/-- Puts a name without a value at the end of the query. -/
def appendName (url : Url) (name : String) : Url := url.appendToQuery (encodeForm name)

end Url
end Playtest
