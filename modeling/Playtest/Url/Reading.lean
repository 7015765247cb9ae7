/-
# Reading URLs

A URL is read from a text, and a reference may leave out parts that a base URL has.  Blanks and
control characters around the text and line breaks inside it mean nothing.

What follows the scheme depends on its kind.  A scheme that names a machine has an authority
however many slashes there are; but with fewer than two, and a base of the same scheme, it is
relative to the base.  A file may have a host behind two slashes.  Any other scheme has an
authority behind two slashes, a hierarchical path behind one, and a plain text otherwise.
-/
import Playtest.Url.Basic

namespace Playtest
namespace Url

/-! ## 1. Text -/

/-- The text without what means nothing in it. -/
def cleaned (s : String) : List Char :=
  let isEdge (c : Char) : Bool := c.toNat ≤ 0x20
  let front := s.toList.dropWhile isEdge
  let text := (front.reverse.dropWhile isEdge).reverse
  text.filter fun c => c ≠ '\t' && c ≠ '\n' && c ≠ '\r'

/-- Nothing is left out of a text without blanks at its ends and without line breaks. -/
theorem cleaned_eq_self {s : List Char} (starts : ∀ c ∈ s.head?, 0x20 < c.toNat)
    (ends : ∀ c ∈ s.getLast?, 0x20 < c.toNat) (kept : ∀ c ∈ s, c ≠ '\t' ∧ c ≠ '\n' ∧ c ≠ '\r') :
    cleaned (String.ofList s) = s := by
  have noEdge {c : Char} (hc : 0x20 < c.toNat) : decide (c.toNat ≤ 0x20) = false :=
    decide_eq_false (Nat.not_le.2 hc)
  have front : s.dropWhile (fun c => decide (c.toNat ≤ 0x20)) = s :=
    Text.dropWhile_of_head? fun c hc => noEdge (starts c hc)
  have text : (s.reverse.dropWhile (fun c => decide (c.toNat ≤ 0x20))).reverse = s :=
    Text.dropWhileEnd_of_getLast? fun c hc => noEdge (ends c hc)
  simp only [cleaned, String.toList_ofList]
  rw [front, text]
  refine List.filter_eq_self.2 fun c hc => ?_
  simp [kept c hc]

/-- The scheme and what follows its colon. -/
def cutScheme? (s : List Char) : Option (String × List Char) := do
  let (scheme, rest) ← Text.cutAt? ':' s
  let first ← scheme.head?
  if first.isAlpha ∧ scheme.all (fun c => c.isAlphanum || c == '+' || c == '-' || c == '.') then
    some (String.ofList (scheme.map Char.toLower), rest)
  else none

/-- The query and the fragment of what follows a path. -/
def readTail (kind : SchemeKind) (s : List Char) : Option (List Char) × Option (List Char) :=
  let fragment := encode isFragmentEncoded
  match s with
  | '?' :: rest =>
    let isEncoded := if kind.isSpecial then isSpecialQueryEncoded else isQueryEncoded
    match Text.cutAt? '#' rest with
    | some (query, rest) => (some (encode isEncoded query), some (fragment rest))
    | none => (some (encode isEncoded rest), none)
  | '#' :: rest => (none, some (fragment rest))
  | _ => (none, none)

/-- The character begins the query or the fragment. -/
def isTailMark (c : Char) : Bool := c == '?' || c == '#'

/-- The part of a text before the query and the fragment. -/
def beforeTail (s : List Char) : List Char := s.takeWhile fun c => !isTailMark c

/-- The query and the fragment of a text, with their marks. -/
def tailOf (s : List Char) : List Char := s.dropWhile fun c => !isTailMark c

/-- The URL with the query and the fragment of a text. -/
def withTail (url : Url) (s : List Char) : Url :=
  let tail := readTail url.kind (tailOf s)
  { url with query? := tail.1, fragment? := tail.2 }

/-- A URL with a hierarchical path. -/
def hierarchical (scheme : String) (authority? : Option Authority) (path : List Char)
    (s : List Char) : Url :=
  withTail ⟨scheme, authority?, .path path, none, none⟩ s

/-! ## 2. Authorities -/

/-- The text of an authority and what follows it. -/
def cutAuthority (kind : SchemeKind) (s : List Char) : List Char × List Char :=
  let isEnd (c : Char) : Bool := isSlash kind c || isTailMark c
  (s.takeWhile fun c => !isEnd c, s.dropWhile fun c => !isEnd c)

/-- The credentials before the last at sign, and the rest of an authority. -/
def cutCredentials? (s : List Char) : Option (List Char × List Char) :=
  (Text.cutAt? '@' s.reverse).map fun p => (p.2.reverse, p.1.reverse)

/-- The username and the password of credentials. -/
def readCredentials (s : List Char) : List Char × List Char :=
  let (username, password) := (Text.cutAt? ':' s).getD (s, [])
  (encode isUserinfoEncoded username, encode isUserinfoEncoded password)

/-- The host, and the port behind its colon.  A colon between brackets is no such colon. -/
def cutPort (isInBrackets : Bool) : List Char → List Char × Option (List Char)
  | [] => ([], none)
  | c :: rest =>
    if c = ':' ∧ !isInBrackets then ([], some rest)
    else
      let isInBrackets := if c = '[' then true else if c = ']' then false else isInBrackets
      let (host, port?) := cutPort isInBrackets rest
      (c :: host, port?)

/-- A port.  The one that the scheme has anyway is left out. -/
def readPort (scheme : String) (s : List Char) : Except Error (Option Nat) :=
  -- a backslash ends a port even where it is no slash
  let digits := s.takeWhile (· ≠ '\\')
  if !digits.all Char.isDigit then
    .error .invalidPort
  else if digits = [] then .ok none
  else
    let port := digits.foldl (fun n c => n * 10 + (c.toNat - 48)) 0
    if 65535 < port then .error .invalidPort
    else if specialSchemes.contains (scheme, some port) then .ok none
    else .ok (some port)

/-- An authority and what follows it, behind its slashes. -/
def readAuthority [Idna] (scheme : String) (s : List Char) :
    Except Error (Authority × List Char) := do
  let kind := SchemeKind.ofScheme scheme
  let (text, rest) := cutAuthority kind s
  let (credentials?, text) :=
    match cutCredentials? text with
    | some (credentials, text) => (some credentials, text)
    | none => (none, text)
  let (username, password) := readCredentials (credentials?.getD [])
  let hasCredentials := username ≠ [] ∨ password ≠ []
  if credentials? = some [] ∧ text = [] ∧ rest ≠ [] then throw .emptyHost
  let (hostText, port?) := cutPort false text
  if kind = .machine ∧ hostText = [] then throw .emptyHost
  let host ← if kind = .plain then Host.parsePlain hostText else Host.parse hostText
  if host = .domain [] ∧ port?.isSome then throw .emptyHost
  let port ← readPort scheme (port?.getD [])
  if host = .domain [] ∧ hasCredentials then throw .emptyHost
  -- what a backslash cuts off a port belongs to the path
  let cutOff := (port?.getD []).dropWhile (· ≠ '\\')
  return (⟨username, password, host, port⟩, cutOff ++ rest)

/-- The URL that an authority begins, behind its slashes. -/
def readAfterSlashes [Idna] (scheme : String) (s : List Char) : Except Error Url := do
  let kind := SchemeKind.ofScheme scheme
  let (authority, rest) ← readAuthority scheme s
  let text := beforeTail rest
  let path :=
    if kind.isSpecial then
      match text with
      | [] => ['/']
      | _ :: text => (readPath kind ['/'] text).1
    else
      match text with
      | [] => []
      | '/' :: text => (readPath kind ['/'] text).1
      | text => (readPath kind ['/'] text).1
  return hierarchical scheme (some authority) path rest

/-! ## 3. Files -/

/-- An authority that names no machine. -/
def noHost : Authority := ⟨[], [], .domain [], none⟩

/-- The URL of a file behind its two slashes. -/
def readFileHost [Idna] (s : List Char) : Except Error Url := do
  let (text, rest) := (s.takeWhile (fun c => !isSlash .file c && !isTailMark c),
    s.dropWhile (fun c => !isSlash .file c && !isTailMark c))
  let (text, rest) := if isDrive text then ([], s) else (text, rest)
  let host ← if text = [] then pure (.domain []) else Host.parse text
  let host := if host = .domain "localhost".toList then .domain [] else host
  if host = .domain [] then
    return hierarchical "file" (some noHost) (readPath .file ['/'] (beforeTail rest)).1 rest
  else
    let (path, hasDrive) := readPath .file ['/'] ((beforeTail rest).drop 1)
    let authority := if hasDrive then noHost else { noHost with host := host }
    return hierarchical "file" (some authority) path rest

/-- The text begins with a segment that is a drive letter. -/
def startsWithDriveSegment (s : List Char) : Bool := 2 ≤ s.length && startsWithDrive s

/-- The hierarchical path of a URL. -/
def pathText (url : Url) : List Char :=
  match url.place with
  | .path text => text
  | .opaqueText text => text

/-- The first segment of a path. -/
def firstSegment (path : List Char) : List Char := (path.drop 1).takeWhile (· ≠ '/')

/-- The URL without its fragment. -/
def withoutFragment (url : Url) : Url := { url with fragment? := none }

/-- The URL of a file, perhaps relative to that of another. -/
def readFile [Idna] (base? : Option Url) (s : List Char) : Except Error Url :=
  let alone (path : List Char) : Except Error Url :=
    .ok (hierarchical "file" (some noHost) (readPath .file path (beforeTail s)).1 s)
  match s with
  | a :: rest =>
    if isSlash .file a then
      match rest with
      | b :: rest' => if isSlash .file b then readFileHost rest' else oneSlash rest
      | [] => oneSlash rest
    else
      match base? with
      | none => alone ['/']
      | some base =>
        if isTailMark a then
          if a = '?' then .ok (base.withTail s)
          else .ok { base with fragment? := (readTail .file s).2 }
        else if startsWithDriveSegment s then alone ['/']
        else
          let path := dropLastSegment .file base.pathText
          .ok (hierarchical "file" base.authority? (readPath .file path (beforeTail s)).1 s)
  | [] =>
    match base? with
    | none => alone ['/']
    | some base => .ok base.withoutFragment
where
  oneSlash (rest : List Char) : Except Error Url :=
    let read (authority : Option Authority) (path : List Char) : Except Error Url :=
      .ok (hierarchical "file" authority (readPath .file path (beforeTail s)).1 s)
    match base? with
    | none => read (some noHost) []
    | some base =>
      let drive := firstSegment base.pathText
      if startsWithDriveSegment rest then read (some noHost) []
      else if isPlainDrive drive then read (some noHost) ('/' :: drive)
      else read base.authority? []

/-! ## 4. Relative references -/

/-- A reference with the scheme of its base. -/
def readRelative [Idna] (base : Url) (s : List Char) : Except Error Url :=
  let kind := base.kind
  let read (path text : List Char) : Except Error Url :=
    .ok (hierarchical base.scheme base.authority? (readPath kind path (beforeTail text)).1 text)
  match s with
  | [] => .ok base.withoutFragment
  | '?' :: _ => .ok (base.withTail s)
  | '#' :: _ => .ok { base with fragment? := (readTail kind s).2 }
  | a :: rest =>
    if a = '/' ∨ a = '\\' then
      match s with
      | '/' :: '/' :: rest' => readAfterSlashes base.scheme rest'
      | _ =>
        let rest' := s.dropWhile fun c => c == '/' || c == '\\'
        if rest'.length + 2 ≤ s.length then readAfterSlashes base.scheme rest'
        else read ['/'] rest
    else
      let path := dropLastSegment kind base.pathText
      read (if path = [] then ['/'] else path) s

/-! ## 5. URLs -/

/-- A URL behind its scheme. -/
def readWithScheme [Idna] (base? : Option Url) (scheme : String) (s : List Char) :
    Except Error Url :=
  match SchemeKind.ofScheme scheme with
  | .file => readFile (base?.filter (·.scheme == "file")) s
  | .machine =>
    let rest := s.dropWhile fun c => c == '/' || c == '\\'
    match base?.filter (·.scheme == scheme) with
    | some base =>
      if s.length < rest.length + 2 then readRelative base s else readAfterSlashes scheme rest
    | none => readAfterSlashes scheme rest
  | .plain =>
    match s with
    | '/' :: '/' :: rest => readAfterSlashes scheme rest
    | '/' :: rest =>
      .ok (hierarchical scheme none (readPath .plain ['/'] (beforeTail rest)).1 rest)
    | _ =>
      .ok (withTail ⟨scheme, none, .opaqueText (encode isControl (beforeTail s)), none, none⟩ s)

/-- Reads a URL or, if there is a base, a reference. -/
def read [Idna] (base? : Option Url) (text : String) : Except Error Url :=
  let s := cleaned text
  match cutScheme? s with
  | some (scheme, rest) => readWithScheme base? scheme rest
  | none =>
    match base? with
    | none => .error .relativeWithoutBase
    | some base =>
      match s, base.place with
      | '#' :: _, _ => .ok { base with fragment? := (readTail base.kind s).2 }
      | _, .opaqueText _ => .error .relativeToOpaque
      | _, .path _ => if base.kind = .file then readFile (some base) s else readRelative base s

/-- Reads a URL that stands alone. -/
def parse [Idna] (text : String) : Except Error Url := read none text

/-- The URL that a reference names on the page of another. -/
def join [Idna] (base : Url) (reference : String) : Except Error Url := read (some base) reference

end Url
end Playtest
