/-
# TOML documents

A document is read line by line.  A header opens a table, and every `key = value` line after it
adds to the table that was opened last.

Lists and tables in braces nest, and so does a dotted key.  Both are limited, and a document
that goes deeper is refused like any other that is not well formed.
-/
import Playtest.Toml.Scalar

namespace Playtest
namespace Toml

/-! ## 1. Blanks and comments -/

/-- What follows a line break at the start of a text. -/
def afterBreak : List Char → Option (List Char)
  | '\n' :: rest => some rest
  | '\r' :: '\n' :: rest => some rest
  | _ => none

/-- The text without the comment at its start. -/
def skipComment : List Char → List Char
  | '#' :: rest => rest.dropWhile isPlain
  | s => s

/-- What follows the end of a line, where a comment may stand.  A text may end without a line
break. -/
def afterLine (s : List Char) : Option (List Char) :=
  match skipComment (skipSpaces s) with
  | [] => some []
  | s => afterBreak s

/-- The text without spaces, line breaks and comments at its start. -/
def skipLines (inComment : Bool) : List Char → List Char
  | [] => []
  | c :: rest =>
    let isBreak : Bool := c == '\n' || (c == '\r' && rest.head? == some '\n')
    if isBreak then skipLines (inComment && c == '\r') rest
    else if inComment then if isPlain c then skipLines true rest else c :: rest
    else if isSpace c then skipLines false rest
    else if c = '#' then skipLines true rest
    else c :: rest

/-! ## 2. Keys -/

/-- The number of parts that a key may not have, and of lists and braces around a value. -/
def depthLimit : Nat := 80

/-- A character of a key without quotes. -/
def isBare (c : Char) : Bool := c.isAlphanum || c = '_' || c = '-'

/-- One part of a key. -/
def readPart (s : List Char) : Option (String × List Char) :=
  match s.takeWhile isBare with
  | [] => readQuoted false s
  | part => some (String.ofList part, s.dropWhile isBare)

/-- The parts of a key behind a first one, each behind a dot. -/
def readParts : Nat → List Char → Option (List String × List Char)
  | 0, _ => none
  | fuel + 1, s => do
    let (part, rest) ← readPart (skipSpaces s)
    match skipSpaces rest with
    | '.' :: rest =>
      let (parts, rest) ← readParts fuel rest
      return (part :: parts, rest)
    | rest => return ([part], rest)

/-- Reads a key with the spaces around it. -/
def readKey (s : List Char) : Option (List String × List Char) := readParts (depthLimit - 1) s

/-! ## 3. Values -/

mutual

/-- Reads a value that stands within `depth` others. -/
def readValue (depth : Nat) : Nat → List Char → Option (Value × List Char)
  | 0, _ => none
  | fuel + 1, s =>
    match s with
    | '[' :: rest => do
      guard (depth + 1 < depthLimit)
      let (items, rest) ← readItems (depth + 1) fuel (skipLines false rest)
      return (.array items, rest)
    | '\x7b' :: rest => do
      guard (depth + 1 < depthLimit)
      match skipSpaces rest with
      | '\x7d' :: rest => return (.table .braces [], rest)
      | rest =>
        let (members, rest) ← readMembers (depth + 1) fuel rest []
        return (.table .braces members, rest)
    | s => readScalar s

/-- Reads the items of a list and its end.  A comma may stand behind the last item. -/
def readItems (depth : Nat) : Nat → List Char → Option (List Value × List Char)
  | 0, _ => none
  | fuel + 1, s =>
    match s with
    | ']' :: rest => some ([], rest)
    | s => do
      let (item, rest) ← readValue depth fuel s
      match skipLines false rest with
      | ',' :: rest =>
        let (items, rest) ← readItems depth fuel (skipLines false rest)
        return (item :: items, rest)
      | ']' :: rest => return ([item], rest)
      | _ => failure

/-- Reads the members of a table in braces and its end, and adds them to those read before. -/
def readMembers (depth : Nat) : Nat → List Char → Members → Option (Members × List Char)
  | 0, _, _ => none
  | fuel + 1, s, before => do
    let (key, rest) ← readKey s
    let rest ← readMark '=' rest
    let (v, rest) ← readValue depth fuel (skipSpaces rest)
    let members ← addKey false true before key v
    match skipSpaces rest with
    | ',' :: rest => readMembers depth fuel rest members
    | '\x7d' :: rest => return (members, rest)
    | _ => failure

end

/-! ## 4. Documents -/

/-- A document as far as it is read. -/
structure Draft where
  /-- The key of the table that was opened last. -/
  path : List String
  members : Members

/-- Opens the table of a header. -/
def Draft.enter (draft : Draft) (isAppended : Bool) (path : List String) : Option Draft := do
  let last ← path.getLast?
  let change := if isAppended then appendTable last else openTable last
  return ⟨path, ← changeAt change path.dropLast draft.members⟩

/-- Reads one line. -/
def Draft.readLine (draft : Draft) (s : List Char) : Option (Draft × List Char) :=
  match skipSpaces s with
  | '[' :: '[' :: rest => do
    let (path, rest) ← readKey rest
    let rest ← afterLine (← readMark ']' (← readMark ']' rest))
    return (← draft.enter true path, rest)
  | '[' :: rest => do
    let (path, rest) ← readKey rest
    let rest ← afterLine (← readMark ']' rest)
    return (← draft.enter false path, rest)
  | s =>
    match skipComment s with
    | [] => some (draft, [])
    | s =>
      match afterBreak s with
      | some rest => some (draft, rest)
      | none => do
        let (key, rest) ← readKey s
        let rest ← readMark '=' rest
        let (v, rest) ← readValue 0 (2 * rest.length + 2) (skipSpaces rest)
        let rest ← afterLine rest
        return ({ draft with members := ← addAt draft.path key v draft.members }, rest)

/-- Reads lines to the end. -/
def Draft.readLines (draft : Draft) : Nat → List Char → Option Draft
  | _, [] => some draft
  | 0, _ => none
  | fuel + 1, s => do
    let (draft, rest) ← draft.readLine s
    readLines draft fuel rest

/-- The table that a text denotes, or nothing if the text is not well formed.  A mark of byte
order at its start is left out. -/
def document? (text : String) : Option Members := do
  let s :=
    match text.toList with
    | '\uFEFF' :: s => s
    | s => s
  let draft ← Draft.readLines ⟨[], []⟩ (s.length + 1) s
  return draft.members

end Toml
end Playtest
