/-
# Settings in environment variables

A variable whose name begins with `REGTEST_` gives the setting named by the rest, in letters of
any case.  Points in the name lead into tables.

The text of a variable is a value of a small language: words and numbers as they are, texts in
quotes, lists in brackets and tables in braces.  A text that is no such value stands for itself.
-/
import Playtest.Settings.Datum
import Playtest.Text.Blank
import Playtest.Toml.Scalar
import Playtest.Variables

namespace Playtest
namespace Settings
namespace Variable

/-! ## 1. Values -/

/-- A blank of ASCII. -/
def isGap (c : Char) : Bool := c ∈ [' ', '\t', '\n', '\x0c', '\r']

def skipGap (s : List Char) : List Char := s.dropWhile isGap

/-- A character at which a bare word ends. -/
def isSeparator (c : Char) : Bool := c ∈ [',', '\x7b', '\x7d', '[', ']']

/-- What a bare word stands for. -/
def ofWord (word : List Char) : Scalar :=
  let float? := if '.' ∈ word then Binary64.parse? word else none
  match float?, Text.natUpTo? (Nat.pow 2 64 - 1) word, Text.int64 word with
  | some x, _, _ => .float x
  | none, some n, _ => .natural n
  | none, none, .ok n => .integer n
  | none, none, .error _ => .string (String.ofList word)

/-- The key of a member, with the blanks around it. -/
def readKey (s : List Char) : Option (String × List Char) := do
  let s := skipGap s
  let isKey (c : Char) : Bool := c.isAlphanum || c = '_' || c = '-'
  let (key, rest) ←
    if s.head? = some '"' then Toml.readQuoted false s
    else if (s.takeWhile isKey).isEmpty then none
    else some (String.ofList (s.takeWhile isKey), s.dropWhile isKey)
  return (key, skipGap rest)

mutual

/-- Reads a value with the blanks around it. -/
def readValue : Nat → List Char → Option (Datum × List Char)
  | 0, _ => none
  | fuel + 1, s => do
    let scalar (x : Scalar) : Datum := .scalar .environment x
    let (x, rest) ← (
      match skipGap s with
      | 't' :: 'r' :: 'u' :: 'e' :: rest => some (scalar (.boolean true), rest)
      | 'f' :: 'a' :: 'l' :: 's' :: 'e' :: rest => some (scalar (.boolean false), rest)
      | '\x7b' :: rest => do
        let (members, rest) ← readMembers fuel rest
        return (.dict .environment (Table.ofLayers [members]), rest)
      | '[' :: rest => do
        let (items, rest) ← readItems fuel rest
        return (.list .environment items, rest)
      | '"' :: rest => do
        let (text, rest) ← Toml.readQuoted false ('"' :: rest)
        return (scalar (.string text), rest)
      | '\'' :: rest =>
        match rest with
        | c :: '\'' :: rest => some (scalar (.char c), rest)
        | _ => none
      | s =>
        let word := Text.trim (s.takeWhile fun c => !isSeparator c)
        some (scalar (ofWord word), s.dropWhile fun c => !isSeparator c))
    return (x, skipGap rest)

/-- Reads the items of a list and its end. -/
def readItems : Nat → List Char → Option (List Datum × List Char)
  | 0, _ => none
  | _ + 1, ']' :: rest => some ([], rest)
  | fuel + 1, s => do
    let (item, rest) ← readValue fuel s
    match rest with
    | ',' :: rest =>
      let (items, rest) ← readItems fuel rest
      return (item :: items, rest)
    | ']' :: rest => return ([item], rest)
    | _ => failure

/-- Reads the members of a table and its end. -/
def readMembers : Nat → List Char → Option (Table × List Char)
  | 0, _ => none
  | _ + 1, '\x7d' :: rest => some ([], rest)
  | fuel + 1, s => do
    let (key, rest) ← readKey s
    let (x, rest) ← readValue fuel (← Toml.readMark '=' rest)
    match rest with
    | ',' :: rest =>
      let (members, rest) ← readMembers fuel rest
      return ((key, x) :: members, rest)
    | '\x7d' :: rest => return ([(key, x)], rest)
    | _ => failure

end

/-- The value of a variable. -/
def value (text : String) : Datum :=
  match readValue (text.length + 1) text.toList with
  | some (x, []) => x
  | _ => .scalar .environment (.string text)

/-! ## 2. Names -/

/-- The start of the names. -/
def start : List Char := "regtest_".toList

/-- The keys that a name leads through, if it names a setting. -/
def keys? (name : String) : Option (List String) := do
  let lower := (Text.trim name.toList).map Char.toLower
  let rest ← Text.after? start lower
  let parts := Text.splitAt '.' (Text.trim rest)
  guard ([] ∉ parts)
  return parts.map String.ofList

/-- The table with one value under some keys. -/
def nested (x : Datum) : List String → Table
  | [] => []
  | [key] => [(key, x)]
  | key :: path => [(key, .dict .environment (nested x path))]

end Variable

/-- The settings that environment variables give. -/
def ofVariables (vars : Variables) : Table :=
  Table.ofLayers (vars.filterMap fun (name, text) =>
    (Variable.keys? name).map (Variable.nested (Variable.value text)))

end Settings
end Playtest
