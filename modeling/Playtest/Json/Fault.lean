/-
# What can be wrong with a JSON text

A text can break off, break the grammar, or hold a value of the wrong shape.  The first two
have a place in the text, given as the number of bytes that follow it, so that a reader which
holds only the rest of the text can name the place.
-/

namespace Playtest
namespace Json

/-! ## 1. Causes -/

/-- The three classes of faults. -/
inductive Category where
  | eof
  | grammar
  | data
  deriving DecidableEq, Repr

/-- The name of the class. -/
def Category.name : Category → String
  | .eof => "eof"
  | .grammar => "syntax"
  | .data => "data"

/-- What is wrong. -/
inductive Cause where
  | eofList
  | eofObject
  | eofString
  | eofValue
  | expectedColon
  | expectedListEnd
  | expectedObjectEnd
  | expectedIdent
  | expectedValue
  | invalidEscape
  | invalidNumber
  | numberOutOfRange
  | controlCharacter
  | keyNotString
  | loneSurrogate
  | trailingComma
  | trailingCharacters
  | unexpectedEscapeEnd
  | tooDeep
  /-- The grammar is kept, but the value has the wrong shape. -/
  | shape (message : String)
  deriving DecidableEq, Repr

namespace Cause

def category : Cause → Category
  | .eofList | .eofObject | .eofString | .eofValue => .eof
  | .shape _ => .data
  | _ => .grammar

def message : Cause → String
  | .eofList => "EOF while parsing a list"
  | .eofObject => "EOF while parsing an object"
  | .eofString => "EOF while parsing a string"
  | .eofValue => "EOF while parsing a value"
  | .expectedColon => "expected `:`"
  | .expectedListEnd => "expected `,` or `]`"
  | .expectedObjectEnd => "expected `,` or `\x7d`"
  | .expectedIdent => "expected ident"
  | .expectedValue => "expected value"
  | .invalidEscape => "invalid escape"
  | .invalidNumber => "invalid number"
  | .numberOutOfRange => "number out of range"
  | .controlCharacter => "control character (\\u0000-\\u001F) found while parsing a string"
  | .keyNotString => "key must be a string"
  | .loneSurrogate => "lone leading surrogate in hex escape"
  | .trailingComma => "trailing comma"
  | .trailingCharacters => "trailing characters"
  | .unexpectedEscapeEnd => "unexpected end of hex escape"
  | .tooDeep => "recursion limit exceeded"
  | .shape message => message

end Cause

/-! ## 2. Faults and their places -/

/-- A fault, with the number of bytes that follow its place if it has one. -/
structure Fault where
  cause : Cause
  left? : Option Nat := none
  deriving DecidableEq, Repr

/-- The number of bytes of a text. -/
def byteLength : List Char → Nat
  | [] => 0
  | c :: s => c.utf8Size + byteLength s

namespace Fault

/-- The fault, placed here unless it has a place already. -/
def placedAt (f : Fault) (left : Nat) : Fault := { f with left? := some (f.left?.getD left) }

/-- The line and column of the place that `left` bytes follow.  Lines count from one, and the
column is the number of bytes of the line before the place. -/
def lineColumn (s : List Char) (left : Nat) : Nat × Nat :=
  let rec go (offset line column : Nat) : List Char → Nat × Nat
    | [] => (line, column + offset)
    | c :: rest =>
      if offset < c.utf8Size then (line, column + offset)
      else if c = '\n' then go (offset - 1) (line + 1) 0 rest
      else go (offset - c.utf8Size) line (column + c.utf8Size) rest
  go (byteLength s - left) 1 0 s

/-- The text of the fault, with its place in the text read. -/
def describe (f : Fault) (s : List Char) : String :=
  match f.left? with
  | none => f.cause.message
  | some left =>
    let (line, column) := lineColumn s left
    f.cause.message ++ " at line " ++ toString line ++ " column " ++ toString column

end Fault
end Json
end Playtest
