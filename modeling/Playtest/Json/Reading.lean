/-
# Reading JSON values

A value is read from its lexemes, one lexeme at a time.  The containers that are open stand on
a stack with what they hold so far, and a state says what may come next.  Nesting is limited,
so that a hostile text cannot exhaust the reader.

A value that is not wanted is passed over instead.  That is more lenient: nesting is not
limited, and a string or number needs no value.
-/
import Playtest.Json.Lexeme

namespace Playtest
namespace Json

/-! ## 1. Open containers -/

/-- A container that is being read, with what it holds so far, last first. -/
inductive Opened where
  | array (items : List Value)
  /-- The value of `key` is being read. -/
  | object (members : List (String × Value)) (key : String)

/-- What may come next. -/
inductive Next where
  /-- A value. -/
  | value
  /-- A value or the end of the array just opened. -/
  | firstItem
  /-- A key or the end of the object just opened. -/
  | firstKey
  /-- A key. -/
  | key
  /-- A colon. -/
  | colon
  /-- A comma or the end of the innermost container. -/
  | more
  deriving DecidableEq

/-- Whether the value is wanted or passed over. -/
inductive Purpose where
  | wanted
  | unwanted
  deriving DecidableEq

/-- Puts a complete value into the innermost container. -/
def Opened.add (v : Value) : Opened → Opened
  | .array items => .array (v :: items)
  | .object members key => .object ((key, v) :: members) ""

/-- The value of a container that has ended. -/
def Opened.value : Opened → Value
  | .array items => .array items.reverse
  | .object members _ => .object members.reverse

/-! ## 2. Faults by state -/

/-- The fault of a text that ends in this state. -/
def endFault (purpose : Purpose) (next : Next) (stack : List Opened) : Fault :=
  let cause : Cause :=
    match next, stack with
    | .value, _ => .eofValue
    | .firstItem, _ => .eofList
    | .firstKey, _ => .eofObject
    | .key, _ => if purpose = .wanted then .eofValue else .eofObject
    | .colon, _ => .eofObject
    | .more, .array _ :: _ => .eofList
    | .more, _ => .eofObject
  ⟨cause, some 0⟩

/-- The value of a lexeme that is a value of its own. -/
def scalar (purpose : Purpose) (x : Lexeme) : Except Fault Value :=
  match x.token, purpose with
  | .string text, .wanted => text.map .string
  | .number n, .wanted => n.map .number
  | .string _, .unwanted => .ok .null
  | .number _, .unwanted => .ok .null
  | .literal v, _ => .ok v
  | .brokenNumber ⟨.eofValue, left⟩, .unwanted => .error ⟨.invalidNumber, left⟩
  | .brokenString f, _ => .error f
  | .brokenNumber f, _ => .error f
  | .brokenLiteral f, _ => .error f
  | _, _ => .error (x.peeked .expectedValue)

/-- The key of a member. -/
def keyOf (purpose : Purpose) (x : Lexeme) : Except Fault String :=
  match x.token, purpose with
  | .string text, .wanted => text
  | .string _, .unwanted => .ok ""
  | .brokenString f, _ => .error f
  | _, _ => .error (x.peeked .keyNotString)

/-! ## 3. The reader -/

/-- Reads on, with `room` for that many containers inside one another.  Gives the value and
the lexemes behind it. -/
def readFrom (purpose : Purpose) (room : Nat) (stack : List Opened) (next : Next) :
    List Lexeme → Except Fault (Value × List Lexeme)
  | [] => .error (endFault purpose next stack)
  | x :: rest =>
    let deliver (v : Value) (stack : List Opened) : Except Fault (Value × List Lexeme) :=
      match stack with
      | [] => .ok (v, rest)
      | top :: below => readFrom purpose room (top.add v :: below) .more rest
    let start : Except Fault (Value × List Lexeme) :=
      match x.token with
      | .openArray =>
        if purpose = .wanted ∧ room ≤ stack.length then .error (x.peeked .tooDeep)
        else readFrom purpose room (.array [] :: stack) .firstItem rest
      | .openObject =>
        if purpose = .wanted ∧ room ≤ stack.length then .error (x.peeked .tooDeep)
        else readFrom purpose room (.object [] "" :: stack) .firstKey rest
      | _ => do deliver (← scalar purpose x) stack
    let startKey : Except Fault (Value × List Lexeme) := do
      let key ← keyOf purpose x
      match stack with
      | .object members _ :: below =>
        readFrom purpose room (.object members key :: below) .colon rest
      | _ => .error (x.peeked .expectedValue)
    match next with
    | .value => start
    | .firstItem =>
      match x.token, stack with
      | .closeArray, top :: below => deliver top.value below
      | _, _ => start
    | .firstKey =>
      match x.token, stack with
      | .closeObject, top :: below => deliver top.value below
      | _, _ => startKey
    | .key =>
      match x.token with
      | .closeObject =>
        .error (x.peeked (if purpose = .wanted then .trailingComma else .keyNotString))
      | _ => startKey
    | .colon =>
      match x.token with
      | .colon => readFrom purpose room stack .value rest
      | _ => .error (x.peeked .expectedColon)
    | .more =>
      match x.token, stack with
      | .closeArray, .array items :: below => deliver (Opened.array items).value below
      | .comma, .array items :: below =>
        match purpose, rest with
        | .wanted, ⟨.closeArray, start, _⟩ :: _ =>
          .error ⟨.trailingComma, some (byteLength start - 1)⟩
        | _, _ => readFrom purpose room (.array items :: below) .value rest
      | .closeObject, .object members key :: below =>
        deliver (Opened.object members key).value below
      | .comma, .object members key :: below =>
        readFrom purpose room (.object members key :: below) .key rest
      | _, .array _ :: _ => .error (x.peeked .expectedListEnd)
      | _, _ => .error (x.peeked .expectedObjectEnd)

/-- The most containers inside one another. -/
def maxDepth : Nat := 127

/-- Reads one value. -/
def readValue (room : Nat) (xs : List Lexeme) : Except Fault (Value × List Lexeme) :=
  readFrom .wanted room [] .value xs

/-- Passes over one value. -/
def skipValue (xs : List Lexeme) : Except Fault (List Lexeme) :=
  (readFrom .unwanted 0 [] .value xs).map (·.2)

/-- Nothing may follow the value of a text. -/
def finish {α : Type} (v : α) : List Lexeme → Except Fault α
  | [] => .ok v
  | x :: _ => .error (x.peeked .trailingCharacters)

/-- Reads a text that holds one value. -/
def parse (s : String) : Except Fault Value := do
  let (v, rest) ← readValue maxDepth (lexemes s.toList)
  finish v rest

end Json
end Playtest
