/-
# Messages from the page

The page calls two functions that the driver binds in it: one with data, as a JSON text, and
one with lines for the log.  Data is either text that the game printed or the kind of input
the game now asks for.

Reading the data is strict about the fields it knows: each must be there once and have the
right shape.  Fields it does not know are passed over.  The forms that a value may be written
in besides its plain one are listed with each reader.
-/
import Playtest.Bridge.Command
import Playtest.Json.Reading
import Playtest.Text.Quoted

namespace Playtest

/-! ## 1. Messages -/

/-- What the page reports as data. -/
inductive BridgeEvent where
  /-- The game printed text. -/
  | bufferText (text : String)
  /-- The game asks for input. -/
  | inputRequested (kind : InputKind)
  deriving DecidableEq, Repr

/-- A message from the page. -/
inductive Message where
  | data (event : BridgeEvent)
  | log (line : String)
  deriving DecidableEq, Repr

namespace BridgeEvent

/-- The event as a JSON value. -/
def json : BridgeEvent → Json.Value
  | .bufferText text => .object [("type", .string "buffertext"), ("text", .string text)]
  | .inputRequested kind =>
    .object [("type", .string "input_requested"), ("kind", .string kind.name)]

end BridgeEvent

/-! ## 2. Faults of shape -/

namespace Wire

open Json (Fault Lexeme Token Value)

/-- A fault of shape, not yet placed. -/
def shape (message : String) : Fault := ⟨.shape message, none⟩

/-- The choice between names, as messages list it. -/
def oneOf (names : List String) : String :=
  let ticked := names.map fun n => "`" ++ n ++ "`"
  match ticked with
  | [a] => a
  | [a, b] => a ++ " or " ++ b
  | all => "one of " ++ ", ".intercalate all

def unknownVariant (name : String) (names : List String) : Fault :=
  shape ("unknown variant `" ++ name ++ "`, expected " ++ oneOf names)

def missingField (name : String) : Fault := shape ("missing field `" ++ name ++ "`")

def duplicateField (name : String) : Fault := shape ("duplicate field `" ++ name ++ "`")

def invalidLength (n : Nat) (expected : String) : Fault :=
  shape ("invalid length " ++ toString n ++ ", expected " ++ expected)

def invalidType (found expected : String) : Fault :=
  shape ("invalid type: " ++ found ++ ", expected " ++ expected)

def invalidValue (found expected : String) : Fault :=
  shape ("invalid value: " ++ found ++ ", expected " ++ expected)

/-- How messages name a number. -/
def numberFound : Json.Number → String
  | .integer n => "integer `" ++ toString n ++ "`"
  | .float x => "floating point `" ++ x.jsonText ++ "`"

/-- How messages name a value. -/
def found : Value → String
  | .null => "null"
  | .bool b => "boolean `" ++ toString b ++ "`"
  | .number n => numberFound n
  | .string s => "string " ++ Text.quoted s
  | .array _ => "sequence"
  | .object _ => "map"

/-- The fault of a value that starts with this lexeme and has another type. -/
def wrongType (expected : String) (x : Lexeme) : Fault :=
  match x.token with
  | .openArray => (invalidType "sequence" expected).placedAt x.left
  | .openObject => (invalidType "map" expected).placedAt x.left
  | _ =>
    match Json.scalar .wanted x with
    | .ok v => (invalidType (found v) expected).placedAt (Json.byteLength x.after)
    | .error f => f

/-! ## 3. Ends of containers -/

/-- The place behind the end of an object, or of what stands there instead. -/
def objectEnd : List Lexeme → Nat
  | [] => 0
  | x :: _ =>
    match x.token with
    | .closeObject => Json.byteLength x.after
    | _ => x.left

/-- The place behind the end of an array, or of what stands there instead. -/
def arrayEnd : List Lexeme → Nat
  | [] => 0
  | x :: rest =>
    match x.token with
    | .closeArray => Json.byteLength x.after
    | .comma => (rest.head?.map Lexeme.left).getD 0
    | _ => x.left

/-- Reads the end of an array whose items have all been read. -/
def closeArray : List Lexeme → Except Fault (List Lexeme)
  | [] => .error ⟨.eofList, some 0⟩
  | x :: rest =>
    match x.token, rest with
    | .closeArray, _ => .ok rest
    | .comma, [] => .error ⟨.trailingCharacters, some 0⟩
    | .comma, y :: _ =>
      match y.token with
      | .closeArray => .error (y.peeked .trailingComma)
      | _ => .error (y.peeked .trailingCharacters)
    | _, _ => .error (x.peeked .trailingCharacters)

/-- What a container gives for its next entry: the entry's first lexemes, or its end, which
is left to be read. -/
inductive Entry where
  | here (xs : List Lexeme)
  | ended (xs : List Lexeme)

/-- The next item of an array. -/
def nextItem (isFirst : Bool) : List Lexeme → Except Fault Entry
  | [] => .error ⟨.eofList, some 0⟩
  | x :: rest =>
    match x.token with
    | .closeArray => .ok (.ended (x :: rest))
    | .comma =>
      if isFirst then .ok (.here (x :: rest))
      else
        match rest with
        | [] => .error ⟨.eofValue, some 0⟩
        | y :: _ =>
          match y.token with
          | .closeArray => .error (y.peeked .trailingComma)
          | _ => .ok (.here rest)
    | _ => if isFirst then .ok (.here (x :: rest)) else .error (x.peeked .expectedListEnd)

/-- The next member of an object. -/
def nextMember (isFirst : Bool) : List Lexeme → Except Fault Entry
  | [] => .error ⟨.eofObject, some 0⟩
  | x :: rest =>
    match x.token with
    | .closeObject => .ok (.ended (x :: rest))
    | .comma =>
      if isFirst then .error (x.peeked .keyNotString)
      else
        match rest with
        | [] => .error ⟨.eofValue, some 0⟩
        | y :: _ =>
          match y.token with
          | .closeObject => .error (y.peeked .trailingComma)
          | _ => .ok (.here rest)
    | _ => if isFirst then .ok (.here (x :: rest)) else .error (x.peeked .expectedObjectEnd)

/-- Reads a colon. -/
def colon : List Lexeme → Except Fault (List Lexeme)
  | [] => .error ⟨.eofObject, some 0⟩
  | x :: rest =>
    match x.token with
    | .colon => .ok rest
    | _ => .error (x.peeked .expectedColon)

/-- Reads the key of a member. -/
def key : List Lexeme → Except Fault (String × List Lexeme)
  | [] => .error ⟨.eofValue, some 0⟩
  | x :: rest => do .ok (← Json.keyOf .wanted x, rest)

/-! ## 4. Names -/

/-- Reads a string that must be one of the names; a value of another type is refused. -/
def variant (names : List String) : List Lexeme → Except Fault (String × List Lexeme)
  | [] => .error ⟨.eofValue, some 0⟩
  | x :: rest =>
    match x.token with
    | .string text => do
      let name ← text
      if names.contains name then .ok (name, rest)
      else .error ((unknownVariant name names).placedAt (Json.byteLength x.after))
    | _ => .error (wrongType "variant identifier" x)

/-- Reads `null`. -/
def unit : List Lexeme → Except Fault (List Lexeme)
  | [] => .error ⟨.eofValue, some 0⟩
  | x :: rest =>
    match x.token with
    | .literal .null => .ok rest
    | _ => .error (wrongType "unit" x)

/-- Reads one of the names, written as a string or as an object with the name as its key and
`null` as its value. -/
def name (names : List String) : List Lexeme → Except Fault (String × List Lexeme)
  | [] => .error ⟨.eofValue, some 0⟩
  | x :: rest =>
    match x.token with
    | .string _ => variant names (x :: rest)
    | .brokenString f => .error f
    | .openObject => do
      let (n, rest) ← variant names rest
      let rest ← unit (← colon rest)
      match rest with
      | [] => .error ⟨.eofObject, some 0⟩
      | y :: rest =>
        match y.token with
        | .closeObject => .ok (n, rest)
        | _ => .error ⟨.expectedValue, some y.left⟩
    | _ => .error (x.peeked .expectedValue)

/-- The value that goes with a name. -/
def named {α : Type} (values : List α) (nameOf : α → String) (n : String) :
    Except Fault α :=
  match values.find? (fun v => nameOf v = n) with
  | some v => .ok v
  | none => .error (unknownVariant n (values.map nameOf))

end Wire

/-! ## 5. Keys -/

namespace KeyEvent

def all : List KeyEvent := [.keypress, .keydown]

/-- Reads the name of a key event. -/
def read (xs : List Json.Lexeme) : Except Json.Fault (KeyEvent × List Json.Lexeme) := do
  let (n, rest) ← Wire.name (all.map name) xs
  .ok (← Wire.named all name n, rest)

end KeyEvent

namespace InputKind

def all : List InputKind := [.line, .char, .filerefPrompt]

/-- Reads the name of a kind of input. -/
def read (xs : List Json.Lexeme) : Except Json.Fault (InputKind × List Json.Lexeme) := do
  let (n, rest) ← Wire.name (all.map name) xs
  .ok (← Wire.named all name n, rest)

end InputKind

namespace Keystroke

open Json (Fault Lexeme)

/-- The greatest code of a key. -/
def maxCode : Int := Nat.pow 2 32 - 1

/-- Reads the code of a key. -/
def readCode : List Lexeme → Except Fault (Nat × List Lexeme)
  | [] => .error ⟨.eofValue, some 0⟩
  | x :: rest =>
    match x.token with
    | .number n => do
      let n ← n
      let left := Json.byteLength x.after
      match n with
      | .integer i =>
        if 0 ≤ i ∧ i ≤ maxCode then .ok (i.toNat, rest)
        else .error ((Wire.invalidValue (Wire.numberFound n) "u32").placedAt left)
      | .float _ => .error ((Wire.invalidType (Wire.numberFound n) "u32").placedAt left)
    | _ => .error (Wire.wrongType "u32" x)

/-- Reads the members of an object, one per unit of fuel. -/
def readMembers (fuel : Nat) (isFirst : Bool) (event? : Option KeyEvent) (which? : Option Nat)
    (xs : List Lexeme) : Except (Fault × List Lexeme) (Keystroke × List Lexeme) :=
  let placed {α : Type} (r : Except Fault α) : Except (Fault × List Lexeme) α :=
    r.mapError fun f => (f, [])
  match fuel with
  | 0 => .error (Wire.missingField "event", xs)
  | fuel + 1 => do
    match ← placed (Wire.nextMember isFirst xs) with
    | .ended xs =>
      match event?, which? with
      | none, _ => .error (Wire.missingField "event", xs)
      | _, none => .error (Wire.missingField "which", xs)
      | some event, some which => .ok (⟨event, which⟩, xs)
    | .here xs =>
      let (key, xs) ← placed (Wire.key xs)
      if key = "event" then
        if event?.isSome then .error (Wire.duplicateField "event", xs)
        else
          let (event, xs) ← placed (do KeyEvent.read (← Wire.colon xs))
          readMembers fuel false (some event) which? xs
      else if key = "which" then
        if which?.isSome then .error (Wire.duplicateField "which", xs)
        else
          let (which, xs) ← placed (do readCode (← Wire.colon xs))
          readMembers fuel false event? (some which) xs
      else
        let xs ← placed (do Json.skipValue (← Wire.colon xs))
        readMembers fuel false event? which? xs

/-- Reads the two items of an array. -/
def readItems (xs : List Lexeme) : Except (Fault × List Lexeme) (Keystroke × List Lexeme) :=
  let placed {α : Type} (r : Except Fault α) : Except (Fault × List Lexeme) α :=
    r.mapError fun f => (f, [])
  let expected := "struct Keystroke with 2 elements"
  do
    match ← placed (Wire.nextItem true xs) with
    | .ended xs => .error (Wire.invalidLength 0 expected, xs)
    | .here xs =>
      let (event, xs) ← placed (KeyEvent.read xs)
      match ← placed (Wire.nextItem false xs) with
      | .ended xs => .error (Wire.invalidLength 1 expected, xs)
      | .here xs =>
        let (which, xs) ← placed (readCode xs)
        .ok (⟨event, which⟩, xs)

/-- Reads a keystroke, written as an object with its two fields in any order or as an array of
the two. -/
def read : List Lexeme → Except Fault (Keystroke × List Lexeme)
  | [] => .error ⟨.eofValue, some 0⟩
  | x :: rest =>
    match x.token with
    | .openObject =>
      match readMembers (rest.length + 1) true none none rest with
      | .error (f, xs) => .error (f.placedAt (Wire.objectEnd xs))
      | .ok (k, xs) => .ok (k, xs.drop 1)
    | .openArray =>
      match readItems rest with
      | .error (f, xs) => .error (f.placedAt (Wire.arrayEnd xs))
      | .ok (k, xs) => do .ok (k, ← Wire.closeArray xs)
    | _ => .error (Wire.wrongType "struct Keystroke" x)

end Keystroke

/-! ## 6. Events

The field `type` names the form of an event, wherever it stands.  The other members are held
until the object has ended, and then the form takes its own field from them.
-/

namespace BridgeEvent

open Json (Fault Lexeme Value)

/-- The two forms of an event. -/
inductive Form where
  | bufferText
  | inputRequested
  deriving DecidableEq, Repr

namespace Form

def all : List Form := [.bufferText, .inputRequested]

/-- The name of the form in the field `type`. -/
def tag : Form → String
  | .bufferText => "buffertext"
  | .inputRequested => "input_requested"

/-- The field that the form has besides. -/
def field : Form → String
  | .bufferText => "text"
  | .inputRequested => "kind"

/-- How messages name the form. -/
def title : Form → String
  | .bufferText => "struct variant BridgeEvent::BufferText"
  | .inputRequested => "struct variant BridgeEvent::InputRequested"

end Form

/-- The kind of input that a value names: a string, or an object with the name as its one key
and nothing as its value. -/
def kindOf (v : Value) : Except Fault InputKind :=
  match v with
  | .string n => Wire.named InputKind.all InputKind.name n
  | .object [(n, v)] => do
    let kind ← Wire.named InputKind.all InputKind.name n
    match v with
    | .null => .ok kind
    | .object [] => .ok kind
    | _ => .error (Wire.invalidType (Wire.found v) "unit")
  | .object _ => .error (Wire.invalidValue "map" "map with a single key")
  | _ => .error (Wire.invalidType (Wire.found v) "string or map")

/-- The event of a form, from the value of its field. -/
def ofField (form : Form) (v : Value) : Except Fault BridgeEvent :=
  match form with
  | .bufferText =>
    match v with
    | .string text => .ok (.bufferText text)
    | _ => .error (Wire.invalidType (Wire.found v) "a string")
  | .inputRequested => (kindOf v).map .inputRequested

/-- The event of a form, from the members of its object; `event?` is what has been read. -/
def ofMembers (form : Form) (event? : Option BridgeEvent) :
    List (String × Value) → Except Fault BridgeEvent
  | [] =>
    match event? with
    | some event => .ok event
    | none => .error (Wire.missingField form.field)
  | (key, v) :: rest =>
    if key = form.field then
      if event?.isSome then .error (Wire.duplicateField form.field)
      else do ofMembers form (some (← ofField form v)) rest
    else ofMembers form event? rest

/-- The event of a form, from the items behind its tag. -/
def ofItems (form : Form) (items : List Value) : Except Fault BridgeEvent :=
  match items with
  | [] => .error (Wire.invalidLength 0 (form.title ++ " with 1 element"))
  | v :: rest => do
    let event ← ofField form v
    if rest = [] then .ok event
    else .error (Wire.invalidLength items.length "1 element in sequence")

/-- Reads the name of a form. -/
def readForm (xs : List Lexeme) : Except Fault (Form × List Lexeme) := do
  let (n, rest) ← Wire.variant (Form.all.map Form.tag) xs
  .ok (← Wire.named Form.all Form.tag n, rest)

/-- Reads the members of an object, one per unit of fuel.  Gives the form and the other
members, with the lexemes from the end of the object on. -/
def readMembers (fuel : Nat) (isFirst : Bool) (form? : Option Form)
    (members : List (String × Value)) (xs : List Lexeme) :
    Except (Fault × List Lexeme) ((Form × List (String × Value)) × List Lexeme) :=
  let placed {α : Type} (r : Except Fault α) : Except (Fault × List Lexeme) α :=
    r.mapError fun f => (f, [])
  match fuel with
  | 0 => .error (Wire.missingField "type", xs)
  | fuel + 1 => do
    match ← placed (Wire.nextMember isFirst xs) with
    | .ended xs =>
      match form? with
      | none => .error (Wire.missingField "type", xs)
      | some form => .ok ((form, members), xs)
    | .here xs =>
      let (key, xs) ← placed (Wire.key xs)
      if key = "type" then
        if form?.isSome then .error (Wire.duplicateField "type", xs)
        else
          let (form, xs) ← placed (do readForm (← Wire.colon xs))
          readMembers fuel false (some form) members xs
      else
        let (v, xs) ← placed (do Json.readValue (Json.maxDepth - 1) (← Wire.colon xs))
        readMembers fuel false form? (members ++ [(key, v)]) xs

/-- Reads items up to the end of their array, one per unit of fuel. -/
def readItems (fuel : Nat) (xs : List Lexeme) : Except Fault (List Value × List Lexeme) :=
  match fuel with
  | 0 => .error ⟨.eofList, some 0⟩
  | fuel + 1 => do
    match ← Wire.nextItem false xs with
    | .ended xs => .ok ([], xs)
    | .here xs =>
      let (v, xs) ← Json.readValue (Json.maxDepth - 1) xs
      let (vs, xs) ← readItems fuel xs
      .ok (v :: vs, xs)

/-- Reads an event, written as an object or as an array of its tag and its field. -/
def read : List Lexeme → Except Fault (BridgeEvent × List Lexeme)
  | [] => .error ⟨.eofValue, some 0⟩
  | x :: rest =>
    match x.token with
    | .openObject =>
      match readMembers (rest.length + 1) true none [] rest with
      | .error (f, xs) => .error (f.placedAt (Wire.objectEnd xs))
      | .ok ((form, members), xs) => do .ok (← ofMembers form none members, xs.drop 1)
    | .openArray => do
      match ← Wire.nextItem true rest with
      | .ended xs => .error ((Wire.missingField "type").placedAt (Wire.arrayEnd xs))
      | .here xs =>
        let (form, xs) ← readForm xs
        let (items, xs) ← readItems (xs.length + 1) xs
        let xs ← Wire.closeArray xs
        .ok (← ofItems form items, xs)
    | _ => .error (Wire.wrongType "internally tagged enum BridgeEvent" x)

end BridgeEvent

/-! ## 7. Whole texts and bindings -/

/-- Reads a whole text with the given reader. -/
def Wire.decode {α : Type}
    (read : List Json.Lexeme → Except Json.Fault (α × List Json.Lexeme)) (text : String) :
    Except Json.Fault α := do
  let (v, rest) ← read (Json.lexemes text.toList)
  Json.finish v rest

/-- The data that a text holds. -/
def BridgeEvent.decode (text : String) : Except Json.Fault BridgeEvent :=
  Wire.decode BridgeEvent.read text

/-- The function that the page calls with data. -/
def dataBinding : String := "regtest_data"

/-- The function that the page calls with a line for the log. -/
def logBinding : String := "regtest_log"

/-- The message that a call of a bound function carries.  Calls of other functions carry
none. -/
def Message.ofBinding (name payload : String) : Except Json.Fault (Option Message) :=
  if name = dataBinding then (BridgeEvent.decode payload).map fun e => some (.data e)
  else if name = logBinding then .ok (some (.log payload))
  else .ok none

end Playtest
