/-
# Commands to the page

An input directive becomes a command, which the driver hands to the page by evaluating a
script there.  The script calls the page's entry function with the command as a JSON text, and
gives `false` if the function is not there.

JSON text is also script text, so the payload needs no other escaping: it cannot end the
string it stands in.
-/
import Playtest.Bridge.Keystroke
import Playtest.Json.Value
import Playtest.Script.Directive

namespace Playtest

/-- What the page is told. -/
inductive Command where
  /-- Type a line and end it with the key. -/
  | line (value : String) (key : Keystroke)
  /-- Press a key; `value` is how the script names it. -/
  | char (value : String) (key : Keystroke)
  /-- Pick a file. -/
  | filerefPrompt (value : String)
  deriving DecidableEq, Repr

namespace Command

/-! ## 1. From directives -/

/-- The command for an input directive. -/
def ofInput (input : Input) : Command :=
  match input.kind with
  | .line => .line input.payload Keystroke.returnKey
  | .char => .char input.payload (Keystroke.ofPayload input.payload)
  | .filerefPrompt => .filerefPrompt input.payload

/-- The kind of input that the command answers. -/
def kind : Command → InputKind
  | .line _ _ => .line
  | .char _ _ => .char
  | .filerefPrompt _ => .filerefPrompt

@[simp] theorem kind_ofInput (input : Input) : (ofInput input).kind = input.kind := by
  unfold ofInput
  split <;> simp [kind, *]

/-! ## 2. On the wire -/

/-- A keystroke as a JSON value. -/
def keyJson (key : Keystroke) : Json.Value :=
  .object [("event", .string key.event.name), ("which", .number (.integer key.which))]

/-- The command as a JSON value. -/
def json : Command → Json.Value
  | .line value key =>
    .object [("type", .string "line"), ("value", .string value), ("key", keyJson key)]
  | .char value key =>
    .object [("type", .string "char"), ("value", .string value), ("key", keyJson key)]
  | .filerefPrompt value =>
    .object [("type", .string "fileref_prompt"), ("value", .string value)]

/-- The name of the page's entry function. -/
def entryFunction : String := "regtest_event"

/-- The script before the JSON text. -/
def scriptHead : String :=
  "typeof window." ++ entryFunction ++ " === 'function' && (window." ++ entryFunction ++ "("

/-- The script behind the JSON text. -/
def scriptTail : String := "), true)"

/-- The script that hands the command to the page. -/
def script (command : Command) : String := scriptHead ++ command.json.compact ++ scriptTail

end Command
end Playtest
