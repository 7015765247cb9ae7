/-
# What the page writes to its console

Neither a console call nor an uncaught exception fails a test.  A console call is only noted,
and an exception becomes a line of the log.
-/
import Playtest.Json.Members

namespace Playtest

/-! ## 1. Console calls -/

/-- How serious a console call is. -/
inductive ConsoleLevel where
  | log
  | warning
  | error
  | debug
  | other
  deriving DecidableEq, Repr

namespace ConsoleLevel

/-- The level of a kind of call. -/
def ofType (type : String) : ConsoleLevel :=
  if type = "log" ∨ type = "info" then .log
  else if type = "warning" then .warning
  else if type = "error" then .error
  else if type = "debug" then .debug
  else .other

/-- The call is noted as a warning. -/
def warns : ConsoleLevel → Bool
  | .error => true
  | .warning => true
  | _ => false

end ConsoleLevel

/-- An argument of a call: its value if it can be told, and what the browser calls it. -/
structure ConsoleArgument where
  value? : Option Json.Value
  description? : Option String

/-- A call of the console. -/
structure ConsoleCall where
  type : String
  arguments : List ConsoleArgument

/-- The text of an argument: a string as it is, any other value as JSON, and without a value
the description. -/
def ConsoleArgument.text (argument : ConsoleArgument) : String :=
  match argument.value? with
  | some (.string s) => s
  | some v => v.sorted.compact
  | none => argument.description?.getD "<object>"

namespace ConsoleCall

def level (call : ConsoleCall) : ConsoleLevel := ConsoleLevel.ofType call.type

/-- The texts of the arguments with spaces between them. -/
def text (call : ConsoleCall) : String := " ".intercalate (call.arguments.map (·.text))

/-- Takes `null` as no value. -/
def present? : Option Json.Value → Option Json.Value
  | some .null => none
  | v => v

/-- The call that the browser tells of. -/
def ofJson (event : Json.Value) : ConsoleCall where
  type := (event.text? "type").getD ""
  arguments := ((event.get? "args").map (·.items) |>.getD []).map fun v =>
    ⟨present? (v.get? "value"), v.text? "description"⟩

end ConsoleCall

/-! ## 2. Exceptions -/

/-- An exception that nothing on the page caught. -/
structure PageException where
  text : String
  /-- What the browser calls the value that was thrown. -/
  description? : Option String := none
  /-- The script that threw, and the place in it. -/
  url? : Option String := none
  line : Int := 0
  column : Int := 0
  deriving DecidableEq, Repr

namespace PageException

/-- The line of the log. -/
def message (e : PageException) : String :=
  let text := "Page error: " ++ e.description?.getD e.text
  match e.url? with
  | none => text
  | some url =>
    if url = "" then text
    else text ++ " (" ++ url ++ ":" ++ toString e.line ++ ":" ++ toString e.column ++ ")"

/-- The exception that the browser gives these details of. -/
def ofJson (details : Json.Value) : PageException where
  text := (details.text? "text").getD ""
  description? := (details.get? "exception").bind (·.text? "description")
  url? := details.text? "url"
  line := ((details.get? "lineNumber").bind (·.integer?)).getD 0
  column := ((details.get? "columnNumber").bind (·.integer?)).getD 0

end PageException
end Playtest
