/-
# How a failure is shown

The message of a failure stands in a margin: a cross before its first line and a bar before the
others.  Long lines are wrapped.
-/
import Playtest.Terminal.Style
import Playtest.Text.Wrap

namespace Playtest
namespace Report

/-- The characters of a message that fit on a line. -/
def width : Nat := 74

/-- The environment asks for colours in the margin. -/
def isColoured (vars : Variables) : Bool :=
  match vars.lookup "FORCE_COLOR", vars.lookup "CLICOLOR_FORCE" with
  | some "false", _ => false
  | some value, _ => value = "" || value.toNat? != some 0
  | none, some value => value != "0"
  | none, none => false

/-- A message in its margin. -/
def text (coloured : Bool) (message : String) : String :=
  let margin (sign : String) (line : List Char) : String :=
    "  " ++ paint coloured [.red] sign ++ " " ++ String.ofList line ++ "\n"
  match Text.Wrap.text width message.toList with
  | [] => "Error: \n"
  | first :: rest =>
    "Error: " ++ margin "×" first ++ String.join (rest.map (margin "│")) ++ "\n"

end Report
end Playtest
