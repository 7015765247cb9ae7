/-
# Coloured text

A terminal shows a text in a colour or in bold if it stands between control codes.  The codes
are written only where they are wanted: never with `--no-color` or where the environment says
`NO_COLOR`, always where it says `FORCE_COLOR`, and otherwise on a terminal.
-/
import Playtest.Variables

namespace Playtest

/-- What a text can be shown in. -/
inductive Attribute where
  | red
  | green
  | yellow
  | blue
  | bold
  | dim
  deriving DecidableEq, Repr

namespace Attribute

/-- The number of the attribute in a control code. -/
def number : Attribute → Nat
  | .red => 31
  | .green => 32
  | .yellow => 33
  | .blue => 34
  | .bold => 1
  | .dim => 2

/-- The control code that begins the attribute. -/
def code (a : Attribute) : String := "\x1b[" ++ toString a.number ++ "m"

/-- The control code that ends all attributes. -/
def reset : String := "\x1b[0m"

end Attribute

/-- The text in some attributes, if colours are on. -/
def paint (coloured : Bool) (attributes : List Attribute) (text : String) : String :=
  if coloured then String.join (attributes.map Attribute.code) ++ text ++ Attribute.reset
  else text

/-- Colours are on. -/
def usesColour (vars : Variables) (isTerminal noColour : Bool) : Bool :=
  !noColour && !vars.has "NO_COLOR" && (vars.has "FORCE_COLOR" || isTerminal)

end Playtest
