/-
# Keystrokes

A game that asks for a character is given a key.  Keys that print something are named by the
character itself; the others have names.  A key without a printed character goes down, and
every other key is pressed, with the code that browsers give it.
-/
import Playtest.Text.Number
import Playtest.Text.Search

namespace Playtest

/-! ## 1. Keys -/

/-- The two browser events that a key can cause. -/
inductive KeyEvent where
  | keypress
  | keydown
  deriving DecidableEq, Repr

/-- The name of the event. -/
def KeyEvent.name : KeyEvent → String
  | .keypress => "keypress"
  | .keydown => "keydown"

/-- A key event with the code of the key. -/
structure Keystroke where
  event : KeyEvent
  which : Nat
  deriving DecidableEq, Repr

namespace Keystroke

/-- The return key, which ends a line of input. -/
def returnKey : Keystroke := ⟨.keypress, 13⟩

/-- The key that prints a character. -/
def printing (c : Char) : Keystroke := ⟨.keypress, c.toNat⟩

/-! ## 2. Named keys -/

/-- The named keys that go down, with their codes. -/
def namedKeys : List (String × Nat) :=
  [("delete", 8), ("tab", 9), ("escape", 27), ("pageup", 33), ("pagedown", 34), ("end", 35),
   ("home", 36), ("left", 37), ("up", 38), ("right", 39), ("down", 40)]

/-- The code of a function key: `func1` to `func12`. -/
def functionKey? (name : String) : Option Nat := do
  let digits ← Text.after? "func".toList name.toList
  let n ← Text.natUpTo? (Nat.pow 2 32 - 1) digits
  if 1 ≤ n ∧ n ≤ 12 then some (111 + n) else none

/-- The code of a key that goes down. -/
def downKey? (name : String) : Option Nat :=
  match namedKeys.lookup name with
  | some code => some code
  | none => functionKey? name

/-! ## 3. Payloads -/

/-- The key that the payload of a character input names.  A name that is no key's stands for
its first character. -/
def ofPayload (payload : String) : Keystroke :=
  if payload = "" ∨ payload = "return" then returnKey
  else if payload = "space" then printing ' '
  else
    match downKey? payload with
    | some code => ⟨.keydown, code⟩
    | none => (payload.toList.head?.map printing).getD returnKey

end Keystroke
end Playtest
