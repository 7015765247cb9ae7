/-
# Directives of a test script

A test body is a sequence of directives: give the game some input, play another test's body
in place, or look for a literal in what the game printed since the last input.

This file holds the three kinds of input a game can ask for, with their names in scripts and
messages, and the directives with the meaning of a check.
-/
import Playtest.Text.Search

namespace Playtest

/-! ## 1. Kinds of input -/

/-- What a game can ask the player for. -/
inductive InputKind where
  /-- A line of text, ended by return. -/
  | line
  /-- One keystroke. -/
  | char
  /-- The name of a file to save to or restore from. -/
  | filerefPrompt
  deriving DecidableEq, Repr, Inhabited

/-- The name of the kind in scripts, messages and error texts. -/
def InputKind.name : InputKind → String
  | .line => "line"
  | .char => "char"
  | .filerefPrompt => "fileref_prompt"

theorem InputKind.name_injective {a b : InputKind} (h : a.name = b.name) : a = b := by
  cases a <;> cases b <;> first | rfl | exact absurd h (by decide)

/-! ## 2. Directives -/

/-- Input for the game: `payload` is the text to type, the key to press or the file to pick. -/
structure Input where
  kind : InputKind
  payload : String
  deriving DecidableEq, Repr

/-- An assertion on the output: the literal is there, or with `inverted` it is not. -/
structure Check where
  text : String
  inverted : Bool := false
  deriving DecidableEq, Repr

/-- The check holds of this output. -/
def Check.passes (check : Check) (output : String) : Bool :=
  Text.occursIn check.text.toList output.toList != check.inverted

/-- It holds if the literal stands in the output, and an inverted one if it does not. -/
theorem Check.passes_iff {check : Check} {output : String} :
    check.passes output = true ↔
      (check.text.toList <:+: output.toList ↔ check.inverted = false) := by
  rw [Check.passes, ← Text.occursIn_iff]
  cases Text.occursIn check.text.toList output.toList <;> cases check.inverted <;> simp

/-- One instruction of a test body. -/
inductive Directive where
  /-- Wait until the game asks for input, then give it this. -/
  | input (input : Input)
  /-- Play the body of another test here. -/
  | includeTest (name : String)
  /-- Assert on the output gathered before the next input. -/
  | check (check : Check)
  deriving DecidableEq, Repr

end Playtest
