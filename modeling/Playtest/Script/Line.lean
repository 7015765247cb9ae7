/-
# Lines of a test script

What a line means is decided by how it starts:

    # ...                 a comment
    ** name: value        a parameter of the whole file
    * name                the start of a test
    >{include} name       the body of another test
    >{fileref_prompt} f   the file for a save or restore
    >{char} key           one keystroke
    > text                a line of input
    !text                 a literal that must not be printed
    text                  a literal that must be printed

Games print stars of their own, so a starred line that is no parameter and no test start is
a literal to look for.  An include without a name is the one line that means nothing.

The reader is expected to have trimmed the line.
-/
import Playtest.Script.Directive
import Playtest.Text.Blank
import Playtest.Text.Word

namespace Playtest

/-! ## 1. What a line can be -/

/-- The meaning of one line. -/
inductive Line where
  | blank
  | comment
  /-- `** name: value` -/
  | parameter (name value : String)
  /-- `* name` -/
  | testStart (name : String)
  /-- An include that names no test. -/
  | malformed (line : String)
  | directive (directive : Directive)
  deriving DecidableEq, Repr

namespace Line

/-- The line that looks for a literal. -/
def check (text : List Char) (inverted : Bool) : Line :=
  .directive (.check ⟨String.ofList text, inverted⟩)

/-- The line that gives input, with the blanks around the payload cut off. -/
def input (kind : InputKind) (payload : List Char) : Line :=
  .directive (.input ⟨kind, String.ofList (Text.trim payload)⟩)

/-! ## 2. The parts of starred lines -/

/-- A name must stand after a blank. -/
def afterBlank? (s : List Char) : Option (List Char) :=
  if s.head?.any Text.isBlank then some s else none

/-- The name and value of a parameter, from what follows the two stars: a blank, a word,
a colon and a value that is not blank. -/
def parameter? (s : List Char) : Option (List Char × List Char) := do
  let s ← afterBlank? s
  let (name, value) ← Text.cutAt? ':' (Text.trimStart s)
  let value := Text.trim value
  if name ≠ [] ∧ name.all Text.isWordChar ∧ value ≠ [] then some (name, value) else none

/-- The name of a test, from what follows the one star: a blank, then a name. -/
def testName? (s : List Char) : Option (List Char) := do
  let s ← afterBlank? s
  let name := Text.trim s
  if name ≠ [] then some name else none

/-! ## 3. Classification -/

/-- The meaning of a line that starts with `>`, from what follows it. -/
def ofInput (whole s : List Char) : Line :=
  match Text.after? "\x7binclude\x7d".toList s with
  | some rest =>
    let name := Text.trim rest
    if name = [] then .malformed (String.ofList whole)
    else .directive (.includeTest (String.ofList name))
  | none =>
    match Text.after? "\x7bfileref_prompt\x7d".toList s with
    | some rest => input .filerefPrompt rest
    | none =>
      match Text.after? "\x7bchar\x7d".toList s with
      | some rest => input .char rest
      | none => input .line s

/-- The meaning of a line, given as its characters. -/
def ofChars : List Char → Line
  | [] => .blank
  | '#' :: _ => .comment
  | '*' :: '*' :: rest =>
    match parameter? rest with
    | some (name, value) => .parameter (String.ofList name) (String.ofList value)
    | none => check ('*' :: '*' :: rest) false
  | '*' :: rest =>
    match testName? rest with
    | some name => .testStart (String.ofList name)
    | none => check ('*' :: rest) false
  | '>' :: rest => ofInput ('>' :: rest) rest
  | '!' :: rest => check rest true
  | line => check line false

/-- The meaning of a line. -/
def classify (line : String) : Line := ofChars line.toList

end Line
end Playtest
