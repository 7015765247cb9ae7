/-
# Test files

A test file is the sequence of its lines.  Parsing never fails: a line that is nothing else
is a check, and a check outside every test is never made.

A test is declared by its start line and its body goes up to the next start line.  Two tests
may share a name; the first is the one that is played.
-/
import Playtest.Script.Line

namespace Playtest

/-- A test file, line by line. -/
structure TestFile where
  lines : List Line
  deriving Repr

namespace TestFile

/-! ## 1. Parsing -/

/-- Reads a source text.  Every line is trimmed first, so line ends of either style and any
indentation read the same. -/
def parse (source : String) : TestFile :=
  ⟨(Text.splitAt '\n' source.toList).map fun line => Line.ofChars (Text.trim line)⟩

/-! ## 2. What a file declares -/

/-- The value of the first line that sets this parameter, anywhere in the file. -/
def parameter? (file : TestFile) (name : String) : Option String :=
  file.lines.findSome? fun
    | .parameter n value => if n = name then some value else none
    | _ => none

/-- Where the interpreter page is, as written in the file. -/
def interpreter? (file : TestFile) : Option String := file.parameter? "interpreter"

/-- Where the story file is, as written in the file. -/
def game? (file : TestFile) : Option String := file.parameter? "game"

/-- The names of the parameters that mean nothing, in order. -/
def unknownParameters (file : TestFile) : List String :=
  file.lines.filterMap fun
    | .parameter name _ => if name = "interpreter" ∨ name = "game" then none else some name
    | _ => none

/-- The names of the declared tests, in order and with repetitions. -/
def testNames (file : TestFile) : List String :=
  file.lines.filterMap fun
    | .testStart name => some name
    | _ => none

/-- A test of this name is declared. -/
def contains (file : TestFile) (name : String) : Bool := file.testNames.contains name

end TestFile
end Playtest
