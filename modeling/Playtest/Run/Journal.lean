/-
# The journal of a run

Everything that a run shows is written down in order, with the time: what it reports, what it
asks of the page, and the notes it makes for the log.
-/
import Playtest.Bridge.Message
import Playtest.Run.Error

namespace Playtest

/-! ## 1. What is reported -/

/-- A check that did not hold, with the test whose body has it. -/
structure CheckFailure where
  test : String
  text : String
  inverted : Bool
  deriving DecidableEq, Repr

namespace CheckFailure

def ofCheck (test : String) (check : Check) : CheckFailure := ⟨test, check.text, check.inverted⟩

def message (failure : CheckFailure) : String :=
  if failure.inverted then
    "Inverted literal check \"" ++ failure.text ++ "\": should not be found"
  else "Literal check \"" ++ failure.text ++ "\": not found"

end CheckFailure

/-- The formats of a rendering of the page. -/
inductive CaptureFormat where
  | pdf
  | png
  deriving DecidableEq, Repr

/-- The name of the format, which is also the extension of its files. -/
def CaptureFormat.extension : CaptureFormat → String
  | .pdf => "pdf"
  | .png => "png"

/-! ## 2. The journal -/

/-- One thing that a run shows. -/
inductive Event where
  /-- A test begins. -/
  | started (test : String)
  /-- The game printed text. -/
  | output (text : String)
  | checkFailed (failure : CheckFailure)
  /-- A test ended early. -/
  | aborted (test : String) (error : TestError)
  /-- The page wrote a line to the log. -/
  | log (line : String)
  /-- A rendering of the page was written to a file. -/
  | saved (path : String)
  /-- The page is told to load an address. -/
  | opened (url : String)
  /-- The page is given input. -/
  | sent (command : Command)
  /-- The page is rendered. -/
  | rendered (format : CaptureFormat)
  /-- A note on progress. -/
  | info (message : String)
  /-- A warning. -/
  | warned (message : String)
  deriving DecidableEq, Repr

/-- An event with its time in milliseconds. -/
structure TimedEvent where
  time : Nat
  event : Event
  deriving DecidableEq, Repr

/-- The events of a run, in order. -/
abbrev Journal := List TimedEvent

end Playtest
