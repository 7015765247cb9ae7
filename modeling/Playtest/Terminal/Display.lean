/-
# What the user sees of a run

The tests and, if that is wanted, the text of the game go to standard output.  All else goes to
standard error: checks that failed, tests that ended early, the log of the page and a summary
at the end.
-/
import Playtest.Run.Summary
import Playtest.Terminal.Style

namespace Playtest

/-- What is written to the two output streams. -/
structure Screen where
  out : String := ""
  err : String := ""
  deriving DecidableEq, Repr

namespace Screen

def append (a b : Screen) : Screen := ⟨a.out ++ b.out, a.err ++ b.err⟩

instance : Append Screen := ⟨append⟩

def outLine (text : String) : Screen := { out := text ++ "\n" }

def errLine (text : String) : Screen := { err := text ++ "\n" }

end Screen

/-- How a run is shown. -/
structure Display where
  coloured : Bool := false
  /-- Show the text of the game. -/
  verbose : Bool := false
  /-- The width of the terminal. -/
  columns : Nat := 80
  deriving DecidableEq, Repr

namespace Display

/-- A note. -/
def note (display : Display) (message : String) : Screen :=
  .errLine (paint display.coloured [.blue, .bold] "ℹ" ++ " " ++ message)

/-- A warning. -/
def warning (display : Display) (message : String) : Screen :=
  .errLine (paint display.coloured [.yellow, .bold] "⚠" ++ " " ++
    paint display.coloured [.yellow] message)

/-! ## 1. During a run -/

/-- What is shown for an event.  Calls of the page and notes for the log are not shown. -/
def event (display : Display) : Event → Screen
  | .started test => .outLine ("* " ++ test)
  | .output text => if display.verbose then { out := text } else {}
  | .checkFailed failure => .errLine (paint display.coloured [.red] failure.message)
  | .aborted test error =>
    .errLine (paint display.coloured [.red, .bold] ("Test '" ++ test ++ "' aborted:") ++ " " ++
      paint display.coloured [.red] error.message)
  | .log line => .errLine (paint display.coloured [.dim] line)
  | .saved path => display.note ("Saved page rendering to " ++ path)
  | _ => {}

/-! ## 2. At the end -/

/-- A number of things. -/
def count (n : Nat) (noun : String) : String :=
  toString n ++ " " ++ noun ++ if n = 1 then "" else "s"

/-- The numbers of a summary in one line. -/
def counts (summary : RunSummary) : String :=
  count summary.testsRun "test" ++ " run, " ++ toString summary.failures.length ++ " failed " ++
    (if summary.failures.length = 1 then "check" else "checks") ++ ", " ++
    toString summary.aborted.length ++ " aborted"

/-- A line across the terminal. -/
def rule (display : Display) : Screen :=
  .errLine (String.ofList (List.replicate (max 20 (min display.columns 80)) '─'))

/-- A test that ended early, with the reason. -/
def abortedTest (display : Display) (test : AbortedTest) : Screen :=
  .errLine ("  " ++ paint display.coloured [.red] "▸" ++ " " ++
    paint display.coloured [.bold] test.test ++ ": " ++ test.reason)

/-- The verdict. -/
def verdict (display : Display) (summary : RunSummary) : Screen :=
  .errLine ("  " ++
    if summary.passed then paint display.coloured [.green, .bold] "PASSED"
    else paint display.coloured [.red, .bold] ("FAILED: " ++ count summary.errors "error"))

/-- The summary of a run that took this long. -/
def summary (display : Display) (summary : RunSummary) (elapsed : Duration) : Screen :=
  let head := "  " ++ paint display.coloured [.bold] "Summary:" ++ " " ++ counts summary ++
    " in " ++ paint display.coloured [.dim] elapsed.format
  summary.aborted.foldl (fun screen test => screen ++ display.abortedTest test)
    (display.rule ++ .errLine head) ++ display.verdict summary

end Display
end Playtest
