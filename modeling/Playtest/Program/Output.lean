/-
# What the program writes

The program answers a command line with text on two streams and an exit status.  Log lines go
to standard error between what else is shown there, and a failure is reported at the end.
-/
import Playtest.Program.Arguments
import Playtest.Program.Session
import Playtest.Terminal.Report

namespace Playtest

/-- All that a caller sees of the program. -/
structure Output where
  exitCode : Nat
  screen : Screen
  deriving DecidableEq, Repr

/-- What the program is told by its caller. -/
structure Call where
  words : List String
  vars : Variables := []
  /-- The text goes to a terminal. -/
  isTerminal : Bool := false
  /-- The time that log lines show. -/
  time : String := ""

namespace Output

/-- The text that a command line is refused with. -/
def ofRefusal (refusal : Refusal) : Output :=
  ⟨refusal.exitCode, if refusal.isAnswer then { out := refusal.text } else { err := refusal.text }⟩

/-- What is shown, through a filter for the log. -/
def screenOf (filter : LogFilter) (coloured : Bool) (time : String) :
    List Session.Shown → Screen
  | [] => {}
  | .screen s :: rest => s ++ screenOf filter coloured time rest
  | .log line :: rest =>
    let shown : Screen := if filter.shows line then .errLine (line.text coloured time) else {}
    shown ++ screenOf filter coloured time rest

variable {σ : Type}

/-- What the program writes when it is called. -/
def ofCall [Url.Idna] (host : Host σ) (disk : Disk) (call : Call) (s : σ) : Output × σ :=
  match Arguments.parse call.words with
  | .error refusal => (ofRefusal refusal, s)
  | .ok args =>
    let coloured := usesColour call.vars call.isTerminal args.noColor
    let outcome := Session.execute host disk call.vars { coloured } args s
    let filter := LogFilter.choose args.debug args.quiet call.vars
    let screen := screenOf filter coloured call.time outcome.shown
    let output : Output :=
      match outcome.result with
      | .ok ending => ⟨ending.exitCode, screen⟩
      | .error failure =>
        ⟨1, screen ++ { err := Report.text (Report.isColoured call.vars) failure.report }⟩
    (output, outcome.state)

end Output
end Playtest
