/-
# Why a test or a run ends early

The browser layer fails in its own ways, and a test adds the ways in which the script and the
game can disagree.  Most errors end one test.  Those that leave no usable browser or bridge
behind end the run.
-/
import Playtest.Files.Disk
import Playtest.Number.Duration
import Playtest.Script.Directive

namespace Playtest

/-! ## 1. The browser -/

/-- Errors of the browser and of the bridge to its page. -/
inductive BrowserError where
  | launchFailed (reason : String) (source? : Option String)
  | connectionFailed (reason : String)
  | navigationFailed (url reason : String)
  | waitTimeout (condition : String) (timeout : Duration)
  | scriptExecutionFailed (reason : String)
  | captureFailed (reason : String)
  | malformedPayload (fault : String)
  | alreadyClosed
  /-- The browser refused a command of the driver. -/
  | refused (reason : String)
  | io (error : IoError)
  deriving DecidableEq, Repr

def BrowserError.message : BrowserError → String
  | .launchFailed reason _ => "failed to launch browser: " ++ reason
  | .connectionFailed reason => "CDP connection failed: " ++ reason
  | .navigationFailed url reason => "navigation to '" ++ url ++ "' failed: " ++ reason
  | .waitTimeout condition timeout =>
    "wait condition '" ++ condition ++ "' timed out after " ++ timeout.describe
  | .scriptExecutionFailed reason => "JavaScript execution failed: " ++ reason
  | .captureFailed reason => "diagnostic capture failed: " ++ reason
  | .malformedPayload fault => "malformed bridge payload: " ++ fault
  | .alreadyClosed => "browser instance is already closed"
  | .refused reason => "chromiumoxide error: " ++ reason
  | .io error => "I/O error: " ++ error.text

/-! ## 2. Tests -/

/-- What a wait was for. -/
inductive Awaited where
  | inputRequest
  | finalOutput
  deriving DecidableEq, Repr

def Awaited.name : Awaited → String
  | .inputRequest => "input request"
  | .finalOutput => "final output"

/-- Why a test stopped before the end of its body. -/
inductive TestError where
  /-- The game asked for another kind of input than the script is about to send. -/
  | protocolViolation (expected requested : InputKind)
  /-- Nothing that was waited for came in time. -/
  | timeout (awaited : Awaited) (limit : Duration)
  | unknownTest (name : String)
  /-- A test includes itself, directly or through others. -/
  | includeCycle (chain : List String)
  /-- No message can arrive any more. -/
  | bridgeClosed
  | browser (error : BrowserError)
  deriving DecidableEq, Repr

namespace TestError

def message : TestError → String
  | .protocolViolation expected requested =>
    "game is not expecting " ++ expected.name ++ " input (it requested " ++ requested.name ++
      " input)"
  | .timeout awaited limit =>
    "timed out after " ++ limit.describe ++ " awaiting " ++ awaited.name
  | .unknownTest name => "test '" ++ name ++ "' is not defined in the test file"
  | .includeCycle chain => "include cycle: " ++ " -> ".intercalate chain
  | .bridgeClosed => "event bridge closed"
  | .browser error => error.message

/-- The error leaves no usable browser or bridge behind. -/
def isFatal : TestError → Bool
  | .bridgeClosed => true
  | .browser .alreadyClosed => true
  | .browser (.connectionFailed _) => true
  | .browser (.refused _) => true
  | .browser (.launchFailed _ _) => true
  | _ => false

end TestError
end Playtest
