/-
# Why the program fails

Failed checks are a result and no failure.  A failure is whatever keeps the program from making
a run, or from bringing it to its end.

A failure is shown as its message.  Only a browser that does not start is shown with advice on
how to find one.
-/
import Playtest.Run.Error
import Playtest.Site.Location

namespace Playtest

/-! ## 1. Settings -/

/-- Why the settings cannot be used. -/
inductive SettingsError where
  /-- The settings file asked for is not there. -/
  | noSuchFile (path : String)
  | missingField (field hint : String)
  | invalidValue (field value hint : String)
  deriving DecidableEq, Repr

/-- A message with a hint on what to do. -/
def withHint (message hint : String) : String := message ++ "\n\nHint: " ++ hint

def SettingsError.message : SettingsError → String
  | .noSuchFile path =>
    withHint ("Config file not found: " ++ path) "Create it or drop --config to use regtest.toml"
  | .missingField field hint => withHint ("Missing required field: " ++ field) hint
  | .invalidValue field value hint =>
    withHint ("Invalid value for '" ++ field ++ "': " ++ value) hint

/-! ## 2. The program -/

inductive Failure where
  | settings (error : SettingsError)
  | fileNotFound (path : String)
  | location (error : LocationError)
  | browser (error : BrowserError)
  /-- The run stopped before every test had its chance. -/
  | run (error : TestError)
  | server (reason : String)
  | io (error : IoError)
  deriving DecidableEq, Repr

namespace Failure

def message : Failure → String
  | .settings error => "Configuration error: " ++ error.message
  | .fileNotFound path => "File not found: " ++ path
  | .location error => "Invalid location: " ++ error.message
  | .browser error => "Browser error: " ++ error.message
  | .run error => "Run aborted: " ++ error.message
  | .server reason =>
    withHint ("Server error: " ++ reason) "Choose a different --port or stop whatever is using it"
  | .io error => "I/O error: " ++ error.text

/-- What the program shows for a failure. -/
def report : Failure → String
  | .browser (.launchFailed reason source?) =>
    let detail := match source? with | some source => ": " ++ source | none => ""
    withHint ("Could not launch Chrome: " ++ reason ++ detail)
      "Install Chrome or Chromium, or pass --chrome <PATH>"
  | .run (.browser (.launchFailed reason _)) => "Could not launch Chrome: " ++ reason
  | failure => failure.message

/-- A file that is not there is named. -/
def atPath (path : String) : Failure → Failure
  | .io error => if error.kind = .notFound then .fileNotFound path else .io error
  | failure => failure

end Failure
end Playtest
