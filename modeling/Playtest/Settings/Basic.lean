/-
# Settings

What a run is told about itself, apart from the test file.  Two rules hold between accepted
settings that no single value can break: a wait has a length greater than zero that a clock can
measure, and a place for captures is named only where something is captured.
-/
import Playtest.Program.Failure
import Playtest.Run.Journal

namespace Playtest

structure Settings where
  interpreter? : Option String := none
  game? : Option String := none
  port : Nat := 8090
  /-- The length of a wait, in seconds. -/
  timeout : Binary64 := Binary64.ofRatio false 1 1
  verbose : Bool := false
  tests : List String := []
  capture? : Option CaptureFormat := none
  capturePath? : Option String := none
  root? : Option String := none
  chrome? : Option String := none
  headless : Bool := true
  deriving DecidableEq, Repr

namespace Settings

/-- The length of a wait, if it is one. -/
def wait? (settings : Settings) : Option Duration :=
  if settings.timeout.isAtMostZero then none else Duration.ofSeconds? settings.timeout

/-- The length of a wait.  It is one second where the settings name none, which accepted
settings do. -/
def wait (settings : Settings) : Duration :=
  (Duration.ofSeconds? settings.timeout).getD (Duration.ofSeconds 1)

/-- What is wrong between the settings. -/
def fault? (settings : Settings) : Option SettingsError :=
  if settings.wait?.isNone then
    some (.invalidValue "timeout" settings.timeout.display
      "Use a positive number of seconds, e.g. 1 or 2.5")
  else if settings.capturePath?.isSome ∧ settings.capture?.isNone then
    some (.missingField "capture"
      "capture_path is only used together with --capture or --pdf")
  else none

end Settings
end Playtest
