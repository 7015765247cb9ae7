/-
# Starting a browser

What a browser is told when it is started, and why it may not start.
-/
import Playtest.Run.Error
import Playtest.Text.Quoted

namespace Playtest

/-! ## 1. What a browser is told -/

/-- How to start a browser. -/
structure LaunchConfig where
  /-- Show no window. -/
  headless : Bool := true
  /-- The size of the window, which is also the size of the page. -/
  width : Nat := 1280
  height : Nat := 960
  /-- More words for the command line of the browser. -/
  arguments : List String :=
    ["--no-sandbox", "--disable-dev-shm-usage", "--allow-file-access-from-files"]
  /-- The program to start.  Without one, an installed browser is looked for. -/
  program? : Option String := none
  deriving DecidableEq, Repr

namespace LaunchConfig

/-- The configuration as the log shows it. -/
def describe (config : LaunchConfig) : String :=
  let program :=
    match config.program? with
    | some path => "Some(" ++ Text.quoted path ++ ")"
    | none => "None"
  "ChromeConfig \x7b headless: " ++ (if config.headless then "true" else "false") ++
    ", window_size: (" ++ toString config.width ++ ", " ++ toString config.height ++
    "), args: [" ++ ", ".intercalate (config.arguments.map Text.quoted) ++
    "], chrome_path: " ++ program ++ " \x7d"

end LaunchConfig

/-! ## 2. Why a browser does not start -/

inductive LaunchFault where
  /-- No browser is named and none is installed. -/
  | notInstalled
  /-- The program is not there. -/
  | missing (path : String)
  /-- The program cannot be started, or cannot be reached once it is. -/
  | failed (reason : String)
  deriving DecidableEq, Repr

def LaunchFault.error : LaunchFault → BrowserError
  | .notInstalled =>
    .launchFailed "invalid browser configuration: Could not auto detect a chrome executable" none
  | .missing path =>
    .launchFailed "failed to launch Chrome process"
      (some ("could not canonicalize `" ++ path ++ "`"))
  | .failed reason => .launchFailed "failed to launch Chrome process" (some reason)

end Playtest
