/-
# Usage and help

The usage line names what the program takes: all options in general, or, beside an error, those
that were given.  The help lists all of it.  Its short form has one line for each, with the
texts in one column; its long form gives each text a paragraph of its own.
-/
import Playtest.Program.Options

namespace Playtest
namespace Usage

/-- The name of the program. -/
def program : String := "regtest"

/-- The answer to a question for the version. -/
def version : String := program ++ " 0.1.0\n"

/-! ## 1. The usage line -/

/-- The options among what was given. -/
def optionsOf (given : List Slot) : List Opt :=
  given.filterMap fun
    | .option o => some o
    | _ => none

/-- The usage line for what was given. -/
def line (given : List Slot) : String :=
  let options :=
    if given = [] then " [OPTIONS]"
    else String.join ((optionsOf given).eraseDups.map fun o => " " ++ o.label)
  "Usage: " ++ program ++ options ++ " <TESTFILE>" ++
    if given.contains .tests then " <TEST>..." else " [TEST]..."

/-! ## 2. Texts -/

/-- What an option is for. -/
def summary : Opt → String
  | .interpreter => "Interpreter page: a local path or an absolute URL"
  | .game => "Story file: a local path or an absolute URL"
  | .timeout => "Seconds to wait for each input request or trailing output [default: 1]"
  | .port => "Port for the local static server [default: 8090]"
  | .root => "Directory served by the local static server [default: .]"
  | .verbose => "Echo the interpreter's output as it arrives"
  | .list => "List the tests in the file and exit"
  | .pdf => "Save the page as error.pdf when a check fails or a wait times out"
  | .capture => "Save a diagnostic rendering when a check fails or a wait times out"
  | .capturePath => "Where to write the diagnostic rendering [default: error.<format>]"
  | .chrome => "Chrome or Chromium executable"
  | .visible => "Show the browser window"
  | .config => "Configuration file [default: regtest.toml, if present]"
  | .debug => "Enable debug logging"
  | .quiet => "Only log errors"
  | .noColor => "Disable colored output"
  | .help => "Print help"
  | .version => "Print version"

/-- The arguments that are no options, with what they are for. -/
def positional : List (String × String) :=
  [("<TESTFILE>", "Test file to run"),
    ("[TEST]...", "Tests to run, in order (default: every test in the file)")]

/-- The start of the line of an option. -/
def heading (o : Opt) : String :=
  match o.letter? with
  | some c => "-" ++ String.ofList [c] ++ ", " ++ o.label
  | none => "    " ++ o.label

/-! ## 3. The short help -/

/-- What the short help says of an option. -/
def shortText (o : Opt) : String :=
  summary o ++
    match o with
    | .capture => " [possible values: pdf, png]"
    | .help => " (see more with '--help')"
    | _ => ""

/-- Lines of two columns. -/
def columns (rows : List (String × String)) : String :=
  let width := (rows.map fun r => r.1.length).foldl max 0
  String.join (rows.map fun (left, right) =>
    let blanks := String.ofList (List.replicate (width - left.length) ' ')
    "  " ++ left ++ blanks ++ "  " ++ right ++ "\n")

/-- The help with one line for each option. -/
def shortHelp : String :=
  "Run regression tests against a web interactive fiction interpreter\n\n" ++ line [] ++
    "\n\nArguments:\n" ++ columns positional ++
    "\nOptions:\n" ++ columns (Opt.all.map fun o => (heading o, shortText o))

/-! ## 4. The long help -/

/-- A further paragraph on an option. -/
def detail? : Opt → Option String
  | .interpreter => some "          \n          Overrides `** interpreter:` in the test file."
  | .game => some "          \n          Overrides `** game:` in the test file."
  | .capture => some ("\n          Possible values:\n" ++
      "          - pdf: Print the page to PDF\n          - png: PNG screenshot")
  | _ => none

/-- What the long help says of an option. -/
def longText (o : Opt) : String :=
  summary o ++ (if o = .help then " (see a summary with '-h')" else "") ++
    match detail? o with
    | some text => "\n" ++ text
    | none => ""

/-- Paragraphs with a heading each. -/
def paragraphs (rows : List (String × String)) : String :=
  "\n\n".intercalate (rows.map fun (left, right) => "  " ++ left ++ "\n          " ++ right)

/-- The help with a paragraph for each option. -/
def longHelp : String :=
  "Runs the tests in a RegTest-style test file against a GlkOte-based web\n" ++
    "interpreter driven by headless Chrome. Local interpreter and story files\n" ++
    "are served over HTTP from the current directory.\n\n" ++ line [] ++
    "\n\nArguments:\n" ++ paragraphs positional ++
    "\n\nOptions:\n" ++ paragraphs (Opt.all.map fun o => (heading o, longText o)) ++ "\n"

end Usage
end Playtest
