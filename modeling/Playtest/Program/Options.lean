/-
# The command line

The program takes a test file, the names of the tests to perform, and options.  This module is
the table of the options and the record of what a command line says.
-/
import Playtest.Number.Binary64
import Playtest.Run.Journal

namespace Playtest

/-! ## 1. The options -/

/-- An option of the command line. -/
inductive Opt where
  | interpreter
  | game
  | timeout
  | port
  | root
  | verbose
  | list
  | pdf
  | capture
  | capturePath
  | chrome
  | visible
  | config
  | debug
  | quiet
  | noColor
  | help
  | version
  deriving DecidableEq, Repr

namespace Opt

/-- The options in the order in which the help shows them. -/
def all : List Opt :=
  [.interpreter, .game, .timeout, .port, .root, .verbose, .list, .pdf, .capture, .capturePath,
    .chrome, .visible, .config, .debug, .quiet, .noColor, .help, .version]

/-- The letter of an option, if it has one. -/
def letter? : Opt → Option Char
  | .interpreter => some 'i'
  | .game => some 'g'
  | .timeout => some 't'
  | .port => some 'p'
  | .verbose => some 'v'
  | .list => some 'l'
  | .config => some 'c'
  | .quiet => some 'q'
  | .help => some 'h'
  | .version => some 'V'
  | _ => none

/-- The name of an option, without the hyphens before it. -/
def name : Opt → String
  | .interpreter => "interpreter"
  | .game => "game"
  | .timeout => "timeout"
  | .port => "port"
  | .root => "root"
  | .verbose => "verbose"
  | .list => "list"
  | .pdf => "pdf"
  | .capture => "capture"
  | .capturePath => "capture-path"
  | .chrome => "chrome"
  | .visible => "visible"
  | .config => "config"
  | .debug => "debug"
  | .quiet => "quiet"
  | .noColor => "no-color"
  | .help => "help"
  | .version => "version"

/-- What the value of an option is called, if it takes one. -/
def valueName? : Opt → Option String
  | .interpreter => some "PATH_OR_URL"
  | .game => some "PATH_OR_URL"
  | .timeout => some "SECONDS"
  | .port => some "PORT"
  | .root => some "DIR"
  | .capture => some "FORMAT"
  | .capturePath => some "FILE"
  | .chrome => some "PATH"
  | .config => some "FILE"
  | _ => none

/-- An option with its value, as messages and the help write it. -/
def label (o : Opt) : String :=
  match o.valueName? with
  | some value => "--" ++ o.name ++ " <" ++ value ++ ">"
  | none => "--" ++ o.name

/-- Two options that exclude each other. -/
def excludes : Opt → Opt → Bool
  | .pdf, .capture => true
  | .capture, .pdf => true
  | .debug, .quiet => true
  | .quiet, .debug => true
  | _, _ => false

end Opt

/-! ## 2. What a command line says -/

/-- What can be given on a command line. -/
inductive Slot where
  | option (o : Opt)
  | testFile
  | tests
  deriving DecidableEq, Repr

/-- The values of a command line. -/
structure Arguments where
  testFile : String := ""
  tests : List String := []
  interpreter? : Option String := none
  game? : Option String := none
  timeout? : Option Binary64 := none
  port? : Option Nat := none
  root? : Option String := none
  verbose : Bool := false
  list : Bool := false
  pdf : Bool := false
  capture? : Option CaptureFormat := none
  capturePath? : Option String := none
  chrome? : Option String := none
  visible : Bool := false
  config? : Option String := none
  debug : Bool := false
  quiet : Bool := false
  noColor : Bool := false
  deriving DecidableEq, Repr

namespace Arguments

/-- Turns an option without a value on. -/
def turnOn (args : Arguments) : Opt → Arguments
  | .verbose => { args with verbose := true }
  | .list => { args with list := true }
  | .pdf => { args with pdf := true }
  | .visible => { args with visible := true }
  | .debug => { args with debug := true }
  | .quiet => { args with quiet := true }
  | .noColor => { args with noColor := true }
  | _ => args

end Arguments
end Playtest
