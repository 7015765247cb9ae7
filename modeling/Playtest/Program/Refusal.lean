/-
# Why a command line is not carried out

A command line asks for help instead of a run, or it is wrong.  A wrong one is answered with
what is wrong, perhaps a tip, perhaps the usage of the program, and where to find help.
-/
import Playtest.Program.Usage

namespace Playtest

inductive Refusal where
  /-- The help is asked for, in its long or its short form. -/
  | help (isLong : Bool)
  | version
  /-- An option that is not there: perhaps one with a similar name was meant. -/
  | unknownOption (text : String) (similar? : Option Opt) (given : List Slot)
  /-- Nothing stands where a value must stand. -/
  | missingValue (slot : Slot)
  /-- The value is none of the formats. -/
  | unknownFormat (text : String) (similar? : Option CaptureFormat)
  /-- The value cannot be read. -/
  | badValue (o : Opt) (text reason : String)
  | repeated (o : Opt)
  | conflicting (first second : Opt) (given : List Slot)
  /-- A value for an option that takes none. -/
  | unneededValue (o : Opt) (text : String) (given : List Slot)
  | missingTestFile (given : List Slot)
  deriving DecidableEq, Repr

namespace Refusal

/-- How a message names what it is about. -/
def slotLabel : Slot → String
  | .option o => o.label
  | .testFile => "<TESTFILE>"
  | .tests => "[TEST]..."

/-- The line of the possible formats. -/
def formats : String := "\n  [possible values: pdf, png]"

/-- What is wrong. -/
def headline : Refusal → String
  | .help _ => ""
  | .version => ""
  | .unknownOption text _ _ => "unexpected argument '" ++ text ++ "' found"
  | .missingValue slot =>
    "a value is required for '" ++ slotLabel slot ++ "' but none was supplied" ++
      if slot = .option .capture then formats else ""
  | .unknownFormat text _ =>
    "invalid value '" ++ text ++ "' for '" ++ Opt.capture.label ++ "'" ++ formats
  | .badValue o text reason =>
    "invalid value '" ++ text ++ "' for '" ++ o.label ++ "': " ++ reason
  | .repeated o => "the argument '" ++ o.label ++ "' cannot be used multiple times"
  | .conflicting first second _ =>
    "the argument '" ++ first.label ++ "' cannot be used with '" ++ second.label ++ "'"
  | .unneededValue o text _ =>
    "unexpected value '" ++ text ++ "' for '" ++ o.label ++ "' found; no more were expected"
  | .missingTestFile _ =>
    "the following required arguments were not provided:\n  <TESTFILE>"

/-- What may help. -/
def tip? : Refusal → Option String
  | .unknownOption _ (some o) _ => some ("a similar argument exists: '--" ++ o.name ++ "'")
  | .unknownOption text none _ =>
    some ("to pass '" ++ text ++ "' as a value, use '-- " ++ text ++ "'")
  | .unknownFormat _ (some format) =>
    some ("a similar value exists: '" ++ format.extension ++ "'")
  | _ => none

/-- The usage beside the message. -/
def usage? : Refusal → Option String
  | .unknownOption _ _ given => some (Usage.line given)
  | .repeated _ => some (Usage.line [])
  | .conflicting _ _ given => some (Usage.line given)
  | .unneededValue _ _ given => some (Usage.line given)
  | .missingTestFile given => some (Usage.line given)
  | _ => none

/-- The text goes to standard output, and the program ends as if all were well. -/
def isAnswer : Refusal → Bool
  | .help _ => true
  | .version => true
  | _ => false

/-- The exit status of the program. -/
def exitCode (refusal : Refusal) : Nat := if refusal.isAnswer then 0 else 2

/-- The whole text. -/
def text (refusal : Refusal) : String :=
  match refusal with
  | .help isLong => if isLong then Usage.longHelp else Usage.shortHelp
  | .version => Usage.version
  | refusal =>
    let tip := match refusal.tip? with | some tip => "\n\n  tip: " ++ tip | none => ""
    let usage := match refusal.usage? with | some usage => "\n\n" ++ usage | none => ""
    "error: " ++ refusal.headline ++ tip ++ usage ++
      "\n\nFor more information, try '--help'.\n"

end Refusal
end Playtest
