/-
# The log

The log is for whoever looks for the cause of something.  Every line has a severity and is
written by a part of the program, and a filter says which lines are shown.

A filter is a list of rules.  A rule is for the parts whose names begin in a certain way, and
says how severe a line must be.  For each line the rule with the longest beginning decides.
-/
import Playtest.Terminal.Style
import Playtest.Text.Blank
import Playtest.Text.Search

namespace Playtest

/-! ## 1. Lines -/

inductive Severity where
  | error
  | warning
  | info
  | debug
  | trace
  deriving DecidableEq, Repr

namespace Severity

/-- The place of a severity, the most severe first. -/
def rank : Severity → Nat
  | .error => 1
  | .warning => 2
  | .info => 3
  | .debug => 4
  | .trace => 5

def label : Severity → String
  | .error => "ERROR"
  | .warning => " WARN"
  | .info => " INFO"
  | .debug => "DEBUG"
  | .trace => "TRACE"

/-- The number of the colour that a severity is shown in. -/
def colour : Severity → Nat
  | .error => 31
  | .warning => 33
  | .info => 32
  | .debug => 34
  | .trace => 35

end Severity

/-- The parts of the program that write to the log. -/
inductive Part where
  | testFile
  | performance
  | run
  | browser
  | page
  | server
  | session
  deriving DecidableEq, Repr

/-- The name by which a filter knows a part. -/
def Part.name : Part → String
  | .testFile => "regtest::testfile"
  | .performance => "regtest::interpreter"
  | .run => "regtest::runner"
  | .browser => "regtest::browser"
  | .page => "regtest::page"
  | .server => "regtest_cli::server"
  | .session => "regtest_cli::commands::run"

structure LogLine where
  severity : Severity
  part : Part
  message : String
  deriving DecidableEq, Repr

/-- The text of a line with its time. -/
def LogLine.text (coloured : Bool) (time : String) (line : LogLine) : String :=
  let painted (number : Nat) (text : String) : String :=
    if coloured then "\x1b[" ++ toString number ++ "m" ++ text ++ Attribute.reset else text
  painted 2 time ++ " " ++ painted line.severity.colour line.severity.label ++ " " ++ line.message

/-! ## 2. Filters -/

/-- A rule of a filter. -/
structure LogRule where
  /-- The beginning of the names it is for. -/
  start : String
  /-- The rank of the least severe line that is shown. -/
  rank : Nat
  deriving DecidableEq, Repr

abbrev LogFilter := List LogRule

namespace LogFilter

/-- The names of the ranks, from none on. -/
def rankNames : List String := ["off", "error", "warn", "info", "debug", "trace"]

/-- The rank that a word names, in letters of any case or as a digit. -/
def rank? (word : String) : Option Nat :=
  let word := word.map Char.toLower
  match rankNames.findIdx? (· == word) with
  | some n => some n
  | none => (List.range rankNames.length).find? fun n => toString n == word

/-- The rule that a text states: a rank for all parts, or the beginning of a name with a rank
or without one. -/
def rule? (text : String) : Option LogRule :=
  let s := Text.trim text.toList
  let starts := s.head?.any fun c =>
    c.isAlphanum || c == '-' || c == ':' || c == '_' || 128 ≤ c.toNat
  if !starts ∧ s ≠ [] then none
  else
    match Text.cutAt? '=' s with
    | some (start, []) => some ⟨String.ofList start, Severity.trace.rank⟩
    | some (start, word) => (rank? (String.ofList word)).map (⟨String.ofList start, ·⟩)
    | none =>
      match rank? (String.ofList s) with
      | some n => some ⟨"", n⟩
      | none => some ⟨String.ofList s, Severity.trace.rank⟩

/-- The filter that a text states: rules with commas between them.  Without a rule, only errors
are shown. -/
def parse? (text : String) : Option LogFilter :=
  match (Text.splitAt ',' text.toList).filter (· ≠ []) with
  | [] => some [⟨"", Severity.error.rank⟩]
  | parts => parts.mapM fun part => rule? (String.ofList part)

/-- The rule that decides on a part, if there is one.  Of two for the same names the later one
decides. -/
def decisive? (filter : LogFilter) (part : String) : Option LogRule :=
  let applies := filter.filter fun rule => rule.start.toList.isPrefixOf part.toList
  applies.foldl (fun best? rule =>
    match best? with
    | some best => if best.start.length ≤ rule.start.length then some rule else some best
    | none => some rule) none

/-- The filter shows a line. -/
def shows (filter : LogFilter) (line : LogLine) : Bool :=
  (filter.decisive? line.part.name).any fun rule => line.severity.rank ≤ rule.rank

/-- The filter that shows the lines of this program from a severity on. -/
def ofSeverity (severity : Severity) : LogFilter := [⟨"regtest", severity.rank⟩]

/-- The filter of a run.  Options come before the environment. -/
def choose (debug quiet : Bool) (vars : Variables) : LogFilter :=
  if debug then ofSeverity .debug
  else if quiet then ofSeverity .error
  else ((vars.lookup "RUST_LOG").bind parse?).getD (ofSeverity .info)

end LogFilter
end Playtest
