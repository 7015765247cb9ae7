/-
# Runs

A run performs the selected tests one after the other on one page, each on a fresh load of it.
An error that leaves the browser usable ends its test only, and is counted; any other ends the
run.
-/
import Playtest.Run.Performance

namespace Playtest

/-- A test that ended early. -/
structure AbortedTest where
  test : String
  reason : String
  deriving DecidableEq, Repr

/-- The result of a run. -/
structure RunSummary where
  testsRun : Nat := 0
  errors : Nat := 0
  failures : List CheckFailure := []
  aborted : List AbortedTest := []
  deriving DecidableEq, Repr

/-- No check failed and no test ended early. -/
def RunSummary.passed (summary : RunSummary) : Bool := summary.errors == 0

namespace Run

open Performance

variable {σ : Type}

/-! ## 1. One test -/

/-- Forgets what the last test left behind, loads the page and performs the test. -/
def one (setup : Setup σ) (file : TestFile) (url name : String) (p : Performance σ) :
    Except TestError Unit × Performance σ :=
  let p := p.record (.started name)
  let p : Performance σ := { p with dialogue := p.dialogue.reset }
  match p.openPage setup url with
  | (.error e, p) => (.error (.browser e), p)
  | (.ok (), p) => p.runTest setup file name

/-! ## 2. All tests -/

/-- Performs the tests in order.  Gives those that ended early. -/
def all (setup : Setup σ) (file : TestFile) (url : String) :
    List String → Performance σ → Except TestError (List AbortedTest) × Performance σ
  | [], p => (.ok [], p)
  | name :: names, p =>
    match one setup file url name p with
    | (.ok (), p) => all setup file url names p
    | (.error e, p) =>
      if e.isFatal then (.error e, p)
      else
        let p : Performance σ := { p with errors := p.errors + 1 }
        let p := p.record (.aborted name e)
        match all setup file url names p with
        | (.error e, p) => (.error e, p)
        | (.ok aborted, p) => (.ok (⟨name, e.message⟩ :: aborted), p)

/-- The tests of a run: those selected, or all that the file declares. -/
def selection (file : TestFile) (tests : List String) : List String :=
  if tests = [] then file.testNames else tests

/-- Performs the selected tests on the page at `url`. -/
def run (setup : Setup σ) (file : TestFile) (url : String) (tests : List String)
    (p : Performance σ) : Except TestError RunSummary × Performance σ :=
  let names := selection file tests
  let p := p.record (.info ("running " ++ toString names.length ++ " tests against " ++ url))
  match all setup file url names p with
  | (.error e, p) => (.error e, p)
  | (.ok aborted, p) => (.ok ⟨names.length, p.errors, p.failures, aborted⟩, p)

end Run
end Playtest
