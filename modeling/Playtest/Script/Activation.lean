/-
# Walking a test body

An activation reads the directives of one test body, one at a time.  It looks for the line
that starts the test, hands out the directives that follow, and is done at the next start
line or at the end of the file.  Malformed lines of the body are passed over, and the walk
says which it passed.
-/
import Playtest.Script.TestFile

namespace Playtest

/-- Where an activation is in the file. -/
inductive Activation.Stage where
  /-- Looking for the line that starts the test. -/
  | seeking
  /-- Inside the body. -/
  | executing
  /-- Past the body, or at the end of the file. -/
  | done
  deriving DecidableEq, Repr

/-- A walk through the body of the test `name`; `rest` is what it has not read. -/
structure Activation where
  name : String
  rest : List Line
  stage : Activation.Stage
  deriving Repr

/-- Starts walking the body of a test. -/
def TestFile.activate (file : TestFile) (name : String) : Activation :=
  ⟨name, file.lines, .seeking⟩

namespace Activation

/-! ## 1. One step -/

/-- What one step of a walk finds: the next directive, if there is one, the malformed lines
passed on the way, and where the walk stands afterwards. -/
structure Found where
  directive? : Option Directive
  passed : List String
  walk : Activation
  deriving Repr

/-- Reads on inside the body. -/
def nextInBody (name : String) : List Line → Found
  | [] => ⟨none, [], ⟨name, [], .done⟩⟩
  | .testStart _ :: rest => ⟨none, [], ⟨name, rest, .done⟩⟩
  | .directive d :: rest => ⟨some d, [], ⟨name, rest, .executing⟩⟩
  | .malformed raw :: rest =>
    let found := nextInBody name rest
    { found with passed := raw :: found.passed }
  | .blank :: rest => nextInBody name rest
  | .comment :: rest => nextInBody name rest
  | .parameter _ _ :: rest => nextInBody name rest

/-- Looks for the start of the test, then reads on inside the body. -/
def nextFromStart (name : String) : List Line → Found
  | [] => ⟨none, [], ⟨name, [], .done⟩⟩
  | line :: rest =>
    if line = .testStart name then nextInBody name rest else nextFromStart name rest

/-- The next directive. -/
def next (walk : Activation) : Found :=
  match walk.stage with
  | .seeking => nextFromStart walk.name walk.rest
  | .executing => nextInBody walk.name walk.rest
  | .done => ⟨none, [], walk⟩

/-! ## 2. Steps make progress -/

theorem nextInBody_name (name : String) (lines : List Line) :
    (nextInBody name lines).walk.name = name := by
  induction lines with
  | nil => rfl
  | cons line rest ih => cases line <;> first | rfl | exact ih

theorem nextFromStart_name (name : String) (lines : List Line) :
    (nextFromStart name lines).walk.name = name := by
  induction lines with
  | nil => rfl
  | cons line rest ih =>
    rw [nextFromStart]
    split
    · exact nextInBody_name name rest
    · exact ih

/-- A walk keeps its name. -/
@[simp] theorem next_name (walk : Activation) : walk.next.walk.name = walk.name := by
  rw [next]
  split
  · exact nextFromStart_name _ _
  · exact nextInBody_name _ _
  · rfl

theorem nextInBody_length {name : String} {lines : List Line} {d : Directive}
    (h : (nextInBody name lines).directive? = some d) :
    (nextInBody name lines).walk.rest.length < lines.length := by
  induction lines with
  | nil => simp [nextInBody] at h
  | cons line rest ih =>
    cases line with
    | testStart n => simp [nextInBody] at h
    | directive d => simp [nextInBody]
    | malformed raw => exact Nat.lt_succ_of_lt (ih h)
    | blank => exact Nat.lt_succ_of_lt (ih h)
    | comment => exact Nat.lt_succ_of_lt (ih h)
    | parameter n v => exact Nat.lt_succ_of_lt (ih h)

theorem nextFromStart_length {name : String} {lines : List Line} {d : Directive}
    (h : (nextFromStart name lines).directive? = some d) :
    (nextFromStart name lines).walk.rest.length < lines.length := by
  induction lines with
  | nil => simp [nextFromStart] at h
  | cons line rest ih =>
    rw [nextFromStart] at h ⊢
    split
    · next hl =>
      rw [if_pos hl] at h
      exact Nat.lt_succ_of_lt (nextInBody_length h)
    · next hl =>
      rw [if_neg hl] at h
      exact Nat.lt_succ_of_lt (ih h)

/-- A step that finds a directive has read at least one line. -/
theorem next_length {walk : Activation} {d : Directive} (h : walk.next.directive? = some d) :
    walk.next.walk.rest.length < walk.rest.length := by
  rw [next] at h ⊢
  split at h
  · exact nextFromStart_length h
  · exact nextInBody_length h
  · simp at h

/-! ## 3. The whole body -/

/-- All the directives that a walk has still to find, with the malformed lines it passes. -/
def toEnd (walk : Activation) : List Directive × List String × Activation :=
  match h : walk.next with
  | ⟨none, passed, stopped⟩ => ([], passed, stopped)
  | ⟨some d, passed, walk'⟩ =>
    have : walk'.rest.length < walk.rest.length := by
      have := @next_length walk d (by rw [h])
      rwa [h] at this
    let (ds, more, stopped) := walk'.toEnd
    (d :: ds, passed ++ more, stopped)
termination_by walk.rest.length

/-- The text of the warning for a malformed line that a walk passes. -/
def warning (name line : String) : String :=
  "ignoring malformed line in test '" ++ name ++ "': " ++ line

end Activation

/-- The directives of the body of a test, in order. -/
def TestFile.body (file : TestFile) (name : String) : List Directive :=
  (file.activate name).toEnd.1

end Playtest
