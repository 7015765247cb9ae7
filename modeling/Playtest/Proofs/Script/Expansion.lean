/-
# A test with its includes written out

A test is played by a stack of activations, one for every body under way
(`Script/Cue.lean`).  This file says what that stack amounts to: `TestFile.expansion` walks a
body from top to bottom, keeps its checks and its inputs, and puts the expansion of a test where
that test is included.  It stops at an include of a test that is not declared, or that is being
expanded already.

The two are the same script.  `remaining` is the expansion of what a stack has still to play,
and `remaining_of_some` says that the next cue of the stack is the next item of that expansion,
with the expansion of the stack behind it after it.
-/
import Playtest.Script.Cue

namespace Playtest

/-! ## 1. Bodies -/

/-- A line of a test body that is not skipped without a word. -/
inductive BodyLine where
  | directive (directive : Directive)
  | malformed (line : String)
  deriving DecidableEq, Repr

/-- The directive of a line, if it has one. -/
def BodyLine.directive? : BodyLine → Option Directive
  | .directive d => some d
  | .malformed _ => none

namespace Line

/-- What a line is as a line of a body. -/
def inBody? : Line → Option BodyLine
  | .directive d => some (.directive d)
  | .malformed raw => some (.malformed raw)
  | _ => none

/-- The line starts a test. -/
def isStart : Line → Bool
  | .testStart _ => true
  | _ => false

/-- The lines behind the first one that starts this test. -/
def behindStart (name : String) (lines : List Line) : List Line :=
  (lines.dropWhile fun line => line ≠ .testStart name).drop 1

/-- The body that begins with these lines: it goes up to the next line that starts a test. -/
def body (lines : List Line) : List BodyLine :=
  (lines.takeWhile fun line => !line.isStart).filterMap inBody?

end Line

/-- The body of a test: what stands between its start line and the next start line of any test,
or the end of the file. -/
def TestFile.bodyLines (file : TestFile) (name : String) : List BodyLine :=
  Line.body (Line.behindStart name file.lines)

/-! ## 2. Expansions -/

/-- One thing that a script without includes asks for. -/
inductive Expansion.Item where
  /-- A check, with the test whose body has it. -/
  | check (owner : String) (check : Check)
  | input (input : Input)
  /-- A malformed line, which is only warned of. -/
  | passed (passed : Passed)
  deriving DecidableEq, Repr

/-- How a script ends. -/
inductive Expansion.Ending where
  /-- Everything was written out. -/
  | complete
  /-- An include of a test that is not declared. -/
  | unknown (name : String)
  /-- An include of a test that is being expanded. -/
  | cycle (chain : List String)
  deriving DecidableEq, Repr

/-- A script without includes. -/
structure Expansion where
  items : List Expansion.Item
  ending : Expansion.Ending
  deriving DecidableEq, Repr

namespace Expansion

/-- The script that ends at once. -/
def stop (ending : Ending) : Expansion := ⟨[], ending⟩

/-- Puts items in front. -/
def after (items : List Item) (x : Expansion) : Expansion := { x with items := items ++ x.items }

/-- Goes on with another script, if the first one is complete. -/
def andThen (x y : Expansion) : Expansion :=
  match x.ending with
  | .complete => y.after x.items
  | _ => x

@[simp] theorem after_after (is js : List Item) (x : Expansion) :
    (x.after js).after is = x.after (is ++ js) := by
  simp [after]

@[simp] theorem complete_andThen (y : Expansion) : (stop .complete).andThen y = y := rfl

@[simp] theorem andThen_complete (x : Expansion) : x.andThen (stop .complete) = x := by
  obtain ⟨items, ending⟩ := x
  cases ending <;> simp [andThen, after, stop]

@[simp] theorem after_andThen (items : List Item) (x y : Expansion) :
    (x.after items).andThen y = (x.andThen y).after items := by
  obtain ⟨is, ending⟩ := x
  cases ending <;> simp [andThen, after]

theorem andThen_assoc (x y z : Expansion) :
    (x.andThen y).andThen z = x.andThen (y.andThen z) := by
  obtain ⟨items, ending⟩ := x
  cases ending with
  | complete => exact after_andThen items y z
  | unknown name => rfl
  | cycle chain => rfl

end Expansion

namespace TestFile

/-- The declared tests that are not among these names, with repetitions. -/
def others (file : TestFile) (names : List String) : Nat :=
  (file.testNames.filter fun name => !names.contains name).length

/-- Fewer declared tests are left when one of them is added to the names. -/
theorem others_cons_lt {file : TestFile} {names : List String} {name : String}
    (hc : file.contains name = true) (hn : ¬names.contains name = true) :
    file.others (name :: names) < file.others names := by
  have hp : (!names.contains name) = true := by simpa using hn
  refine Cue.filter_length_lt (a := name) ?_ (List.contains_iff_mem.1 hc) hp (by simp)
  intro t ht
  simp only [List.contains_cons, Bool.not_or, Bool.and_eq_true] at ht
  exact ht.2

/-- The expansion of some lines of the body of the test `name`, which was reached through the
includes of the tests `outer`, the innermost first. -/
def expand (file : TestFile) (outer : List String) (name : String) : List BodyLine → Expansion
  | [] => .stop .complete
  | .malformed raw :: rest => (expand file outer name rest).after [.passed ⟨name, raw⟩]
  | .directive (.check c) :: rest => (expand file outer name rest).after [.check name c]
  | .directive (.input i) :: rest => (expand file outer name rest).after [.input i]
  | .directive (.includeTest included) :: rest =>
    if _hc : file.contains included = true then
      if _hn : (name :: outer).contains included = true then
        .stop (.cycle ((name :: outer).reverse ++ [included]))
      else
        (expand file (name :: outer) included (file.bodyLines included)).andThen
          (expand file outer name rest)
    else .stop (.unknown included)
termination_by lines => (file.others (name :: outer), lines.length)
decreasing_by
  all_goals first
    | exact Prod.Lex.right _ (Nat.lt_succ_self _)
    | exact Prod.Lex.left _ _ (others_cons_lt _hc _hn)

/-- The expansion of a test. -/
def expansion (file : TestFile) (name : String) : Expansion :=
  if file.contains name then file.expand [] name (file.bodyLines name)
  else .stop (.unknown name)

end TestFile

/-! ## 3. What an activation has still to play -/

namespace Activation

/-- The lines of its body that an activation has not read. -/
def linesLeft (walk : Activation) : List BodyLine :=
  match walk.stage with
  | .seeking => Line.body (Line.behindStart walk.name walk.rest)
  | .executing => Line.body walk.rest
  | .done => []

/-- What a step of a walk passes, finds and leaves. -/
def Found.lines (found : Found) : List BodyLine :=
  found.passed.map .malformed ++
    match found.directive? with
    | none => []
    | some d => .directive d :: found.walk.linesLeft

theorem lines_nextInBody (name : String) (lines : List Line) :
    (nextInBody name lines).lines = Line.body lines := by
  induction lines with
  | nil => rfl
  | cons line rest ih =>
    cases line with
    | testStart n => rfl
    | directive d => rfl
    | malformed raw => exact congrArg (BodyLine.malformed raw :: ·) ih
    | blank => exact ih
    | comment => exact ih
    | parameter n v => exact ih

theorem lines_nextFromStart (name : String) (lines : List Line) :
    (nextFromStart name lines).lines = Line.body (Line.behindStart name lines) := by
  induction lines with
  | nil => rfl
  | cons line rest ih =>
    by_cases h : line = .testStart name
    · rw [nextFromStart, if_pos h, lines_nextInBody]
      simp [Line.behindStart, h]
    · rw [nextFromStart, if_neg h, ih]
      simp [Line.behindStart, h]

/-- **A step of a walk loses nothing.**  The lines that it passes, the directive that it finds
and the lines that are left behind it are the lines that were left before it. -/
theorem lines_next (walk : Activation) : walk.next.lines = walk.linesLeft := by
  obtain ⟨name, rest, stage⟩ := walk
  cases stage with
  | seeking => exact lines_nextFromStart name rest
  | executing => exact lines_nextInBody name rest
  | done => rfl

theorem directives_malformed (passed : List String) (lines : List BodyLine) :
    (passed.map BodyLine.malformed ++ lines).filterMap BodyLine.directive? =
      lines.filterMap BodyLine.directive? := by
  induction passed with
  | nil => rfl
  | cons raw passed ih => exact ih

/-- A walk to the end finds the directives of all lines that are left. -/
theorem directives_toEnd (walk : Activation) :
    walk.toEnd.1 = walk.linesLeft.filterMap BodyLine.directive? := by
  induction hn : walk.rest.length using Nat.strongRecOn generalizing walk with
  | _ n ih =>
    subst hn
    have left := lines_next walk
    rw [toEnd]
    split
    · next passed stopped h =>
      rw [h] at left
      rw [← left]
      exact (directives_malformed passed []).symm
    · next d passed walk' h =>
      have shorter : walk'.rest.length < walk.rest.length := by
        have := @next_length walk d (by rw [h])
        rwa [h] at this
      rw [h, Found.lines] at left
      rw [← left, directives_malformed]
      exact congrArg (d :: ·) (ih _ shorter walk' rfl)

end Activation

/-- The directives of a body are those that a walk through it finds. -/
theorem TestFile.directives_bodyLines (file : TestFile) (name : String) :
    (file.bodyLines name).filterMap BodyLine.directive? = file.body name :=
  (Activation.directives_toEnd (file.activate name)).symm

/-! ## 4. What a stack has still to play -/

namespace Cue

/-- The names of the tests under way, the innermost first. -/
def names (stack : List Activation) : List String := stack.map Activation.name

theorem underWay_eq (stack : List Activation) (name : String) :
    underWay stack name = (names stack).contains name := by
  rw [Bool.eq_iff_iff]
  simp [underWay, names]

/-- The expansion of what a stack has still to play. -/
def remaining (file : TestFile) : List Activation → Expansion
  | [] => .stop .complete
  | top :: below =>
    (file.expand (names below) top.name top.linesLeft).andThen (remaining file below)

/-- The item that a cue stands for, or the way in which it ends the script. -/
def expansion (file : TestFile) : Cue → List Activation → Expansion
  | .check owner c, stack => (remaining file stack).after [.check owner c]
  | .input i, stack => (remaining file stack).after [.input i]
  | .entered _, stack => remaining file stack
  | .unknown name, _ => .stop (.unknown name)
  | .cycle chain, _ => .stop (.cycle chain)

theorem expand_passed (file : TestFile) (outer : List String) (name : String)
    (passed : List String) (lines : List BodyLine) :
    file.expand outer name (passed.map .malformed ++ lines) =
      (file.expand outer name lines).after
        ((passed.map (Passed.mk name)).map .passed) := by
  induction passed with
  | nil => rfl
  | cons raw passed ih =>
    rw [List.map_cons, List.cons_append, TestFile.expand, ih, Expansion.after_after]
    rfl

/-- The directive of the innermost body, with what is left behind it. -/
theorem expansion_ofDirective (file : TestFile) (walk : Activation) (below : List Activation)
    (d : Directive) :
    (file.expand (names below) walk.name (.directive d :: walk.linesLeft)).andThen
        (remaining file below) =
      expansion file (ofDirective file (walk :: below) walk.name d).1
        (ofDirective file (walk :: below) walk.name d).2 := by
  cases d with
  | check c => rw [TestFile.expand, Expansion.after_andThen]; rfl
  | input i => rw [TestFile.expand, Expansion.after_andThen]; rfl
  | includeTest name =>
    have hu : underWay (walk :: below) name = (walk.name :: names below).contains name :=
      underWay_eq (walk :: below) name
    rw [TestFile.expand, ofDirective, hu]
    by_cases hc : file.contains name = true
    · by_cases hn : (walk.name :: names below).contains name = true
      · simp only [hc, hn]
        rfl
      · simp only [hc, hn]
        exact Expansion.andThen_assoc _ _ _
    · simp only [hc]
      rfl

/-- The expansion of a stack, read off its innermost activation. -/
theorem remaining_cons (file : TestFile) (top : Activation) (below : List Activation) :
    remaining file (top :: below) =
      (match top.next.directive? with
        | none => remaining file below
        | some d =>
          expansion file (ofDirective file (top.next.walk :: below) top.name d).1
            (ofDirective file (top.next.walk :: below) top.name d).2).after
        ((top.next.passed.map (Passed.mk top.name)).map .passed) := by
  rw [remaining, ← Activation.lines_next, Activation.Found.lines, expand_passed,
    Expansion.after_andThen]
  congr 1
  cases top.next.directive? with
  | none => rw [TestFile.expand, Expansion.complete_andThen]
  | some d =>
    have hn : top.next.walk.name = top.name := Activation.next_name top
    have := expansion_ofDirective file top.next.walk below d
    rw [hn] at this
    exact this

/-- A stack that gives no cue has nothing left but malformed lines. -/
theorem remaining_of_none {file : TestFile} {stack : List Activation} {passed : List Passed}
    (h : next file stack = (passed, none)) :
    remaining file stack = ⟨passed.map .passed, .complete⟩ := by
  induction stack generalizing passed with
  | nil =>
    cases h
    rfl
  | cons top below ih =>
    rw [remaining_cons]
    rw [next] at h
    cases hd : top.next.directive? with
    | none =>
      rw [hd] at h
      obtain ⟨rfl, hb⟩ := Prod.mk.inj h
      have below := ih (Prod.ext rfl hb)
      simp [below, Expansion.after]
    | some d =>
      rw [hd] at h
      exact absurd (congrArg Prod.snd h) (by simp)

/-- **The next cue of a stack is the next item of its expansion.**  Before it stand the
malformed lines on the way, and behind it the expansion of the stack that is left. -/
theorem remaining_of_some {file : TestFile} {stack stack' : List Activation}
    {passed : List Passed} {cue : Cue} (h : next file stack = (passed, some (cue, stack'))) :
    remaining file stack = (expansion file cue stack').after (passed.map .passed) := by
  induction stack generalizing passed with
  | nil => exact absurd (congrArg Prod.snd h) (by simp [next])
  | cons top below ih =>
    rw [remaining_cons]
    rw [next] at h
    cases hd : top.next.directive? with
    | none =>
      rw [hd] at h
      obtain ⟨rfl, hb⟩ := Prod.mk.inj h
      have below := ih (Prod.ext rfl hb)
      simp [below]
    | some d =>
      rw [hd] at h
      obtain ⟨rfl, hc⟩ := Prod.mk.inj h
      have pair := Option.some.inj hc
      simp only [pair]

/-- The stack with which a test begins has the whole test to play. -/
theorem remaining_activate {file : TestFile} {name : String} (h : file.contains name = true) :
    remaining file [file.activate name] = file.expansion name := by
  rw [TestFile.expansion, if_pos h, remaining, remaining, Expansion.andThen_complete]
  rfl

end Cue
end Playtest
