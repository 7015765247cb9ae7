/-
# The bodies of a file

A file is read twice.  `TestFile.testNames` collects the names that are declared in it, and an
activation walks through it from the top to hand out one body.  This file proves that the two
readings agree, whatever stands in the file.

* A step of a walk (`Activation.next`) may read many lines.  `Activation.advance` reads one, and
  a step is as many of these as it takes to find a directive or the end (`next_of_advance`).  So
  the stages of a walk can be told line by line: `advance_stage` has all that a line does to
  them.
* A walk gets into a body if and only if the test is declared (`reaches_body_iff`).
* `flatMap_directives` is the account of the file: if no name is declared twice, the bodies one
  behind the other are all that stands behind the first start line.
-/
import Playtest.Proofs.Script.Expansion

namespace Playtest

/-! ## 1. Lines -/

namespace Line

/-- The name that a line declares. -/
def start? : Line → Option String
  | .testStart name => some name
  | _ => none

/-- The directive that a line is. -/
def directive? : Line → Option Directive
  | .directive d => some d
  | _ => none

/-- The directives of some lines, in order. -/
def directives (lines : List Line) : List Directive := lines.filterMap directive?

/-- The lines up to the first one that starts a test. -/
def upToStart (lines : List Line) : List Line := lines.takeWhile fun line => !line.isStart

/-- The lines from the first one on that starts a test. -/
def fromStart (lines : List Line) : List Line := lines.dropWhile fun line => !line.isStart

@[simp] theorem directives_append (xs ys : List Line) :
    directives (xs ++ ys) = directives xs ++ directives ys :=
  List.filterMap_append

/-- The directives of a body are those of its lines. -/
theorem directives_body (lines : List Line) :
    (body lines).filterMap BodyLine.directive? = directives (upToStart lines) := by
  rw [body, directives, upToStart, List.filterMap_filterMap]
  refine congrArg (List.filterMap · _) (funext fun line => ?_)
  cases line <;> rfl

/-- What stands up to a start line, and from there on, is everything. -/
theorem directives_upToStart_fromStart (lines : List Line) :
    directives (upToStart lines) ++ directives (fromStart lines) = directives lines := by
  rw [← directives_append, upToStart, fromStart, List.takeWhile_append_dropWhile]

section
variable {name : String}

/-- Behind the start line of a test stands what is behind its first one. -/
theorem behindStart_append {before : List Line} (hb : .testStart name ∉ before)
    (behind : List Line) : behindStart name (before ++ .testStart name :: behind) = behind := by
  have others : ∀ line ∈ before, decide (line ≠ .testStart name) = true := by
    intro line hl
    exact decide_eq_true fun same => hb (same ▸ hl)
  rw [behindStart, List.dropWhile_append_of_pos others, List.dropWhile_cons_of_neg (by simp)]
  rfl

/-- A test that is not declared has nothing behind its start line. -/
theorem behindStart_of_not_mem {lines : List Line} (h : .testStart name ∉ lines) :
    behindStart name lines = [] := by
  have others : ∀ line ∈ lines, decide (line ≠ .testStart name) = true := by
    intro line hl
    exact decide_eq_true fun same => h (same ▸ hl)
  have none : (lines ++ []).dropWhile (fun line => decide (line ≠ testStart name)) = [] :=
    List.dropWhile_append_of_pos others
  rw [List.append_nil] at none
  rw [behindStart, none]
  rfl

theorem behindStart_cons_of_ne {line : Line} (h : line ≠ .testStart name) (rest : List Line) :
    behindStart name (line :: rest) = behindStart name rest := by
  simp [behindStart, h]

theorem behindStart_cons_self (rest : List Line) :
    behindStart name (.testStart name :: rest) = rest := by
  simp [behindStart]

theorem mem_starts_iff {lines : List Line} :
    name ∈ lines.filterMap start? ↔ .testStart name ∈ lines := by
  rw [List.mem_filterMap]
  constructor
  · rintro ⟨line, hl, hs⟩
    cases line with
    | testStart n =>
      cases hs
      exact hl
    | _ => cases hs
  · intro h
    exact ⟨_, h, rfl⟩

end

/-- **The account of the lines.**  If no name is declared twice, then what stands behind the start
lines, each up to the next one, is all that stands from the first start line on. -/
theorem flatMap_directives {lines : List Line} (h : (lines.filterMap start?).Nodup) :
    (lines.filterMap start?).flatMap
        (fun name => directives (upToStart (behindStart name lines))) =
      directives (fromStart lines) := by
  induction lines with
  | nil => rfl
  | cons line rest ih =>
    cases hs : line.start? with
    | none =>
      -- a line before the first test belongs to none
      have other (name : String) : line ≠ .testStart name := by
        rintro rfl
        cases hs
      have skipped : fromStart (line :: rest) = fromStart rest := by
        cases line with
        | testStart n => cases hs
        | _ => rfl
      rw [List.filterMap_cons_none hs] at h ⊢
      rw [skipped, ← ih h]
      refine congrArg List.flatten (List.map_congr_left fun name _ => ?_)
      rw [behindStart_cons_of_ne (other name)]
    | some name =>
      obtain rfl : line = .testStart name := by
        cases line with
        | testStart n => cases hs; rfl
        | _ => cases hs
      rw [List.filterMap_cons_some hs] at h ⊢
      obtain ⟨unique, distinct⟩ := List.nodup_cons.1 h
      have others : (rest.filterMap start?).flatMap
          (fun n => directives (upToStart (behindStart n (.testStart name :: rest)))) =
            directives (fromStart rest) := by
        rw [← ih distinct]
        refine congrArg List.flatten (List.map_congr_left fun n hn => ?_)
        have ne : Line.testStart name ≠ .testStart n := by
          rintro same
          cases same
          exact unique hn
        rw [behindStart_cons_of_ne ne]
      rw [List.flatMap_cons, others, behindStart_cons_self, directives_upToStart_fromStart]
      rfl

end Line

namespace TestFile

theorem testNames_eq (file : TestFile) : file.testNames = file.lines.filterMap Line.start? := by
  refine congrArg (List.filterMap · file.lines) (funext fun line => ?_)
  cases line <;> rfl

theorem mem_testNames_iff {file : TestFile} {name : String} :
    name ∈ file.testNames ↔ .testStart name ∈ file.lines := by
  rw [testNames_eq]
  exact Line.mem_starts_iff

/-- The body of a test has the directives behind its start line, up to the next one. -/
theorem body_eq (file : TestFile) (name : String) :
    file.body name =
      Line.directives (Line.upToStart (Line.behindStart name file.lines)) := by
  rw [← directives_bodyLines]
  exact Line.directives_body _

end TestFile

/-! ## 2. One line of a walk -/

namespace Activation

/-- Reads one line.  Gives the directive that it is, if the walk is in the body. -/
def advance (walk : Activation) : Option Directive × Activation :=
  match walk.stage, walk.rest with
  | .done, _ => (none, walk)
  | _, [] => (none, ⟨walk.name, [], .done⟩)
  | .seeking, line :: rest =>
    (none, ⟨walk.name, rest, if line = .testStart walk.name then .executing else .seeking⟩)
  | .executing, line :: rest =>
    (line.directive?, ⟨walk.name, rest, if line.isStart then .done else .executing⟩)

/-- The walk when some lines are read. -/
def after : Nat → Activation → Activation
  | 0, walk => walk
  | n + 1, walk => after n walk.advance.2

/-- **A step reads lines until it finds a directive or the walk is done.** -/
theorem next_of_advance (walk : Activation) :
    match walk.advance with
    | (some d, walk') => walk.next.directive? = some d ∧ walk.next.walk = walk'
    | (none, walk') =>
      walk.next.directive? = walk'.next.directive? ∧ walk.next.walk = walk'.next.walk := by
  obtain ⟨name, rest, stage⟩ := walk
  cases stage with
  | done => exact ⟨rfl, rfl⟩
  | seeking =>
    cases rest with
    | nil => exact ⟨rfl, rfl⟩
    | cons line rest =>
      by_cases h : line = .testStart name
      · simp [advance, next, nextFromStart, h]
      · simp [advance, next, nextFromStart, h]
  | executing =>
    cases rest with
    | nil => exact ⟨rfl, rfl⟩
    | cons line rest => cases line <;> exact ⟨rfl, rfl⟩

/-- A step that finds nothing has come to the end. -/
theorem stage_of_none {walk : Activation} (h : walk.next.directive? = none) :
    walk.next.walk.stage = .done := by
  have body (name : String) (lines : List Line) (h : (nextInBody name lines).directive? = none) :
      (nextInBody name lines).walk.stage = .done := by
    induction lines with
    | nil => rfl
    | cons line rest ih => cases line <;> first | rfl | exact ih h | cases h
  have start (name : String) (lines : List Line)
      (h : (nextFromStart name lines).directive? = none) :
      (nextFromStart name lines).walk.stage = .done := by
    induction lines with
    | nil => rfl
    | cons line rest ih =>
      rw [nextFromStart] at h ⊢
      split at h
      · next hl => rw [if_pos hl]; exact body name rest h
      · next hl => rw [if_neg hl]; exact ih h
  obtain ⟨name, rest, stage⟩ := walk
  cases stage with
  | seeking => exact start name rest h
  | executing => exact body name rest h
  | done => rfl

/-- What a line may do to the stage of a walk.  It gets into the body at the start line, and out of
it at the next start line or at the end of the file; and it may find the end of the file without
having been in the body. -/
inductive Stage.Turns (name : String) : List Line → Stage → Stage → Prop where
  | stays (rest : List Line) (stage : Stage) : Turns name rest stage stage
  | enters (rest : List Line) : Turns name (.testStart name :: rest) .seeking .executing
  | leaves (rest : List Line) (next : String) :
    Turns name (.testStart next :: rest) .executing .done
  | ends (stage : Stage) : Turns name [] stage .done

theorem advance_stage (walk : Activation) :
    Stage.Turns walk.name walk.rest walk.stage walk.advance.2.stage := by
  obtain ⟨name, rest, stage⟩ := walk
  cases stage with
  | done => exact .stays rest .done
  | seeking =>
    cases rest with
    | nil => exact .ends .seeking
    | cons line rest =>
      by_cases h : line = .testStart name
      · simpa [advance, h] using Stage.Turns.enters rest
      · simpa [advance, h] using Stage.Turns.stays (line :: rest) .seeking
  | executing =>
    cases rest with
    | nil => exact .ends .executing
    | cons line rest =>
      cases line with
      | testStart n => exact .leaves rest n
      | _ => exact .stays _ .executing

/-! ## 3. Walks that get into a body -/

/-- A walk that gets into a body is in it, or the start line is still to come. -/
theorem start_of_reaches {n : Nat} {walk : Activation}
    (h : (walk.after n).stage = .executing) :
    walk.stage = .executing ∨ .testStart walk.name ∈ walk.rest := by
  induction n generalizing walk with
  | zero => exact .inl h
  | succ n ih =>
    obtain ⟨name, rest, stage⟩ := walk
    cases stage with
    | executing => exact .inl rfl
    | done => exact ih h
    | seeking =>
      cases rest with
      | nil => rcases ih h with h | h <;> cases h
      | cons line rest =>
        by_cases hl : line = .testStart name
        · exact .inr (by simp [hl])
        · rcases ih h with h | h
          · simp [advance, hl] at h
          · exact .inr (List.mem_cons_of_mem line h)

/-- A walk that looks for a start line gets to it. -/
theorem reaches_of_start {name : String} {rest : List Line} (h : .testStart name ∈ rest) :
    ∃ n, ((⟨name, rest, .seeking⟩ : Activation).after n).stage = .executing := by
  induction rest with
  | nil => cases h
  | cons line rest ih =>
    by_cases hl : line = .testStart name
    · exact ⟨1, by simp [after, advance, hl]⟩
    · obtain ⟨n, hn⟩ := ih ((List.mem_cons.1 h).resolve_left (Ne.symm hl))
      refine ⟨n + 1, ?_⟩
      simpa [after, advance, hl] using hn

end Activation

/-- **A walk gets into the body of a test if and only if the test is declared.** -/
theorem TestFile.reaches_body_iff (file : TestFile) (name : String) :
    (∃ n, ((file.activate name).after n).stage = .executing) ↔ name ∈ file.testNames := by
  rw [mem_testNames_iff]
  constructor
  · rintro ⟨n, hn⟩
    rcases Activation.start_of_reaches hn with h | h
    · cases h
    · exact h
  · exact Activation.reaches_of_start

/-! ## 4. The file -/

/-- **The bodies of a file are a partition of its directives.**  The lines of the file are those of
the source between line feeds, trimmed and classified.  A test is declared if and only if it is
found, and if and only if a walk gets into its body.  The walk then hands out the directives
between the first start line of the test and the next start line of any test or the end of the
file, in order; without a start line it hands out nothing.

A walk looks for the start line, is in the body, and is done, in this order, and a walk that is done
finds nothing more.  If no name is declared twice, the bodies one behind the other are all
directives from the first start line on. -/
theorem TestFile.bodies_partition_directives (source : String) :
    let file := TestFile.parse source
    (∃ texts : List (List Char), Text.joinWith ['\n'] texts = source.toList ∧
      (∀ text ∈ texts, '\n' ∉ text) ∧
      file.lines = texts.map fun text => Line.classify (String.ofList (Text.trim text))) ∧
    (∀ name : String,
      (name ∈ file.testNames ↔ file.contains name = true) ∧
      (name ∈ file.testNames ↔
        ∃ n, ((file.activate name).after n).stage = .executing) ∧
      (∀ before behind : List Line, file.lines = before ++ .testStart name :: behind →
        .testStart name ∉ before →
          file.body name = Line.directives (behind.takeWhile fun line => !line.isStart)) ∧
      (.testStart name ∉ file.lines → file.body name = [])) ∧
    (∀ walk : Activation,
      Activation.Stage.Turns walk.name walk.rest walk.stage walk.advance.2.stage ∧
      (match walk.advance with
        | (some d, walk') => walk.next.directive? = some d ∧ walk.next.walk = walk'
        | (none, walk') =>
          walk.next.directive? = walk'.next.directive? ∧ walk.next.walk = walk'.next.walk) ∧
      (walk.next.directive? = none → walk.next.walk.stage = .done) ∧
      (walk.stage = .done → walk.next = ⟨none, [], walk⟩ ∧ walk.advance = (none, walk))) ∧
    (file.testNames.Nodup →
      file.testNames.flatMap file.body =
        Line.directives (file.lines.dropWhile fun line => !line.isStart)) := by
  intro file
  refine ⟨?_, ?_, ?_, ?_⟩
  · refine ⟨Text.splitAt '\n' source.toList, Text.joinWith_splitAt _ _,
      fun text => Text.not_mem_of_mem_splitAt, ?_⟩
    simp [file, parse, Line.classify]
  · intro name
    refine ⟨List.contains_iff_mem.symm, (file.reaches_body_iff name).symm, ?_, ?_⟩
    · intro before behind hl hb
      rw [body_eq, hl, Line.behindStart_append hb]
      rfl
    · intro hl
      rw [body_eq, Line.behindStart_of_not_mem hl]
      rfl
  · intro walk
    refine ⟨walk.advance_stage, walk.next_of_advance, Activation.stage_of_none, ?_⟩
    intro hd
    obtain ⟨name, rest, stage⟩ := walk
    cases hd
    exact ⟨rfl, rfl⟩
  · intro distinct
    rw [testNames_eq] at distinct ⊢
    rw [← Line.fromStart, ← Line.flatMap_directives distinct]
    exact congrArg List.flatten (List.map_congr_left fun name _ => file.body_eq name)

/-- A file with a check before its first test, a test that is empty, and a parameter and a comment
between directives. -/
def TestFile.threeTests : String :=
  "Intro\n* one\nHello\n** game: a.ulx\n>look\n* two\n* one more\n# the end\n!Dead\n"

/-- The bodies of the three tests have all directives of the file but the first one. -/
theorem TestFile.bodies_of_threeTests :
    (TestFile.parse threeTests).testNames.Nodup ∧
      (TestFile.parse threeTests).testNames.flatMap (TestFile.parse threeTests).body =
        [.check ⟨"Hello", false⟩, .input ⟨.line, "look"⟩, .check ⟨"Dead", true⟩] := by
  have distinct : (TestFile.parse threeTests).testNames.Nodup := by decide +kernel
  refine ⟨distinct, ?_⟩
  rw [(TestFile.bodies_partition_directives threeTests).2.2.2 distinct]
  decide +kernel

end Playtest
