/-
# The layout of a test file

The blanks around a line, the blank lines and the comments of a test file are there for those who
read it.  This file proves that they mean nothing to a run, whatever else stands in the file.

* `Relaid` says that two texts have the same lines in another layout: each line may have other
  blanks around it, and lines that say nothing may be missing or added anywhere.  A line feed with a
  carriage return before it is such a change, since the return is a blank at the end of its line.
* `Alike` says that two files have the same lines, but for those that say nothing.  It is all that
  is left of a change of layout (`Relaid.alike`), and the parameters, the names and the bodies of a
  file are read from nothing else.
* `Run.run_congr` says that a run takes no more from a file than its names and its bodies.
-/
import Playtest.Proofs.Run.Chronicle
import Playtest.Proofs.Script.Bodies
import Playtest.Proofs.Script.Canonical
import Playtest.Rehearsal.ScriptedPage

namespace Playtest

/-! ## 1. Blanks around a line -/

namespace Text

/-- The text holds nothing but blanks. -/
def IsPadding (s : List Char) : Prop := ∀ c ∈ s, isBlank c = true

instance (s : List Char) : Decidable (IsPadding s) :=
  List.decidableBAll (fun c => isBlank c = true) s

section
variable {front back : List Char}

theorem trimStart_append (h : IsPadding front) (s : List Char) :
    trimStart (front ++ s) = trimStart s :=
  List.dropWhile_append_of_pos h

theorem trimEnd_append (h : IsPadding back) (s : List Char) : trimEnd (s ++ back) = trimEnd s := by
  have reversed : IsPadding back.reverse := fun c hc => h c (List.mem_reverse.1 hc)
  rw [trimEnd, trimEnd, List.reverse_append, List.dropWhile_append_of_pos reversed]

/-- Blanks around a text are cut off with those that it has itself. -/
theorem trim_append (hf : IsPadding front) (hb : IsPadding back) (s : List Char) :
    trim (front ++ s ++ back) = trim s := by
  rw [trim, List.append_assoc, trimStart_append hf, trim, trimStart, trimStart,
    List.dropWhile_append]
  split
  · next none =>
    -- there is nothing in the text but blanks, so the blanks behind it go with them
    have blank : List.dropWhile isBlank back = [] := List.dropWhile_eq_nil_iff.2 hb
    rw [blank, List.isEmpty_iff.1 none]
  · exact trimEnd_append hb _

/-- A text that begins with a character that is not blank still does when it is trimmed. -/
theorem exists_trim_cons {c : Char} (hc : isBlank c = false) (s : List Char) :
    ∃ rest, trim (c :: s) = c :: rest := by
  have start : trimStart (c :: s) = c :: s := List.dropWhile_cons_of_neg (by simp [hc])
  have kept : trim (c :: s) <+: c :: s := by
    rw [trim, start]
    exact List.rdropWhile_prefix isBlank _
  rcases ht : trim (c :: s) with _ | ⟨first, rest⟩
  · have blank := trim_eq_nil_iff.1 ht c List.mem_cons_self
    rw [hc] at blank
    cases blank
  · rw [ht] at kept
    obtain ⟨same, -⟩ := List.cons_prefix_cons.1 kept
    exact ⟨rest, by rw [same]⟩

end

end Text

/-! ## 2. Lines that say nothing -/

namespace Line

/-- A line that is blank or a comment, as it stands in a text. -/
inductive Idle : List Char → Prop where
  | blank {line : List Char} (h : Text.IsPadding line) : Idle line
  | comment {front : List Char} (h : Text.IsPadding front) (text : List Char) :
    Idle (front ++ '#' :: text)

/-- The line says something. -/
def speaks : Line → Bool
  | .blank => false
  | .comment => false
  | _ => true

/-- The meaning of a line as it stands in a text. -/
def read (line : List Char) : Line := ofChars (Text.trim line)

/-- The lines that are blank or comments are those that say nothing. -/
theorem speaks_of_idle {line : List Char} (h : Idle line) : (read line).speaks = false := by
  cases h with
  | blank h =>
    rw [read, Text.trim_eq_nil_iff.2 h]
    rfl
  | @comment front h text =>
    have padding : Text.IsPadding [] := by decide
    have cut : Text.trim (front ++ '#' :: text) = Text.trim ('#' :: text) := by
      have := Text.trim_append h padding ('#' :: text)
      rwa [List.append_nil] at this
    obtain ⟨rest, hr⟩ := Text.exists_trim_cons (c := '#') (by decide) text
    rw [read, cut, hr]
    rfl

theorem eq_of_silent {line : Line} (h : ¬line.speaks = true) : line = .blank ∨ line = .comment := by
  cases line with
  | blank => exact .inl rfl
  | comment => exact .inr rfl
  | _ => exact absurd rfl h

section
variable (lines : List Line)

/-- What is found line by line is found in the lines that say something. -/
theorem filterMap_speaks {α : Type} {f : Line → Option α} (blank : f .blank = none)
    (comment : f .comment = none) : (lines.filter speaks).filterMap f = lines.filterMap f := by
  induction lines with
  | nil => rfl
  | cons line lines ih =>
    by_cases h : line.speaks = true
    · rw [List.filter_cons_of_pos h, List.filterMap_cons, List.filterMap_cons, ih]
    · rw [List.filter_cons_of_neg h, ih, List.filterMap_cons]
      rcases eq_of_silent h with rfl | rfl
      · rw [blank]
      · rw [comment]

theorem behindStart_speaks (name : String) :
    behindStart name (lines.filter speaks) = (behindStart name lines).filter speaks := by
  induction lines with
  | nil => rfl
  | cons line lines ih =>
    by_cases hn : line = .testStart name
    · rw [hn, List.filter_cons_of_pos rfl, behindStart_cons_self, behindStart_cons_self]
    · rw [behindStart_cons_of_ne hn, ← ih, List.filter_cons]
      split
      · exact behindStart_cons_of_ne hn _
      · rfl

theorem body_speaks : body (lines.filter speaks) = body lines := by
  induction lines with
  | nil => rfl
  | cons line lines ih =>
    cases line with
    | testStart n => rfl
    | directive d => exact congrArg (.directive d :: ·) ih
    | malformed raw => exact congrArg (.malformed raw :: ·) ih
    | blank => exact ih
    | comment => exact ih
    | parameter n v => exact ih

end

end Line

/-! ## 3. Files in another layout -/

namespace TestFile

/-- The lines of a text in another layout: a line may have other blanks around it, and a line that
says nothing may be missing or added. -/
inductive Relaid : List (List Char) → List (List Char) → Prop where
  | done : Relaid [] []
  | padded {lines lines' : List (List Char)} {front back front' back' : List Char}
    (hf : Text.IsPadding front) (hb : Text.IsPadding back) (hf' : Text.IsPadding front')
    (hb' : Text.IsPadding back') (text : List Char) (more : Relaid lines lines') :
    Relaid ((front ++ text ++ back) :: lines) ((front' ++ text ++ back') :: lines')
  | missing {lines lines' : List (List Char)} {line : List Char} (idle : Line.Idle line)
    (more : Relaid lines lines') : Relaid (line :: lines) lines'
  | added {lines lines' : List (List Char)} {line : List Char} (idle : Line.Idle line)
    (more : Relaid lines lines') : Relaid lines (line :: lines')

/-- The lines of a text with a carriage return before each line feed. -/
def withReturns : List (List Char) → List (List Char)
  | [] => []
  | [last] => [last]
  | line :: lines => (line ++ ['\r']) :: withReturns lines

/-- The other kind of line ends is another layout. -/
theorem relaid_withReturns (lines : List (List Char)) : Relaid lines (withReturns lines) := by
  have none : Text.IsPadding [] := by decide
  have one : Text.IsPadding ['\r'] := by decide
  induction lines with
  | nil => exact .done
  | cons line lines ih =>
    cases lines with
    | nil => simpa [withReturns] using Relaid.padded none none none none line .done
    | cons next lines =>
      simpa [withReturns] using Relaid.padded none none none one line ih

/-- The lines of a source text, as they stand in it. -/
def linesOf (source : String) : List (List Char) := Text.splitAt '\n' source.toList

/-- The files have the same lines, but for those that say nothing. -/
def Alike (f g : TestFile) : Prop := f.lines.filter Line.speaks = g.lines.filter Line.speaks

/-- **Another layout leaves the lines that say something.** -/
theorem Relaid.alike {lines lines' : List (List Char)} (h : Relaid lines lines') :
    Alike ⟨lines.map Line.read⟩ ⟨lines'.map Line.read⟩ := by
  unfold Alike
  dsimp only
  induction h with
  | done => rfl
  | @padded _ _ front back front' back' hf hb hf' hb' text more ih =>
    have same : Line.read (front ++ text ++ back) = Line.read (front' ++ text ++ back') := by
      rw [Line.read, Line.read, Text.trim_append hf hb, Text.trim_append hf' hb']
    simp only [List.map_cons, List.filter_cons, same, ih]
  | missing idle more ih =>
    rw [List.map_cons, List.filter_cons, Line.speaks_of_idle idle]
    exact ih
  | added idle more ih =>
    rw [List.map_cons, List.filter_cons, Line.speaks_of_idle idle]
    exact ih

namespace Alike

variable {f g : TestFile}

theorem filterMap (h : Alike f g) {α : Type} {find : Line → Option α}
    (blank : find .blank = none) (comment : find .comment = none) :
    f.lines.filterMap find = g.lines.filterMap find := by
  rw [← Line.filterMap_speaks f.lines blank comment, ← Line.filterMap_speaks g.lines blank comment,
    h]

theorem parameter? (h : Alike f g) (name : String) : f.parameter? name = g.parameter? name := by
  rw [TestFile.parameter?, TestFile.parameter?, ← List.head?_filterMap, ← List.head?_filterMap,
    h.filterMap rfl rfl]

theorem testNames (h : Alike f g) : f.testNames = g.testNames := h.filterMap rfl rfl

theorem bodyLines (h : Alike f g) (name : String) : f.bodyLines name = g.bodyLines name := by
  rw [TestFile.bodyLines, TestFile.bodyLines, ← Line.body_speaks, ← Line.behindStart_speaks, h,
    Line.behindStart_speaks, Line.body_speaks]

theorem body (h : Alike f g) (name : String) : f.body name = g.body name := by
  rw [← directives_bodyLines, ← directives_bodyLines, h.bodyLines name]

end Alike

end TestFile

/-! ## 4. What a run takes from a file -/

section
variable {f g : TestFile} (names : f.testNames = g.testNames)
  (bodies : ∀ name, f.bodyLines name = g.bodyLines name)
include names bodies

/-- Files with the same names and bodies expand in the same way. -/
theorem TestFile.expand_congr (outer : List String) (name : String) (lines : List BodyLine) :
    f.expand outer name lines = g.expand outer name lines := by
  have declared (n : String) : g.contains n = f.contains n := by
    rw [contains, contains, names]
  fun_induction TestFile.expand f outer name lines with
  | case1 => rw [expand]
  | case2 outer name raw rest ih => rw [expand, ih]
  | case3 outer name c rest ih => rw [expand, ih]
  | case4 outer name i rest ih => rw [expand, ih]
  | case5 outer name included rest hc hn =>
    rw [expand, dif_pos (by rwa [declared]), dif_pos hn]
  | case6 outer name included rest hc hn ih ih' =>
    rw [expand, dif_pos (by rwa [declared]), dif_neg hn, ← bodies included, ih, ih']
  | case7 outer name included rest hc =>
    rw [expand, dif_neg (by rwa [declared])]

theorem TestFile.expansion_congr (name : String) : f.expansion name = g.expansion name := by
  rw [expansion, expansion, contains, contains, names, bodies name,
    expand_congr names bodies]

variable {σ : Type} (setup : Setup σ) (url : String)

theorem Run.one_congr (name : String) (p : Performance σ) :
    one setup f url name p = one setup g url name p := by
  rw [one_eq_enact, one_eq_enact, TestFile.expansion_congr names bodies]

theorem Run.all_congr (tests : List String) (p : Performance σ) :
    all setup f url tests p = all setup g url tests p := by
  induction tests generalizing p with
  | nil => rfl
  | cons name tests ih => simp only [all, one_congr names bodies, ih]

/-- **A run takes no more from a file than its names and its bodies.** -/
theorem Run.run_congr (tests : List String) (p : Performance σ) :
    run setup f url tests p = run setup g url tests p := by
  simp only [run, selection, names, all_congr names bodies]

end

/-! ## 5. Layout means nothing -/

namespace TestFile

/-- **The layout of a test file means nothing.**  If two texts have the same lines in another
layout, they name the same interpreter and the same story, they declare the same tests, and each
test has the same body.  So every run of the one is the run of the other: with the same result, and
with all that it shows and asks of the page, at the same times. -/
theorem layout_means_nothing {source source' : String}
    (h : Relaid (linesOf source) (linesOf source')) :
    (parse source).interpreter? = (parse source').interpreter? ∧
    (parse source).game? = (parse source').game? ∧
    (parse source).testNames = (parse source').testNames ∧
    (∀ name, (parse source).body name = (parse source').body name) ∧
    ∀ (σ : Type) (setup : Setup σ) (url : String) (tests : List String) (p : Performance σ),
      Run.run setup (parse source) url tests p = Run.run setup (parse source') url tests p := by
  have alike : Alike (parse source) (parse source') := h.alike
  refine ⟨alike.parameter? _, alike.parameter? _, alike.testNames, alike.body, ?_⟩
  intro σ setup url tests p
  exact Run.run_congr alike.testNames alike.bodyLines setup url tests p

/-- With a note on top and with returns before its line feeds, the test is the same and passes in
the same way. -/
theorem layout_of_note :
    Relaid (linesOf "* hall\n!Goodbye\nHello\n")
        (linesOf "\t# a note\r\n* hall\r\n!Goodbye\r\nHello\r\n") ∧
      (parse "* hall\n!Goodbye\nHello\n").testNames =
        (parse "\t# a note\r\n* hall\r\n!Goodbye\r\nHello\r\n").testNames ∧
      (Run.run ScriptedPage.setup (parse "\t# a note\r\n* hall\r\n!Goodbye\r\nHello\r\n") "" []
        ⟨{}, { pages := [[[.emit (.now (.data (.bufferText "Hello")))]]], disk := ⟨"", []⟩ },
          0, []⟩).1 = .ok ⟨1, 0, [], []⟩ := by
  have relaid : Relaid (linesOf "* hall\n!Goodbye\nHello\n")
      (linesOf "\t# a note\r\n* hall\r\n!Goodbye\r\nHello\r\n") := by
    have note : Line.Idle ("\t".toList ++ '#' :: " a note\r".toList) := .comment (by decide) _
    exact .added note (relaid_withReturns _)
  obtain ⟨-, -, names, -, runs⟩ := layout_means_nothing relaid
  refine ⟨relaid, names, ?_⟩
  rw [← runs]
  with_unfolding_all rfl

end TestFile
end Playtest
