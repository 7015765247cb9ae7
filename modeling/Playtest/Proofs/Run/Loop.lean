/-
# The loop of a test

`Performance.play` asks a stack for its next cue, and passes over bodies that are at their end on
the way.  This file takes the loop of a test turn by turn: in one turn the innermost body ends, or
one directive of it is carried out (`Loop.turn`).

`play_turn` says that a turn is part of a play, so that what is proved of the turns holds of every
test.  With the invariant and the measure of the stacks (`Cue.Sound` and `Cue.size`), the loop comes
to an end (`returns`), and it ends with an include cycle only where the stack shows one
(`loops_of_returned`).
-/
import Playtest.Proofs.Run.Chronicle
import Playtest.Proofs.Script.Includes
import Playtest.Rehearsal.ScriptedPage

namespace Playtest
namespace Performance

variable {σ : Type}

/-! ## 1. Turns -/

/-- Where the loop of a test stands: the bodies under way, the checks that are held and the
performance. -/
structure Loop (σ : Type) where
  stack : List Activation
  held : List Held
  performance : Performance σ

/-- What the loop of a test returns. -/
abbrev Returned (σ : Type) : Type := Except TestError (List Held) × Performance σ

namespace Loop

/-- Carries out a cue, with the stack behind it: the loop goes on, or it returns. -/
def carryOut (setup : Setup σ) (held : List Held) (p : Performance σ) :
    Cue × List Activation → Loop σ ⊕ Returned σ
  | (.check owner c, stack) => .inl ⟨stack, held ++ [⟨owner, c⟩], p⟩
  | (.entered _, stack) => .inl ⟨stack, held, p⟩
  | (.unknown name, _) => .inr (.error (.unknownTest name), p)
  | (.cycle chain, _) => .inr (.error (.includeCycle chain), p)
  | (.input input, stack) =>
    match p.giveInput setup input held with
    | (.error e, p) => .inr (.error e, p)
    | (.ok (), p) => .inl ⟨stack, [], p⟩

/-- One turn: the innermost body ends, or its next directive is carried out.  The loop returns when
no body is left. -/
def turn (setup : Setup σ) (file : TestFile) (l : Loop σ) : Loop σ ⊕ Returned σ :=
  match l.stack with
  | [] => .inr (.ok l.held, l.performance)
  | top :: below =>
    let p := l.performance.warnPassed (top.next.passed.map (Passed.mk top.name))
    match top.next.directive? with
    | none => .inl ⟨below, l.held, p⟩
    | some d =>
      carryOut setup l.held p (Cue.ofDirective file (top.next.walk :: below) top.name d)

/-- The loop after some turns, or what it has returned. -/
def after (setup : Setup σ) (file : TestFile) : Nat → Loop σ → Loop σ ⊕ Returned σ
  | 0, l => .inl l
  | n + 1, l =>
    match l.turn setup file with
    | .inl l' => after setup file n l'
    | .inr returned => .inr returned

/-- The loop that plays a test. -/
def start (file : TestFile) (name : String) (p : Performance σ) : Loop σ :=
  ⟨[file.activate name], [], p⟩

/-- What becomes of the loop when it is played to its end. -/
def play (setup : Setup σ) (file : TestFile) (l : Loop σ) : Returned σ :=
  l.performance.play setup file l.stack l.held

section
variable {setup : Setup σ} {file : TestFile} {name : String} {l l' : Loop σ}
  {top : Activation} {below : List Activation} {held : List Held} {p : Performance σ}

theorem turn_ends (h : top.next.directive? = none) :
    turn setup file ⟨top :: below, held, p⟩ =
      .inl ⟨below, held, p.warnPassed (top.next.passed.map (Passed.mk top.name))⟩ := by
  rw [turn]
  dsimp only
  rw [h]

theorem turn_directive {d : Directive} (h : top.next.directive? = some d) :
    turn setup file ⟨top :: below, held, p⟩ =
      carryOut setup held (p.warnPassed (top.next.passed.map (Passed.mk top.name)))
        (Cue.ofDirective file (top.next.walk :: below) top.name d) := by
  rw [turn]
  dsimp only
  rw [h]

theorem warnPassed_append (p : Performance σ) (xs ys : List Passed) :
    p.warnPassed (xs ++ ys) = (p.warnPassed xs).warnPassed ys :=
  List.foldl_append

/-- A body at its end is passed over. -/
theorem play_ends (h : top.next.directive? = none) (held : List Held) (p : Performance σ) :
    p.play setup file (top :: below) held =
      (p.warnPassed (top.next.passed.map (Passed.mk top.name))).play setup file below held := by
  rcases hb : Cue.next file below with ⟨passed, _ | ⟨cue, stack⟩⟩
  · have hn : Cue.next file (top :: below) =
        (top.next.passed.map (Passed.mk top.name) ++ passed, none) := by
      rw [Cue.next, h, hb]
    rw [play_of_none hn, play_of_none hb, warnPassed_append]
  · have hn : Cue.next file (top :: below) =
        (top.next.passed.map (Passed.mk top.name) ++ passed, some (cue, stack)) := by
      rw [Cue.next, h, hb]
    rw [play_of_some hn, play_of_some hb, warnPassed_append]
    cases cue <;> rfl

/-- **A turn is part of the play.** -/
theorem play_turn (setup : Setup σ) (file : TestFile) (l : Loop σ) :
    l.play setup file =
      match l.turn setup file with
      | .inl l' => l'.play setup file
      | .inr returned => returned := by
  obtain ⟨stack, held, p⟩ := l
  cases stack with
  | nil =>
    have hn : Cue.next file [] = ([], none) := rfl
    exact play_of_none hn held p
  | cons top below =>
    cases hd : top.next.directive? with
    | none =>
      rw [turn_ends hd]
      exact play_ends hd held p
    | some d =>
      rw [turn_directive hd]
      rcases hc : Cue.ofDirective file (top.next.walk :: below) top.name d with ⟨cue, stack⟩
      have hn : Cue.next file (top :: below) =
          (top.next.passed.map (Passed.mk top.name), some (cue, stack)) := by
        rw [Cue.next, hd, ← hc]
      rw [play, play_of_some hn]
      cases cue with
      | input i =>
        rw [carryOut]
        rcases hg : giveInput setup i held
          (p.warnPassed (top.next.passed.map (Passed.mk top.name))) with ⟨_ | _, p'⟩ <;>
            simp [hg, play]
      | _ => rfl

/-- A cue after which the loop goes on leaves its own stack. -/
theorem stack_of_carryOut {cue : Cue × List Activation}
    (h : carryOut setup held p cue = .inl l') : l'.stack = cue.2 := by
  obtain ⟨cue, stack⟩ := cue
  cases cue with
  | check owner c => cases h; rfl
  | entered n => cases h; rfl
  | unknown n => cases h
  | cycle chain => cases h
  | input i =>
    rw [carryOut] at h
    split at h
    · cases h
    · cases h
      rfl

/-- **A turn of the loop is a turn of its stack.** -/
theorem follows_of_turn (h : l.turn setup file = .inl l') : Cue.Follows file l.stack l'.stack := by
  obtain ⟨stack, held, p⟩ := l
  cases stack with
  | nil => cases h
  | cons top below =>
    cases hd : top.next.directive? with
    | none =>
      rw [turn_ends hd] at h
      cases h
      exact .ends hd
    | some d =>
      rw [turn_directive hd] at h
      rw [stack_of_carryOut h]
      exact .directive hd

/-! ## 2. The end of the loop -/

/-- **The loop comes to an end**, and returns what the play returns. -/
theorem returns (setup : Setup σ) (file : TestFile) (l : Loop σ) :
    ∃ n ≤ Cue.size file l.stack + 1, l.after setup file n = .inr (l.play setup file) := by
  -- every turn makes the stack smaller
  induction hs : Cue.size file l.stack using Nat.strongRecOn generalizing l with
  | _ size ih =>
    subst hs
    have played := play_turn setup file l
    cases ht : l.turn setup file with
    | inr returned =>
      rw [ht] at played
      exact ⟨1, by omega, by rw [after, ht, played]⟩
    | inl l' =>
      rw [ht] at played
      have smaller := Cue.size_follows_lt (follows_of_turn ht)
      obtain ⟨n, hn, ha⟩ := ih _ smaller l' rfl
      refine ⟨n + 1, by omega, ?_⟩
      rw [after, ht, played]
      exact ha

/-- Every stack that the loop comes to is sound. -/
theorem sound_after {n : Nat} (h : Cue.Sound file name l.stack)
    (ha : l.after setup file n = .inl l') : Cue.Sound file name l'.stack := by
  induction n generalizing l with
  | zero =>
    cases ha
    exact h
  | succ n ih =>
    rw [after] at ha
    cases ht : l.turn setup file with
    | inr returned =>
      rw [ht] at ha
      cases ha
    | inl next =>
      rw [ht] at ha
      exact ih (h.follows (follows_of_turn ht)) ha

end

end Loop

/-! ## 3. Include cycles -/

section
variable {setup : Setup σ} {file : TestFile} {name : String} {p : Performance σ}

/-- A wait for a request does not end with an include cycle. -/
theorem nextRequest_ne_cycle (d : Dialogue) (limit : Duration) (chain : List String) :
    (d.nextRequest limit).1 ≠ .error (.includeCycle chain) := by
  rw [Dialogue.nextRequest_eq]
  intro h
  unfold Dialogue.requestOutcome at h
  split at h <;> cases h

/-- A wait for output does not end with an include cycle. -/
theorem finalOutput_ne_cycle (d : Dialogue) (limit : Duration) (chain : List String) :
    (d.finalOutput limit).1 ≠ .error (.includeCycle chain) := by
  rw [Dialogue.finalOutput_eq]
  intro h
  unfold Dialogue.outputOutcome at h
  split at h <;> cases h

/-- An input does not end with an include cycle. -/
theorem giveInput_ne_cycle (input : Input) (held : List Held) (chain : List String) :
    (p.giveInput setup input held).1 ≠ .error (.includeCycle chain) := by
  intro h
  rcases ho : (p.dialogue.nextRequest setup.limit).1 with e | requested
  · rw [giveInput_of_error input held ho] at h
    cases h
    exact nextRequest_ne_cycle _ _ _ ho
  · rw [giveInput_of_ok input held ho] at h
    split at h
    · cases h
    · revert h
      dsimp only
      cases (((p.asked setup).flush setup held).send setup (Command.ofInput input)).1 with
      | error e => exact fun h => nomatch h
      | ok u => exact fun h => nomatch h

/-- The end of a test is no include cycle. -/
theorem finish_ne_cycle (held : List Held) (chain : List String) :
    (p.finish setup held).1 ≠ .error (.includeCycle chain) := by
  intro h
  rw [finish_fst, finale] at h
  split at h
  · cases h
  · dsimp only at h
    split at h
    · split at h
      · next ho =>
        cases h
        exact finalOutput_ne_cycle _ _ _ ho
      · cases h
    · cases h

/-- A cue with which the loop returns an include cycle. -/
theorem Loop.cycle_of_carryOut {held : List Held} {cue : Cue × List Activation}
    {chain : List String} {q : Performance σ}
    (h : carryOut setup held p cue = .inr (.error (.includeCycle chain), q)) :
    cue.1 = .cycle chain := by
  obtain ⟨cue, stack⟩ := cue
  cases cue with
  | check owner c => cases h
  | entered n => cases h
  | unknown n => cases h
  | cycle chain => cases h; rfl
  | input i =>
    rw [carryOut] at h
    split at h
    · next hg =>
      cases h
      exact absurd (congrArg Prod.fst hg) (giveInput_ne_cycle i held chain)
    · cases h

/-- A loop that returns an include cycle has found it on its stack. -/
theorem Loop.loops_of_turn {l : Loop σ} {chain : List String} {q : Performance σ}
    (h : Cue.Sound file name l.stack)
    (ht : l.turn setup file = .inr (.error (.includeCycle chain), q)) :
    file.Loops name chain := by
  obtain ⟨stack, held, p⟩ := l
  cases stack with
  | nil => cases ht
  | cons top below =>
    cases hd : top.next.directive? with
    | none =>
      rw [turn_ends hd] at ht
      cases ht
    | some d =>
      rw [turn_directive hd] at ht
      exact h.loops hd (cycle_of_carryOut ht)

/-- The play of a sound stack ends with an include cycle only if there is one. -/
theorem Loop.loops_of_returned {l : Loop σ} {chain : List String} {q : Performance σ} {n : Nat}
    (h : Cue.Sound file name l.stack)
    (ha : l.after setup file n = .inr (.error (.includeCycle chain), q)) :
    file.Loops name chain := by
  induction n generalizing l with
  | zero => cases ha
  | succ n ih =>
    rw [after] at ha
    cases ht : l.turn setup file with
    | inr returned =>
      rw [ht] at ha
      cases ha
      exact loops_of_turn h ht
    | inl next =>
      rw [ht] at ha
      exact ih (h.follows (follows_of_turn ht)) ha

/-- **A test that ends with an include cycle has one**, and the error names it. -/
theorem loops_of_runTest {chain : List String}
    (h : (p.runTest setup file name).1 = .error (.includeCycle chain)) :
    file.Loops name chain := by
  rw [runTest] at h
  split at h
  · cases h
  · next hc =>
    have sound : Cue.Sound file name (Loop.start file name p).stack :=
      Cue.sound_activate (by simpa using hc)
    obtain ⟨n, -, ha⟩ := Loop.returns setup file (Loop.start file name p)
    split at h
    · next e q hp =>
      cases h
      have hr : (Loop.start file name p).play setup file = (.error (.includeCycle chain), q) := hp
      rw [hr] at ha
      exact Loop.loops_of_returned sound ha
    · exact absurd h (finish_ne_cycle _ _)

/-- A test that ends well has been expanded to its end. -/
theorem complete_of_runTest (h : (p.runTest setup file name).1 = .ok ()) :
    (file.expansion name).ending = .complete := by
  rw [runTest_inlines_includes] at h
  split at h
  · cases h
  · split at h
    · next complete => exact complete
    · cases h
    · cases h

end

/-- **Includes come to an end, and cycles are reported as they are.**  The loop of a test returns
after finitely many turns, and at each of them the tests under way are declared and distinct, so
there are no more of them than names are declared.

An include cycle is an error only with a chain of includes that comes back to a test on it.  A test
that reaches a cycle does not end well, and a test that reaches none does not end with this error,
however often it includes a test. -/
theorem includes_come_to_an_end (setup : Setup σ) (file : TestFile) (name : String)
    (p : Performance σ) :
    (file.contains name = true →
      (∃ n ≤ Cue.size file [file.activate name] + 1,
        (Loop.start file name p).after setup file n =
          .inr (p.play setup file [file.activate name] [])) ∧
      ∀ n l, (Loop.start file name p).after setup file n = .inl l →
        (Cue.names l.stack).Nodup ∧ (∀ test ∈ Cue.names l.stack, test ∈ file.testNames) ∧
          l.stack.length ≤ file.testNames.dedup.length) ∧
    (∀ chain, (p.runTest setup file name).1 = .error (.includeCycle chain) →
      chain.head? = some name ∧ chain.dropLast.Nodup ∧
        (∃ last, chain.getLast? = some last ∧ last ∈ chain.dropLast) ∧
        chain.IsChain file.Includes) ∧
    (file.Cyclic name → (p.runTest setup file name).1 ≠ .ok ()) ∧
    (¬file.Cyclic name →
      ∀ chain, (p.runTest setup file name).1 ≠ .error (.includeCycle chain)) := by
  refine ⟨?_, ?_, ?_, ?_⟩
  · intro hc
    refine ⟨Loop.returns setup file (Loop.start file name p), ?_⟩
    intro n l ha
    have sound := Loop.sound_after (Cue.sound_activate hc) ha
    exact ⟨sound.distinct, sound.declared, sound.depth⟩
  · intro chain h
    have loops := loops_of_runTest h
    exact ⟨loops.starts, loops.distinct, loops.returns, loops.includes⟩
  · intro cyclic h
    exact TestFile.not_cyclic_of_complete (complete_of_runTest h) cyclic
  · intro acyclic chain h
    exact acyclic (loops_of_runTest h).cyclic

/-- A file in which `main` includes `leaf` on two ways, and `ring` includes itself through
`other`. -/
def crossing : TestFile where
  lines :=
    [.testStart "main", .directive (.includeTest "left"), .directive (.includeTest "right"),
      .testStart "left", .directive (.includeTest "leaf"),
      .testStart "right", .directive (.includeTest "leaf"),
      .testStart "leaf", .directive (.check ⟨"Hello", false⟩),
      .testStart "ring", .directive (.includeTest "leaf"), .directive (.includeTest "other"),
      .testStart "other", .directive (.includeTest "ring")]

/-- The beginning of a run on a page without a script. -/
def atRest : Performance ScriptedPage := ⟨{}, ⟨[], 0, 0, ⟨"", []⟩, none⟩, 0, []⟩

/-- The two ways to `leaf` are no cycle, and `ring` is one. -/
theorem includes_of_crossing :
    ((∃ n ≤ Cue.size crossing [crossing.activate "main"] + 1,
        (Loop.start crossing "main" atRest).after ScriptedPage.setup crossing n =
          .inr (atRest.play ScriptedPage.setup crossing [crossing.activate "main"] [])) ∧
      ∀ chain, (atRest.runTest ScriptedPage.setup crossing "main").1 ≠
        .error (.includeCycle chain)) ∧
    (crossing.Cyclic "ring" ∧
      (atRest.runTest ScriptedPage.setup crossing "ring").1 =
        .error (.includeCycle ["ring", "other", "ring"]) ∧
      ["ring", "other", "ring"].IsChain crossing.Includes) := by
  have declared : crossing.contains "main" = true := by decide +kernel
  have acyclic : ¬crossing.Cyclic "main" :=
    TestFile.not_cyclic_of_complete (by cbv)
  have reported : (atRest.runTest ScriptedPage.setup crossing "ring").1 =
      .error (.includeCycle ["ring", "other", "ring"]) := by
    cbv
  have ring := (includes_come_to_an_end ScriptedPage.setup crossing "ring" atRest).2.1 _ reported
  obtain ⟨loop, -, -, ends⟩ :=
    includes_come_to_an_end ScriptedPage.setup crossing "main" atRest
  have loops : crossing.Loops "ring" ["ring", "other", "ring"] :=
    ⟨ring.1, ring.2.1, ring.2.2.1, ring.2.2.2⟩
  exact ⟨⟨(loop declared).1, ends acyclic⟩, loops.cyclic, reported, ring.2.2.2⟩

end Performance
end Playtest
