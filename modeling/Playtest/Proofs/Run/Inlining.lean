/-
# Includes are played in place

`Performance.play` works through a stack of activations and carries out each cue as it comes.
`Performance.recite` works through a plain list of items, and knows nothing of includes.  This
file proves that to play a stack is to recite its expansion: the same result, and the same
performance in every field, with the journal and its times, the channel, the world, the
counter and the failures.

So an include is no event of its own.  The checks that are held, the text that has been
gathered and the clock go through its two ends untouched, and there is one final phase, after
the whole expansion.
-/
import Playtest.Proofs.Script.Expansion
import Playtest.Run.Performance

namespace Playtest
namespace Performance

variable {σ : Type} {setup : Setup σ}

/-! ## 1. A script without includes -/

/-- Performs items one after the other.  Gives the checks still held at the end. -/
def recite (setup : Setup σ) : List Expansion.Item → List Held → Performance σ →
    Except TestError (List Held) × Performance σ
  | [], held, p => (.ok held, p)
  | .check owner c :: items, held, p => recite setup items (held ++ [⟨owner, c⟩]) p
  | .passed x :: items, held, p =>
    recite setup items held (p.record (.warned (Activation.warning x.test x.line)))
  | .input i :: items, held, p =>
    match p.giveInput setup i held with
    | (.error e, p) => (.error e, p)
    | (.ok (), p) => recite setup items [] p

/-- How a script without includes ends, when all its items are performed. -/
def conclude (ending : Expansion.Ending) (held : List Held) : Except TestError (List Held) :=
  match ending with
  | .complete => .ok held
  | .unknown name => .error (.unknownTest name)
  | .cycle chain => .error (.includeCycle chain)

/-- Only a complete script ends well. -/
theorem conclude_eq_ok {ending : Expansion.Ending} {held left : List Held}
    (h : conclude ending held = .ok left) : ending = .complete ∧ left = held := by
  cases ending with
  | complete =>
    cases h
    exact ⟨rfl, rfl⟩
  | unknown name => cases h
  | cycle chain => cases h

/-- Performs a script without includes. -/
def enact (setup : Setup σ) (x : Expansion) (held : List Held) (p : Performance σ) :
    Except TestError (List Held) × Performance σ :=
  match p.recite setup x.items held with
  | (.error e, p) => (.error e, p)
  | (.ok held, p) => (conclude x.ending held, p)

/-- The end of a script does nothing more. -/
theorem enact_snd (setup : Setup σ) (x : Expansion) (held : List Held) (p : Performance σ) :
    (p.enact setup x held).2 = (p.recite setup x.items held).2 := by
  rw [enact]
  rcases p.recite setup x.items held with ⟨e | left, p'⟩ <;> rfl

/-- The warnings for malformed lines are items like all others. -/
theorem enact_after_passed (setup : Setup σ) (passed : List Passed) (x : Expansion)
    (held : List Held)
    (p : Performance σ) :
    p.enact setup (x.after (passed.map .passed)) held =
      (p.warnPassed passed).enact setup x held := by
  induction passed generalizing p with
  | nil => rfl
  | cons y passed ih => exact ih (p.record (.warned (Activation.warning y.test y.line)))

/-! ## 2. A stack plays its expansion -/

theorem play_of_none {file : TestFile} {stack : List Activation} {passed : List Passed}
    (h : Cue.next file stack = (passed, none)) (held : List Held) (p : Performance σ) :
    p.play setup file stack held = (.ok held, p.warnPassed passed) := by
  rw [play]
  split
  · next passed' h' =>
    rw [h] at h'
    cases h'
    rfl
  · next h' =>
    rw [h] at h'
    cases h'

/-- One cue of a stack, carried out. -/
theorem play_of_some {file : TestFile} {stack stack' : List Activation} {passed : List Passed}
    {cue : Cue} (h : Cue.next file stack = (passed, some (cue, stack'))) (held : List Held)
    (p : Performance σ) :
    p.play setup file stack held =
      match cue with
      | .check owner c => (p.warnPassed passed).play setup file stack' (held ++ [⟨owner, c⟩])
      | .entered _ => (p.warnPassed passed).play setup file stack' held
      | .unknown name => (.error (.unknownTest name), p.warnPassed passed)
      | .cycle chain => (.error (.includeCycle chain), p.warnPassed passed)
      | .input input =>
        match (p.warnPassed passed).giveInput setup input held with
        | (.error e, p) => (.error e, p)
        | (.ok (), p) => p.play setup file stack' [] := by
  rw [play]
  split
  · next h' =>
    rw [h] at h'
    cases h'
  · next h' =>
    rw [h] at h'
    cases h'
    cases cue <;> rfl

/-- **To play a stack is to enact what the stack has still to play.** -/
theorem play_eq_enact (file : TestFile) (stack : List Activation) (held : List Held)
    (p : Performance σ) :
    p.play setup file stack held = p.enact setup (Cue.remaining file stack) held := by
  -- every cue makes the stack lighter, also the one that puts a body on top of it
  induction hw : Cue.weight file stack using Nat.strongRecOn
    generalizing stack held p with
  | _ w ih =>
    subst hw
    rcases h : Cue.next file stack with ⟨passed, _ | ⟨cue, stack'⟩⟩
    · rw [play_of_none h, Cue.remaining_of_none h]
      have := enact_after_passed setup passed (.stop .complete) held p
      simpa [Expansion.after, Expansion.stop, enact, recite, conclude] using this.symm
    · have lighter := ih _ (Cue.weight_next_lt h) stack'
      rw [play_of_some h, Cue.remaining_of_some h, enact_after_passed]
      generalize p.warnPassed passed = p
      cases cue with
      | check owner c => exact lighter (held ++ [⟨owner, c⟩]) p rfl
      | entered name => exact lighter held p rfl
      | unknown name => rfl
      | cycle chain => rfl
      | input i =>
        have hx : (Cue.expansion file (.input i) stack') =
            (Cue.remaining file stack').after [.input i] := rfl
        rw [hx]
        rcases hg : p.giveInput setup i held with ⟨_ | _, p'⟩
        · simp [hg, enact, Expansion.after, recite]
        · simpa [hg, enact, Expansion.after, recite] using lighter [] p' rfl

/-! ## 3. A test performs its expansion -/

/-- A test enacts its expansion, and then makes the checks that are left. -/
theorem runTest_eq_enact (setup : Setup σ) (file : TestFile) (name : String)
    (p : Performance σ) :
    p.runTest setup file name =
      match p.enact setup (file.expansion name) [] with
      | (.error e, p) => (.error e, p)
      | (.ok held, p) => p.finish setup held := by
  rw [runTest]
  by_cases hc : file.contains name = true
  · have whole : p.play setup file [file.activate name] [] =
        p.enact setup (file.expansion name) [] := by
      rw [play_eq_enact, Cue.remaining_activate hc]
    rcases he : p.enact setup (file.expansion name) [] with ⟨e | held, q⟩
    · simp [hc, whole, he]
    · simp [hc, whole, he]
  · have stop : file.expansion name = .stop (.unknown name) := by
      rw [TestFile.expansion, if_neg hc]
    rw [stop]
    exact if_pos (by simpa using hc)

/-- **Includes are inlining.**  A test has the result and leaves the performance that its
expansion has when it is recited from top to bottom: with one buffer and one list of held checks
for all bodies, with one final phase if the expansion is complete, and otherwise with the error
of the include that could not be expanded, after all that stands before it. -/
theorem runTest_inlines_includes (setup : Setup σ) (file : TestFile) (name : String)
    (p : Performance σ) :
    p.runTest setup file name =
      match p.recite setup (file.expansion name).items [] with
      | (.error e, p) => (.error e, p)
      | (.ok held, p) =>
        match (file.expansion name).ending with
        | .complete => p.finish setup held
        | .unknown n => (.error (.unknownTest n), p)
        | .cycle chain => (.error (.includeCycle chain), p) := by
  rw [runTest_eq_enact, enact]
  rcases p.recite setup (file.expansion name).items [] with ⟨e | held, p'⟩
  · rfl
  · cases (file.expansion name).ending <;> rfl

end Performance
end Playtest
