/-
# One test after another

`Run.all` performs tests in order, and every test has one of three consequences: it ends well
and the run goes on, it ends early and is counted, or it ends the run.  This file has an equation
for each of them, the induction along a run with these cases (`all_induction`), the list of the
tests that are performed (`stages`), and the equations for the run around its tests.
-/
import Playtest.Run.Summary

namespace Playtest
namespace Run

variable {σ : Type} (setup : Setup σ) (file : TestFile) (url : String)

/-! ## 1. The tests -/

/-- The performance when a test that ended early is counted. -/
def counted (name : String) (e : TestError) (p : Performance σ) : Performance σ :=
  ({ p with errors := p.errors + 1 } : Performance σ).record (.aborted name e)

/-- Behind a test that ended well the run goes on. -/
theorem all_of_ok {name : String} (names : List String) {p : Performance σ}
    (h : (one setup file url name p).1 = .ok ()) :
    all setup file url (name :: names) p =
      all setup file url names (one setup file url name p).2 := by
  rw [all]
  rcases hone : one setup file url name p with ⟨e | u, q⟩
  · rw [hone] at h
    cases h
  · rfl

/-- A fatal error ends the run. -/
theorem all_of_fatal {name : String} (names : List String) {p : Performance σ} {e : TestError}
    (h : (one setup file url name p).1 = .error e) (hf : e.isFatal = true) :
    all setup file url (name :: names) p = (.error e, (one setup file url name p).2) := by
  rw [all]
  rcases hone : one setup file url name p with ⟨e' | u, q⟩
  · rw [hone] at h
    cases h
    exact if_pos hf
  · rw [hone] at h
    cases h

/-- Any other error is counted, and the run goes on. -/
theorem all_of_counted {name : String} (names : List String) {p : Performance σ} {e : TestError}
    (h : (one setup file url name p).1 = .error e) (hf : e.isFatal = false) :
    all setup file url (name :: names) p =
      ((all setup file url names (counted name e (one setup file url name p).2)).1.map
          (⟨name, e.message⟩ :: ·),
        (all setup file url names (counted name e (one setup file url name p).2)).2) := by
  rw [all]
  rcases hone : one setup file url name p with ⟨e' | u, q⟩
  · rw [hone] at h
    cases h
    dsimp only
    rw [if_neg (by simp [hf]), ← counted]
    rcases all setup file url names (counted name e q) with ⟨e' | aborted, r⟩ <;> rfl
  · rw [hone] at h
    cases h

/-- A test that ended early ends the run, or is counted. -/
theorem all_of_error {name : String} (names : List String) {p : Performance σ} {e : TestError}
    (h : (one setup file url name p).1 = .error e) :
    all setup file url (name :: names) p = (.error e, (one setup file url name p).2) ∨
      (all setup file url (name :: names) p).2 =
        (all setup file url names (counted name e (one setup file url name p).2)).2 := by
  cases hf : e.isFatal with
  | true => exact .inl (all_of_fatal setup file url names h hf)
  | false => exact .inr (by rw [all_of_counted setup file url names h hf])

/-- Induction along a run of tests, with one case for each consequence of a test. -/
theorem all_induction {motive : List String → Performance σ → Prop}
    (nil : ∀ p, motive [] p)
    (ok : ∀ name names p, (one setup file url name p).1 = .ok () →
      motive names (one setup file url name p).2 → motive (name :: names) p)
    (fatal : ∀ name names p e, (one setup file url name p).1 = .error e → e.isFatal = true →
      motive (name :: names) p)
    (goesOn : ∀ name names p e, (one setup file url name p).1 = .error e → e.isFatal = false →
      motive names (counted name e (one setup file url name p).2) → motive (name :: names) p)
    (names : List String) (p : Performance σ) : motive names p := by
  induction names generalizing p with
  | nil => exact nil p
  | cons name names ih =>
    rcases hr : (one setup file url name p).1 with e | u
    · cases hf : e.isFatal with
      | true => exact fatal name names p e hr hf
      | false => exact goesOn name names p e hr hf (ih _)
    · exact ok name names p hr (ih _)

/-- The tests of two selections in a row. -/
theorem all_append (a b : List String) (p : Performance σ) :
    all setup file url (a ++ b) p =
      match all setup file url a p with
      | (.error e, q) => (.error e, q)
      | (.ok aborted, q) =>
        ((all setup file url b q).1.map (aborted ++ ·), (all setup file url b q).2) := by
  induction a, p using all_induction setup file url with
  | nil p =>
    rw [List.nil_append, all]
    dsimp only
    rcases all setup file url b p with ⟨e | aborted, q⟩ <;> rfl
  | ok name a p hr ih =>
    rw [List.cons_append, all_of_ok setup file url _ hr, all_of_ok setup file url _ hr]
    exact ih
  | fatal name a p e hr hf =>
    rw [List.cons_append, all_of_fatal setup file url _ hr hf, all_of_fatal setup file url _ hr hf]
  | goesOn name a p e hr hf ih =>
    rw [List.cons_append, all_of_counted setup file url _ hr hf,
      all_of_counted setup file url _ hr hf, ih]
    rcases all setup file url a (counted name e (one setup file url name p).2)
      with ⟨e' | aborted, q⟩
    · rfl
    · dsimp only [Except.map]
      rcases all setup file url b q with ⟨e' | more, r⟩ <;> rfl

/-! ## 2. Stages -/

/-- The tests that are performed, each with the performance in which it begins. -/
def stages : List String → Performance σ → List (String × Performance σ)
  | [], _ => []
  | name :: names, p =>
    (name, p) ::
      match one setup file url name p with
      | (.ok (), q) => stages names q
      | (.error e, q) => if e.isFatal then [] else stages names (counted name e q)

theorem stages_of_ok {name : String} (names : List String) {p : Performance σ}
    (h : (one setup file url name p).1 = .ok ()) :
    stages setup file url (name :: names) p =
      (name, p) :: stages setup file url names (one setup file url name p).2 := by
  rw [stages]
  rcases hone : one setup file url name p with ⟨e | u, q⟩
  · rw [hone] at h
    cases h
  · rfl

theorem stages_of_fatal {name : String} (names : List String) {p : Performance σ} {e : TestError}
    (h : (one setup file url name p).1 = .error e) (hf : e.isFatal = true) :
    stages setup file url (name :: names) p = [(name, p)] := by
  rw [stages]
  rcases hone : one setup file url name p with ⟨e' | u, q⟩
  · rw [hone] at h
    cases h
    exact congrArg _ (if_pos hf)
  · rw [hone] at h
    cases h

theorem stages_of_counted {name : String} (names : List String) {p : Performance σ}
    {e : TestError} (h : (one setup file url name p).1 = .error e) (hf : e.isFatal = false) :
    stages setup file url (name :: names) p =
      (name, p) ::
        stages setup file url names (counted name e (one setup file url name p).2) := by
  rw [stages]
  rcases hone : one setup file url name p with ⟨e' | u, q⟩
  · rw [hone] at h
    cases h
    exact congrArg _ (if_neg (by simp [hf]))
  · rw [hone] at h
    cases h

/-- **Stages are selected tests, in order.**  The `k`-th one begins where the `k` tests before it
have ended. -/
theorem stage_begins (names : List String) (p : Performance σ) {k : Nat} {name : String}
    {q : Performance σ} (hk : (stages setup file url names p)[k]? = some (name, q)) :
    names[k]? = some name ∧ q = (all setup file url (names.take k) p).2 := by
  induction names, p using all_induction setup file url generalizing k with
  | nil p => cases hk
  | ok first names p hr ih =>
    rw [stages_of_ok setup file url names hr] at hk
    cases k with
    | zero =>
      cases hk
      exact ⟨rfl, rfl⟩
    | succ k =>
      obtain ⟨hn, hq⟩ := ih hk
      refine ⟨hn, ?_⟩
      rw [List.take_succ_cons, all_of_ok setup file url _ hr]
      exact hq
  | fatal first names p e hr hf =>
    rw [stages_of_fatal setup file url names hr hf] at hk
    cases k with
    | zero =>
      cases hk
      exact ⟨rfl, rfl⟩
    | succ k => cases hk
  | goesOn first names p e hr hf ih =>
    rw [stages_of_counted setup file url names hr hf] at hk
    cases k with
    | zero =>
      cases hk
      exact ⟨rfl, rfl⟩
    | succ k =>
      obtain ⟨hn, hq⟩ := ih hk
      refine ⟨hn, ?_⟩
      rw [List.take_succ_cons, all_of_counted setup file url _ hr hf]
      exact hq

/-! ## 3. The run -/

/-- The performance with which the tests of a run begin. -/
def announced (names : List String) (p : Performance σ) : Performance σ :=
  p.record (.info ("running " ++ toString names.length ++ " tests against " ++ url))

section
variable {setup : Setup σ} {file : TestFile} {url : String} {tests : List String}
  {p q : Performance σ}

theorem run_of_error {e : TestError}
    (h : all setup file url (selection file tests) (announced url (selection file tests) p) =
      (.error e, q)) : run setup file url tests p = (.error e, q) := by
  rw [run, ← announced, h]

/-- The summary of a run counts the errors of all its tests. -/
theorem run_of_ok {aborted : List AbortedTest}
    (h : all setup file url (selection file tests) (announced url (selection file tests) p) =
      (.ok aborted, q)) :
    run setup file url tests p =
      (.ok ⟨(selection file tests).length, q.errors, q.failures, aborted⟩, q) := by
  rw [run, ← announced, h]

end

end Run
end Playtest
