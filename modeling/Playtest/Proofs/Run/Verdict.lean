/-
# The verdict of a run

A run passes if it counts no error.  This file says what that is worth: a run passes if and only
if every selected test is upheld, from its opening to the last check of its expansion.  So no
early return, no check that was forgotten and no test that ended halfway can hide behind a
passed run, and nothing else makes a run fail.

Errors are only ever added, so a run that counts none has counted none in any of its tests
(`errors_le_all`), and for one test the books of its chronicle tell which checks failed.
-/
import Playtest.Proofs.Run.Sequence
import Playtest.Proofs.Run.TurnTaking
import Playtest.Proofs.Run.Windows

namespace Playtest

/-! ## 1. One test -/

/-- The test was performed from its beginning to its end, and every check of it holds. -/
structure Chronicle.Upholds (x : Expansion) (c : Chronicle) : Prop where
  opened : c.opened = .ok ()
  complete : x.ending = .complete
  /-- A command was sent well for every input, in order, and no other. -/
  sent : c.sent = x.inputs.map fun i => (Command.ofInput i, .ok ())
  /-- Every check was made once, in order, and no other. -/
  made : c.made.map Made.held = x.checks
  /-- The literals of the checks stand in the texts that they were made on, and those of inverted
  ones do not. -/
  holds : ∀ m ∈ c.made,
    m.held.check.text.toList <:+: m.output.toList ↔ m.held.check.inverted = false

namespace Chronicle

variable {x : Expansion} {c : Chronicle} {result : Except TestError Unit}

/-- A test that ends well has come to its finale and has made all its checks. -/
theorem Tells.upholds (h : c.Tells x result) (hr : result = .ok ())
    (hm : Made.failed c.made = []) : c.Upholds x := by
  have reached : ∃ f, c.finale? = some f ∧ f.outcome = .ok () := by
    cases h with
    | refused opening e => cases hr
    | stopped talk => cases hr
    | broken talk broken => cases hr
    | @ended opening rounds f talk complete fits => exact ⟨f, rfl, hr⟩
  obtain ⟨f, hf, hend⟩ := reached
  obtain ⟨hopen, complete, sent⟩ := h.ended_iff.1 (by rw [hf]; rfl)
  refine ⟨hopen, complete, sent, ?_, fun m mem =>
    Check.passes_iff.1 (Made.failed_eq_nil_iff.1 hm m mem)⟩
  obtain ⟨len, -⟩ := h.read_finale hf
  have judges : c.judgesRest = true := by
    rw [judgesRest, hf, Option.any_some, hend]
    rfl
  rw [h.held_made, if_pos judges, len, List.take_length, x.checks_eq]

/-- A test in which everything was sent and every check was made has ended well. -/
theorem Upholds.ends_well (u : c.Upholds x) (h : c.Tells x result) :
    result = .ok () ∧ Made.failed c.made = [] := by
  refine ⟨?_, Made.failed_eq_nil_iff.2 fun m mem => Check.passes_iff.2 (u.holds m mem)⟩
  obtain ⟨f, hf⟩ := Option.isSome_iff_exists.1 (h.ended_iff.2 ⟨u.opened, u.complete, u.sent⟩)
  obtain ⟨-, -, -, -, hres⟩ := h.of_finale hf
  rcases ho : f.outcome with e | v
  · -- the checks that are left would not have been made
    have final := h.final f hf
    rw [ho] at final
    obtain ⟨-, hrest, -⟩ := final
    obtain ⟨len, -⟩ := h.read_finale hf
    have judges : c.judgesRest = false := by
      rw [judgesRest, hf, Option.any_some, ho]
      rfl
    have made := h.held_made
    rw [u.made, ← x.checks_eq, judges, len, List.take_length] at made
    exact absurd (List.append_cancel_left made) hrest
  · rw [hres, ho]

end Chronicle

namespace Run

variable {σ : Type} (setup : Setup σ) (file : TestFile) (url : String)

/-- The errors of a test are the checks of it that do not hold. -/
theorem errors_one (name : String) (p : Performance σ) :
    (one setup file url name p).2.errors =
      p.errors + (Made.failed (chronicle setup file url name p).made).length :=
  (one_course setup file url name p).errors

/-- **One test, seen from its errors.** -/
theorem one_iff_upholds (name : String) (p : Performance σ) :
    ((one setup file url name p).1 = .ok () ∧
        (one setup file url name p).2.errors = p.errors) ↔
      (chronicle setup file url name p).Upholds (file.expansion name) := by
  have tells := one_tells setup file url name p
  rw [errors_one]
  constructor
  · rintro ⟨hr, he⟩
    exact tells.upholds hr (List.eq_nil_of_length_eq_zero (by omega))
  · intro u
    obtain ⟨hr, hm⟩ := u.ends_well tells
    rw [hm]
    exact ⟨hr, rfl⟩

/-! ## 2. All tests -/

/-- Errors are only added. -/
theorem errors_le_one (name : String) (p : Performance σ) :
    p.errors ≤ (one setup file url name p).2.errors := by
  rw [errors_one]
  exact Nat.le_add_right _ _

theorem errors_le_all (names : List String) (p : Performance σ) :
    p.errors ≤ (all setup file url names p).2.errors := by
  induction names, p using all_induction setup file url with
  | nil p => exact Nat.le_refl _
  | ok name names p hr ih =>
    rw [all_of_ok setup file url names hr]
    exact Nat.le_trans (errors_le_one setup file url name p) ih
  | fatal name names p e hr hf =>
    rw [all_of_fatal setup file url names hr hf]
    exact errors_le_one setup file url name p
  | goesOn name names p e hr hf ih =>
    rw [all_of_counted setup file url names hr hf]
    exact Nat.le_trans (Nat.le_succ_of_le (errors_le_one setup file url name p)) ih

/-- A run that adds no error has added none in its first test. -/
theorem all_cons_iff (name : String) (names : List String) (p : Performance σ) :
    ((∃ aborted, (all setup file url (name :: names) p).1 = .ok aborted) ∧
        (all setup file url (name :: names) p).2.errors = p.errors) ↔
      ((one setup file url name p).1 = .ok () ∧
        (one setup file url name p).2.errors = p.errors) ∧
      ((∃ aborted, (all setup file url names (one setup file url name p).2).1 = .ok aborted) ∧
        (all setup file url names (one setup file url name p).2).2.errors =
          (one setup file url name p).2.errors) := by
  have first := errors_le_one setup file url name p
  rcases hr : (one setup file url name p).1 with e | u
  · constructor
    · rintro ⟨⟨aborted, hok⟩, he⟩
      rcases all_of_error setup file url names hr with hall | hall
      · rw [hall] at hok
        cases hok
      · -- the test is counted, and then errors are only added
        have more := errors_le_all setup file url names
          (counted name e (one setup file url name p).2)
        have one_more : (counted name e (one setup file url name p).2).errors =
          (one setup file url name p).2.errors + 1 := rfl
        rw [hall] at he
        omega
    · rintro ⟨⟨hok, -⟩, -⟩
      cases hok
  · have rest := errors_le_all setup file url names (one setup file url name p).2
    rw [all_of_ok setup file url names hr]
    constructor
    · rintro ⟨hok, he⟩
      exact ⟨⟨rfl, by omega⟩, hok, by omega⟩
    · rintro ⟨⟨-, he⟩, hok, hrest⟩
      exact ⟨hok, hrest.trans he⟩

/-- **A run of tests adds no error if and only if every one of them is upheld.** -/
theorem all_iff_upholds (names : List String) (p : Performance σ) :
    ((∃ aborted, (all setup file url names p).1 = .ok aborted) ∧
        (all setup file url names p).2.errors = p.errors) ↔
      ∀ before name after, names = before ++ name :: after →
        (chronicle setup file url name (all setup file url before p).2).Upholds
          (file.expansion name) := by
  induction names generalizing p with
  | nil =>
    constructor
    · intro _ before name after h
      exact absurd h (by simp)
    · intro _
      exact ⟨⟨[], rfl⟩, rfl⟩
  | cons name names ih =>
    rw [all_cons_iff, one_iff_upholds, ih]
    constructor
    · rintro ⟨first, rest⟩ before name' after h
      rcases before with _ | ⟨name'', before⟩
      · cases h
        exact first
      · obtain ⟨rfl, hnames⟩ := List.cons.inj h
        have hr := ((one_iff_upholds setup file url name p).2 first).1
        rw [all_of_ok setup file url before hr]
        exact rest before name' after hnames
    · intro every
      have first := every [] name names rfl
      refine ⟨first, ?_⟩
      intro before name' after h
      have hr := ((one_iff_upholds setup file url name p).2 first).1
      have := every (name :: before) name' after (congrArg (name :: ·) h)
      rwa [all_of_ok setup file url before hr] at this

/-! ## 3. The verdict -/

/-- A run passes if and only if its tests come to an end and add no error to none. -/
theorem run_passed_iff (tests : List String) {p : Performance σ} (h : p.errors = 0) :
    (∃ summary, (run setup file url tests p).1 = .ok summary ∧ summary.passed = true) ↔
      (∃ aborted, (all setup file url (selection file tests)
          (announced url (selection file tests) p)).1 = .ok aborted) ∧
        (all setup file url (selection file tests)
          (announced url (selection file tests) p)).2.errors =
            (announced url (selection file tests) p).errors := by
  have zero : (announced url (selection file tests) p).errors = 0 := h
  rw [zero]
  rcases hall : all setup file url (selection file tests)
    (announced url (selection file tests) p) with ⟨e | aborted, q⟩
  · rw [run_of_error hall]
    simp
  · rw [run_of_ok hall]
    simp [RunSummary.passed]

end Run

end Playtest
