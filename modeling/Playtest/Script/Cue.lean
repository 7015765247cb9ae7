/-
# Includes in place

An include plays the body of another test where it stands.  The bodies under way form a stack
of activations, the innermost first, and the next cue comes from the innermost one that has
something left.

A test that is under way cannot be included again, so the stack never holds more activations
than the file declares tests, and the cues of every test come to an end.
-/
import Playtest.Script.Activation

namespace Playtest

/-- What the script asks for next. -/
inductive Cue where
  /-- A check, with the test whose body has it. -/
  | check (owner : String) (check : Check)
  | input (input : Input)
  /-- The body of another test begins. -/
  | entered (name : String)
  /-- An include of a test that is not declared. -/
  | unknown (name : String)
  /-- An include of a test that is under way: the tests from the outermost one on, and the
  included one again. -/
  | cycle (chain : List String)
  deriving DecidableEq, Repr

/-- A malformed line passed by, with the test whose body has it. -/
structure Passed where
  test : String
  line : String
  deriving DecidableEq, Repr

namespace Cue

/-! ## 1. The next cue -/

/-- The test is under way. -/
def underWay (stack : List Activation) (name : String) : Bool :=
  stack.any fun walk => walk.name == name

/-- The cue for a directive of the innermost body, and the stack behind it. -/
def ofDirective (file : TestFile) (stack : List Activation) (owner : String) :
    Directive → Cue × List Activation
  | .check c => (.check owner c, stack)
  | .input i => (.input i, stack)
  | .includeTest name =>
    if !file.contains name then (.unknown name, stack)
    else if underWay stack name then
      (.cycle ((stack.map Activation.name).reverse ++ [name]), stack)
    else (.entered name, file.activate name :: stack)

/-- The next cue of a stack, if it has one, with the malformed lines on the way. -/
def next (file : TestFile) : List Activation → List Passed × Option (Cue × List Activation)
  | [] => ([], none)
  | top :: below =>
    let found := top.next
    let passed := found.passed.map (Passed.mk top.name)
    match found.directive? with
    | none =>
      let (more, result) := next file below
      (passed ++ more, result)
    | some d => (passed, some (ofDirective file (found.walk :: below) top.name d))

/-! ## 2. Cues come to an end -/

/-- The declared tests that are not under way, with repetitions. -/
def free (file : TestFile) (stack : List Activation) : Nat :=
  (file.testNames.filter fun name => !underWay stack name).length

/-- The weight of a line of the innermost body.  A line weighs more the more tests could still
be included from its body, and a whole body included weighs less than the line that includes
it. -/
def lineWeight (file : TestFile) (stack : List Activation) : Nat :=
  Nat.pow (file.lines.length + 1) (free file stack)

/-- The weight of a stack. -/
def weight (file : TestFile) : List Activation → Nat
  | [] => 0
  | top :: below => top.rest.length * lineWeight file (top :: below) + weight file below

theorem lineWeight_pos (file : TestFile) (stack : List Activation) : 0 < lineWeight file stack :=
  Nat.pow_pos (by omega)

theorem filter_length_lt {α : Type} {p q : α → Bool} {xs : List α}
    (hpq : ∀ x, q x = true → p x = true) {a : α} (ha : a ∈ xs) (hp : p a = true)
    (hq : q a = false) : (xs.filter q).length < (xs.filter p).length := by
  have le (ys : List α) : (ys.filter q).length ≤ (ys.filter p).length := by
    induction ys with
    | nil => simp
    | cons y ys ih =>
      simp only [List.filter_cons]
      split
      · next h =>
        rw [if_pos (hpq y h), List.length_cons, List.length_cons]
        omega
      · split
        · rw [List.length_cons]; omega
        · exact ih
  induction xs with
  | nil => simp at ha
  | cons x xs ih =>
    rw [List.filter_cons, List.filter_cons]
    rcases List.mem_cons.1 ha with rfl | h
    · rw [if_pos hp, if_neg (by simp [hq])]
      exact Nat.lt_succ_of_le (le xs)
    · have := ih h
      split
      · next hx => rw [if_pos (hpq x hx)]; simpa using this
      · split
        · rw [List.length_cons]; omega
        · exact this

/-- Entering a test leaves fewer that are not under way. -/
theorem free_activate_lt {file : TestFile} {stack : List Activation} {name : String}
    (hc : file.contains name = true) (hu : underWay stack name = false) :
    free file (file.activate name :: stack) < free file stack := by
  refine filter_length_lt (a := name) ?_ (List.contains_iff_mem.1 hc) (by simp [hu]) ?_
  · intro t h
    simp [underWay] at h ⊢
    exact h.2
  · simp [underWay, TestFile.activate]

theorem free_congr {file : TestFile} {a b : Activation} (below : List Activation)
    (h : a.name = b.name) : free file (a :: below) = free file (b :: below) := by
  simp [free, underWay, h]

theorem lineWeight_congr {file : TestFile} {a b : Activation} (below : List Activation)
    (h : a.name = b.name) : lineWeight file (a :: below) = lineWeight file (b :: below) := by
  rw [lineWeight, lineWeight, free_congr below h]

/-- A body entered weighs less than a line of the body that includes it. -/
theorem lineWeight_activate {file : TestFile} {stack : List Activation} {name : String}
    (hc : file.contains name = true) (hu : underWay stack name = false) :
    (file.lines.length + 1) * lineWeight file (file.activate name :: stack)
      ≤ lineWeight file stack := by
  have h := Nat.pow_le_pow_right (Nat.succ_pos file.lines.length)
    (Nat.succ_le_of_lt (free_activate_lt hc hu))
  rw [Nat.mul_comm]
  exact h

theorem weight_ofDirective_lt {file : TestFile} {top walk : Activation}
    {below : List Activation} (hn : walk.name = top.name)
    (hl : walk.rest.length < top.rest.length) (owner : String) (d : Directive) :
    weight file (ofDirective file (walk :: below) owner d).2 < weight file (top :: below) := by
  have step : weight file (walk :: below) + lineWeight file (walk :: below)
      ≤ weight file (top :: below) := by
    rw [weight, weight, lineWeight_congr below hn]
    have := Nat.mul_le_mul_right (lineWeight file (top :: below)) hl
    rw [Nat.succ_mul] at this
    omega
  have pos := lineWeight_pos file (walk :: below)
  unfold ofDirective
  split
  · dsimp only; omega
  · dsimp only; omega
  · next name =>
    split
    · dsimp only; omega
    · next hc =>
      split
      · dsimp only; omega
      · next hu =>
        have hp := lineWeight_activate (by simpa using hc) (Bool.not_eq_true _ ▸ hu)
        have hpos := lineWeight_pos file (file.activate name :: walk :: below)
        rw [Nat.succ_mul] at hp
        show file.lines.length * _ + weight file (walk :: below) < _
        omega

/-- Every cue makes the stack lighter. -/
theorem weight_next_lt {file : TestFile} {stack : List Activation} {passed cue stack'}
    (h : next file stack = (passed, some (cue, stack'))) :
    weight file stack' < weight file stack := by
  induction stack generalizing passed with
  | nil => simp [next] at h
  | cons top below ih =>
    rw [next] at h
    dsimp only at h
    split at h
    · have h2 : (next file below).2 = some (cue, stack') := congrArg Prod.snd h
      have : next file below = ((next file below).1, some (cue, stack')) := Prod.ext rfl h2
      exact Nat.lt_of_lt_of_le (ih this) (by rw [weight]; omega)
    · next d hd =>
      have h2 := congrArg Prod.snd h
      simp only [Option.some.injEq] at h2
      have := @weight_ofDirective_lt file top _ below (Activation.next_name top)
        (Activation.next_length hd) top.name d
      rwa [h2] at this

end Cue
end Playtest
