/-
# Includes come to an end

`Script/Cue.lean` plays a test by a stack of bodies under way, and an include puts one more body on
it.  This file proves what every such stack is like, and what that makes of the include graph of a
file, whatever the graph is.

* `Cue.Follows` is one turn: a body ends, or a directive of the innermost body is carried out.
* `Cue.Sound` is the invariant.  The tests under way are declared and distinct, and each of them is
  included by the one below it, so that the names of a stack are a path in the include graph.
* `Cue.size` is the measure.  Every turn makes a stack smaller, also the turn that puts a whole body
  on top of it.
* `TestFile.acc_of_complete` is the converse of termination: a test that is expanded to its end
  reaches no cycle.
-/
import Mathlib.Data.List.Chain
import Mathlib.Data.List.Dedup
import Mathlib.Data.List.Perm.Subperm
import Mathlib.Logic.Relation
import Playtest.Proofs.Script.Expansion

namespace Playtest

/-! ## 1. The include graph -/

/-- Two scripts in a row are complete only if both are. -/
theorem Expansion.complete_of_andThen {x y : Expansion} (h : (x.andThen y).ending = .complete) :
    x.ending = .complete ∧ y.ending = .complete := by
  rcases hx : x.ending with _ | name | chain <;> rw [andThen, hx] at h
  · exact ⟨rfl, h⟩
  · cases hx.symm.trans h
  · cases hx.symm.trans h

namespace TestFile

/-- The body of the test `a` includes `b`. -/
def Includes (file : TestFile) (a b : String) : Prop := .includeTest b ∈ file.body a

/-- A cycle of includes can be reached from the test `name`. -/
def Cyclic (file : TestFile) (name : String) : Prop :=
  ∃ a, Relation.ReflTransGen file.Includes name a ∧ Relation.TransGen file.Includes a a

/-- A chain of names, each of which includes the next one, that comes back to one of them. -/
structure Loops (file : TestFile) (name : String) (chain : List String) : Prop where
  starts : chain.head? = some name
  distinct : chain.dropLast.Nodup
  returns : ∃ last, chain.getLast? = some last ∧ last ∈ chain.dropLast
  includes : chain.IsChain file.Includes

/-- Each of the names on a chain of includes can be reached from the first one. -/
theorem reaches_of_chain {file : TestFile} {a b : String} {names : List String}
    (h : (a :: names).IsChain file.Includes) (hb : b ∈ a :: names) :
    Relation.ReflTransGen file.Includes a b := by
  induction names generalizing a with
  | nil =>
    obtain rfl := List.mem_singleton.1 hb
    exact .refl
  | cons c names ih =>
    obtain ⟨step, rest⟩ := List.isChain_cons_cons.1 h
    rcases List.mem_cons.1 hb with rfl | hb
    · exact .refl
    · exact .head step (ih rest hb)

/-- A chain that comes back shows a cycle. -/
theorem Loops.cyclic {file : TestFile} {name : String} {chain : List String}
    (h : file.Loops name chain) : file.Cyclic name := by
  obtain ⟨last, hl, hm⟩ := h.returns
  obtain ⟨before, behind, hd⟩ := List.append_of_mem hm
  have whole : chain = before ++ last :: (behind ++ [last]) := by
    rw [← List.dropLast_append_getLast? last hl, hd, List.append_assoc, List.cons_append]
  refine ⟨last, ?_, ?_⟩
  · cases before with
    | nil =>
      have starts := h.starts
      rw [whole] at starts
      cases starts
      exact .refl
    | cons first before =>
      have starts := h.starts
      rw [whole] at starts
      cases starts
      refine reaches_of_chain (whole ▸ h.includes) ?_
      simp
  · have round : (last :: (behind ++ [last])).IsChain file.Includes :=
      (List.isChain_append.1 (whole ▸ h.includes)).2.1
    cases behind with
    | nil => exact .single (List.isChain_cons_cons.1 round).1
    | cons next behind =>
      obtain ⟨step, rest⟩ := List.isChain_cons_cons.1 round
      exact .head' step (reaches_of_chain rest (by simp))

/-- A test that is included has a line in the body that includes it. -/
theorem mem_bodyLines_of_includes {file : TestFile} {a b : String} (h : file.Includes a b) :
    .directive (.includeTest b) ∈ file.bodyLines a := by
  rw [Includes, ← directives_bodyLines, List.mem_filterMap] at h
  obtain ⟨line, hl, hd⟩ := h
  cases line with
  | directive d =>
    cases hd
    exact hl
  | malformed raw => cases hd

/-- Lines that are expanded to their end include only tests from which every way ends. -/
theorem acc_of_complete {file : TestFile} {outer : List String} {name : String}
    {lines : List BodyLine} (h : (file.expand outer name lines).ending = .complete) (b : String)
    (hb : .directive (.includeTest b) ∈ lines) : Acc (flip file.Includes) b := by
  induction outer, name, lines using TestFile.expand.induct file generalizing b with
  | case1 outer name => cases hb
  | case2 outer name raw rest ih =>
    rw [expand] at h
    exact ih h b ((List.mem_cons.1 hb).resolve_left (by simp))
  | case3 outer name c rest ih =>
    rw [expand] at h
    exact ih h b ((List.mem_cons.1 hb).resolve_left (by simp))
  | case4 outer name i rest ih =>
    rw [expand] at h
    exact ih h b ((List.mem_cons.1 hb).resolve_left (by simp))
  | case5 outer name rest included hc hn =>
    rw [expand, dif_pos hc, dif_pos hn] at h
    cases h
  | case6 outer name rest included hc hn ihBody ihRest =>
    rw [expand, dif_pos hc, dif_neg hn] at h
    obtain ⟨body, behind⟩ := Expansion.complete_of_andThen h
    rcases List.mem_cons.1 hb with same | hb
    · cases same
      exact ⟨_, fun c hc => ihBody body c (mem_bodyLines_of_includes hc)⟩
    · exact ihRest behind b hb
  | case7 outer name rest included hc =>
    rw [expand, dif_neg hc] at h
    cases h

/-- **A test that is expanded to its end reaches no cycle.** -/
theorem not_cyclic_of_complete {file : TestFile} {name : String}
    (h : (file.expansion name).ending = .complete) : ¬file.Cyclic name := by
  have ends : Acc (flip file.Includes) name := by
    rw [expansion] at h
    split at h
    · exact ⟨_, fun b hb => acc_of_complete h b (mem_bodyLines_of_includes hb)⟩
    · cases h
  have behind {a : String} (way : Relation.ReflTransGen file.Includes name a) :
      Acc (flip file.Includes) a := by
    induction way with
    | refl => exact ends
    | tail _ step ih => exact ih.inv step
  rintro ⟨a, way, round⟩
  induction behind way with
  | intro a _ ih =>
    obtain ⟨b, step, back⟩ := Relation.TransGen.head'_iff.1 round
    exact ih b step (way.tail step) (.tail' back step)

end TestFile

/-! ## 2. The turns of a stack -/

/-- The directives that a step of a walk leaves behind the one that it finds. -/
theorem Activation.toEnd_of_some {walk : Activation} {d : Directive}
    (h : walk.next.directive? = some d) : walk.toEnd.1 = d :: walk.next.walk.toEnd.1 := by
  rw [toEnd]
  split
  · next h' =>
    rw [h'] at h
    cases h
  · next walk' h' =>
    have hw : walk.next.walk = walk' := congrArg Found.walk h'
    rw [h'] at h
    cases h
    rw [hw]

namespace Cue

/-- What a directive makes of the stack.  Only an include of a declared test that is not under way
changes it. -/
theorem ofDirective_snd (file : TestFile) (stack : List Activation) (owner : String)
    (d : Directive) :
    (ofDirective file stack owner d).2 = stack ∨
      ∃ name, d = .includeTest name ∧ file.contains name = true ∧ underWay stack name = false ∧
        (ofDirective file stack owner d).2 = file.activate name :: stack := by
  cases d with
  | check c => exact .inl rfl
  | input i => exact .inl rfl
  | includeTest name =>
    by_cases hc : file.contains name = true
    · cases hu : underWay stack name with
      | true => exact .inl (by simp [ofDirective, hc, hu])
      | false => exact .inr ⟨name, rfl, hc, hu, by simp [ofDirective, hc, hu]⟩
    · exact .inl (by simp [ofDirective, hc])

/-- An include that closes a cycle. -/
theorem of_ofDirective_cycle {file : TestFile} {stack : List Activation} {owner : String}
    {d : Directive} {chain : List String}
    (h : (ofDirective file stack owner d).1 = .cycle chain) :
    ∃ name, d = .includeTest name ∧ underWay stack name = true ∧
      chain = (names stack).reverse ++ [name] := by
  cases d with
  | check c => cases h
  | input i => cases h
  | includeTest name =>
    rw [ofDirective] at h
    split at h
    · cases h
    · split at h
      · next hu =>
        cases h
        exact ⟨name, rfl, hu, rfl⟩
      · cases h

/-- One turn of a stack: its innermost body is at its end, or the next directive of it is carried
out. -/
inductive Follows (file : TestFile) : List Activation → List Activation → Prop where
  | ends {top below} (none : top.next.directive? = none) : Follows file (top :: below) below
  | directive {top below d} (some : top.next.directive? = some d) :
    Follows file (top :: below) (ofDirective file (top.next.walk :: below) top.name d).2

/-- What holds of every stack that plays the test `name`. -/
structure Sound (file : TestFile) (name : String) (stack : List Activation) : Prop where
  declared : ∀ n ∈ names stack, n ∈ file.testNames
  distinct : (names stack).Nodup
  /-- Each test is included by the one below it. -/
  path : (names stack).IsChain (flip file.Includes)
  /-- The outermost test is the one that is played. -/
  outermost : ∀ n ∈ (names stack).getLast?, n = name
  /-- What a walk has still to find stands in the body. -/
  within : ∀ walk ∈ stack, walk.toEnd.1 ⊆ file.body walk.name

section
variable {file : TestFile} {name : String} {top : Activation} {below stack stack' : List Activation}

/-- A test begins with a sound stack. -/
theorem sound_activate (h : file.contains name = true) : Sound file name [file.activate name] where
  declared n hn := by
    rw [List.mem_singleton.1 hn]
    exact List.contains_iff_mem.1 h
  distinct := List.nodup_singleton name
  path := .singleton name
  outermost n hn := (Option.some.inj hn).symm
  within walk hw := by
    rw [List.mem_singleton.1 hw]
    exact List.Subset.refl _

/-- The stack below a body. -/
theorem Sound.tail (h : Sound file name (top :: below)) : Sound file name below where
  declared n hn := h.declared n (List.mem_cons_of_mem _ hn)
  distinct := (List.nodup_cons.1 h.distinct).2
  path := List.IsChain.tail h.path
  outermost n hn := by
    refine h.outermost n ?_
    cases below with
    | nil => cases hn
    | cons next below => exact hn
  within walk hw := h.within walk (List.mem_cons_of_mem _ hw)

theorem names_next (top : Activation) (below : List Activation) :
    names (top.next.walk :: below) = names (top :: below) :=
  congrArg (· :: names below) (Activation.next_name top)

/-- The stack behind a directive that has been read. -/
theorem Sound.next (h : Sound file name (top :: below)) {d : Directive}
    (hd : top.next.directive? = some d) : Sound file name (top.next.walk :: below) where
  declared := names_next top below ▸ h.declared
  distinct := names_next top below ▸ h.distinct
  path := names_next top below ▸ h.path
  outermost := names_next top below ▸ h.outermost
  within walk hw := by
    rcases List.mem_cons.1 hw with rfl | hw
    · have left := h.within top List.mem_cons_self
      rw [Activation.toEnd_of_some hd] at left
      rw [Activation.next_name]
      exact fun x hx => left (List.mem_cons_of_mem d hx)
    · exact h.within walk (List.mem_cons_of_mem _ hw)

/-- A directive that is found stands in the body. -/
theorem Sound.mem_body (h : Sound file name (top :: below)) {d : Directive}
    (hd : top.next.directive? = some d) : d ∈ file.body top.name := by
  refine h.within top List.mem_cons_self ?_
  rw [Activation.toEnd_of_some hd]
  exact List.mem_cons_self

/-- **Every turn keeps a stack sound.** -/
theorem Sound.follows (h : Sound file name stack) (step : Follows file stack stack') :
    Sound file name stack' := by
  cases step with
  | ends none => exact h.tail
  | @directive top below d some =>
    have read := h.next some
    rcases ofDirective_snd file (top.next.walk :: below) top.name d with
      same | ⟨included, rfl, hc, hu, entered⟩
    · rw [same]
      exact read
    · rw [entered]
      have new : included ∉ names (top.next.walk :: below) := by
        rw [underWay_eq] at hu
        intro hm
        rw [List.contains_iff_mem.2 hm] at hu
        cases hu
      have step : file.Includes top.next.walk.name included := by
        rw [Activation.next_name]
        exact h.mem_body some
      exact {
        declared := by
          intro n hn
          rcases List.mem_cons.1 hn with rfl | hn
          · exact List.contains_iff_mem.1 hc
          · exact read.declared n hn
        distinct := List.nodup_cons.2 ⟨new, read.distinct⟩
        path := List.isChain_cons_cons.2 ⟨step, read.path⟩
        outermost := read.outermost
        within := by
          intro walk hw
          rcases List.mem_cons.1 hw with rfl | hw
          · exact List.Subset.refl _
          · exact read.within walk hw }

/-- A sound stack is no deeper than there are names declared. -/
theorem Sound.depth (h : Sound file name stack) :
    stack.length ≤ file.testNames.dedup.length := by
  have inside : names stack ⊆ file.testNames.dedup :=
    fun n hn => List.mem_dedup.2 (h.declared n hn)
  calc stack.length = (names stack).length := (List.length_map _).symm
    _ ≤ file.testNames.dedup.length := (List.subperm_of_subset h.distinct inside).length_le

/-- **An include that closes a cycle shows it.** -/
theorem Sound.loops (h : Sound file name (top :: below)) {d : Directive}
    (hd : top.next.directive? = some d) {chain : List String}
    (hc : (ofDirective file (top.next.walk :: below) top.name d).1 = .cycle chain) :
    file.Loops name chain := by
  obtain ⟨included, rfl, hu, rfl⟩ := of_ofDirective_cycle hc
  rw [underWay_eq, names_next] at hu
  rw [names_next]
  have last : (names (top :: below)).getLast? = some name := by
    obtain ⟨n, hn⟩ : ∃ n, (names (top :: below)).getLast? = some n :=
      ⟨_, List.getLast?_eq_some_getLast (by simp [names])⟩
    rw [hn, h.outermost n hn]
  exact {
    starts := by
      rw [List.head?_append, List.head?_reverse, last]
      rfl
    distinct := by
      rw [List.dropLast_concat]
      exact List.nodup_reverse.2 h.distinct
    returns := by
      refine ⟨included, List.getLast?_concat, ?_⟩
      rw [List.dropLast_concat]
      exact List.mem_reverse.2 (List.contains_iff_mem.1 hu)
    includes := by
      refine List.isChain_append.2 ⟨List.isChain_reverse.2 h.path, .singleton included, ?_⟩
      intro a ha b hb
      obtain rfl : included = b := Option.some.inj hb
      rw [List.getLast?_reverse] at ha
      obtain rfl : top.name = a := Option.some.inj ha
      exact h.mem_body hd }

/-! ## 3. Turns come to an end -/

/-- The size of a stack: its weight, and room for a turn in which a body ends. -/
def size (file : TestFile) (stack : List Activation) : Nat :=
  2 * weight file stack + stack.length

/-- **Every turn makes a stack smaller.** -/
theorem size_follows_lt (step : Follows file stack stack') :
    size file stack' < size file stack := by
  cases step with
  | @ends top _ none =>
    have : weight file stack' ≤ weight file (top :: stack') := by
      rw [weight]
      exact Nat.le_add_left _ _
    rw [size, size, List.length_cons]
    omega
  | @directive top below d some =>
    have lighter : weight file (ofDirective file (top.next.walk :: below) top.name d).2 <
        weight file (top :: below) :=
      weight_ofDirective_lt (Activation.next_name top) (Activation.next_length some) top.name d
    have deeper : (ofDirective file (top.next.walk :: below) top.name d).2.length ≤
        (top :: below).length + 1 := by
      rcases ofDirective_snd file (top.next.walk :: below) top.name d with
        same | ⟨included, -, -, -, entered⟩
      · rw [same]
        simp
      · rw [entered]
        simp
    rw [size, size]
    omega

end

end Cue

end Playtest
