/-
# Walking along a path

What a path means if no file is looked at: from a place, walk along the parts between the
slashes.  An empty part or a point stays where it is, two points go up, and every other part
goes on to the name.  At the root two points stay, too.

The walk needs no texts to be joined and none to be cleaned.  The end of the walk from the
directory that a path is given for (`destination`) is what joining and cleaning come to
(`clean_join`), so two paths with the same end are the same in all that follows.
-/
import Playtest.Proofs.Files.Cleaning

namespace Playtest
namespace Path

/-! ## 1. The walk -/

/-- The names on the way to a place, after one more part of a path. -/
def step (names : List (List Char)) (part : List Char) : List (List Char) :=
  if part = [] ∨ part = ['.'] then names
  else if part = ['.', '.'] then names.dropLast
  else names ++ [part]

/-- The names on the way to the end of a path, from a place. -/
def walk (names : List (List Char)) (path : List Char) : List (List Char) :=
  (Text.splitAt '/' path).foldl step names

/-- The end of a path that is seen from a directory.  An absolute path starts at the root. -/
def destination (directory path : String) : List (List Char) :=
  walk (if isAbsolute path then [] else walk [] directory.toList) path.toList

/-- A walk goes on behind a slash. -/
theorem walk_append (names : List (List Char)) (front back : List Char) :
    walk names (front ++ '/' :: back) = walk (walk names front) back := by
  rw [walk, Text.splitAt_append_sep, List.foldl_append]
  rfl

/-- A slash at the end leads nowhere else. -/
theorem walk_slash (names : List (List Char)) (front : List Char) :
    walk names (front ++ ['/']) = walk names front := by
  rw [walk_append]
  simp [walk, Text.splitAt, step]

/-- A walk passes names only. -/
theorem isName_of_mem_walk {names : List (List Char)} (path : List Char)
    (h : ∀ name ∈ names, IsName name) : ∀ name ∈ walk names path, IsName name := by
  have parts : ∀ part ∈ Text.splitAt '/' path, '/' ∉ part :=
    fun part => Text.not_mem_of_mem_splitAt
  unfold walk
  generalize Text.splitAt '/' path = all at parts ⊢
  induction all generalizing names with
  | nil => exact h
  | cons part rest ih =>
    refine ih ?_ fun p hp => parts p (List.mem_cons_of_mem part hp)
    intro name hn
    unfold step at hn
    split at hn
    · exact h name hn
    · next here =>
      split at hn
      · exact h name (List.dropLast_subset names hn)
      · next up =>
        rcases List.mem_append.1 hn with hn | hn
        · exact h name hn
        · obtain ⟨nonempty, notCurrent⟩ := not_or.1 here
          rw [List.mem_singleton.1 hn]
          exact ⟨nonempty, parts part List.mem_cons_self, notCurrent, up⟩

/-! ## 2. Cleaning walks -/

/-- The steps from the root to a place, last first. -/
def stack (names : List (List Char)) : List Component :=
  names.reverse.map .name ++ [.root]

/-- Cleaning takes one part as the walk does. -/
theorem foldl_component? (names : List (List Char)) (part : List Char) :
    (component? part).toList.foldl cleanStep (stack names) = stack (step names part) := by
  unfold component? step
  split
  · rfl
  · split
    · rcases List.eq_nil_or_concat names with rfl | ⟨front, last, rfl⟩
      · rfl
      · simp [stack, cleanStep]
    · simp [stack, cleanStep]

/-- Cleaning takes the parts of a path as the walk does. -/
theorem foldl_cleanStep_parts (parts : List (List Char)) (names : List (List Char)) :
    (parts.filterMap component?).foldl cleanStep (stack names) =
      stack (parts.foldl step names) := by
  induction parts generalizing names with
  | nil => rfl
  | cons part parts ih =>
    have here := foldl_component? names part
    cases hc : component? part with
    | none =>
      rw [hc] at here
      have stays : stack names = stack (step names part) := here
      rw [List.filterMap_cons_none hc, List.foldl_cons, stays, ih]
    | some next =>
      rw [hc] at here
      have goes : cleanStep (stack names) next = stack (step names part) := here
      rw [List.filterMap_cons_some hc, List.foldl_cons, List.foldl_cons, goes, ih]

/-- **Cleaning an absolute path gives the place where its walk ends.** -/
theorem clean_eq_place {path : String} (h : isAbsolute path = true) :
    clean path = place (walk [] path.toList) := by
  have slash : path.toList.head? = some '/' := by simpa [isAbsolute] using h
  have steps : components path.toList =
      .root :: (Text.splitAt '/' path.toList).filterMap component? := by
    simp only [components]
    rw [if_pos slash]
    rfl
  have cleaned : cleanComponents (components path.toList) =
      .root :: (walk [] path.toList).map .name := by
    rw [cleanComponents, steps, List.foldl_cons]
    have taken := foldl_cleanStep_parts (Text.splitAt '/' path.toList) []
    refine (congrArg List.reverse taken).trans ?_
    simp [stack, walk]
  rw [clean, cleaned]
  rfl

/-- Walking along a joined path is walking along the directory and then along the path. -/
theorem walk_join {directory : String} (h : isAbsolute directory = true) (path : String) :
    walk [] (join directory path).toList = destination directory path := by
  have given : directory ≠ "" := by
    rintro rfl
    cases h
  unfold join destination
  by_cases absolute : isAbsolute path = true
  · simp [absolute]
  · by_cases ends : directory.toList.getLast? = some '/'
    · obtain ⟨front, hf⟩ := List.getLast?_eq_some_iff.1 ends
      simp only [absolute, given, ends, or_self, if_true, if_false, String.toList_append,
        Bool.false_eq_true]
      rw [hf, walk_slash, List.append_assoc, List.singleton_append, walk_append]
    · simp only [absolute, given, ends, or_self, if_false, String.toList_append,
        Bool.false_eq_true]
      rw [List.append_assoc]
      exact walk_append [] directory.toList path.toList

/-- What is joined to an absolute path is absolute. -/
theorem isAbsolute_join {directory : String} (h : isAbsolute directory = true) (path : String) :
    isAbsolute (join directory path) = true := by
  have first : directory.toList.head? = some '/' := by simpa [isAbsolute] using h
  have behind (rest : String) : isAbsolute (directory ++ rest) = true := by
    rw [isAbsolute, String.toList_append, List.head?_append, first]
    rfl
  have given : directory ≠ "" := by
    rintro rfl
    cases h
  unfold join
  split
  · next absolute => exact absolute.resolve_right given
  · split
    · exact behind path
    · rw [String.append_assoc]
      exact behind _

/-- **Joining and cleaning come to the end of the walk.** -/
theorem clean_join {directory : String} (h : isAbsolute directory = true) (path : String) :
    clean (join directory path) = place (destination directory path) := by
  rw [clean_eq_place (isAbsolute_join h path), walk_join h path]

theorem isName_of_mem_destination {directory path : String} {name : List Char}
    (h : name ∈ destination directory path) : IsName name := by
  refine isName_of_mem_walk path.toList ?_ name h
  split
  · intro name hn
    cases hn
  · exact isName_of_mem_walk directory.toList fun name hn => nomatch hn

end Path
end Playtest
