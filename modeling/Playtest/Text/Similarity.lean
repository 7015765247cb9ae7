/-
# How alike two words are

Two characters match if they are the same and stand at most so far apart that half of the
longer word lies between them.  The likeness is the mean of three quotients: the share of each
word that matches, and the share of the matches that stand in the same order.
-/

namespace Playtest
namespace Text

/-! ## 1. Matches -/

/-- Marks the first unmarked place within `low .. high` that holds the character. -/
def markFirst? (c : Char) (low high : Nat) : Nat → List (Char × Bool) → Option (List (Char × Bool))
  | _, [] => none
  | i, (d, isMarked) :: rest =>
    if low ≤ i ∧ i < high ∧ c = d ∧ !isMarked then some ((d, true) :: rest)
    else (markFirst? c low high (i + 1) rest).map ((d, isMarked) :: ·)

/-- The characters of the first word that match, and the second word with its matches
marked. -/
def matchFrom (range : Nat) : Nat → List Char → List (Char × Bool) →
    List Char × List (Char × Bool)
  | _, [], b => ([], b)
  | i, c :: rest, b =>
    match markFirst? c (i - range) (i + range + 1) 0 b with
    | none => matchFrom range (i + 1) rest b
    | some b =>
      let (matched, b) := matchFrom range (i + 1) rest b
      (c :: matched, b)

/-! ## 2. Likeness -/

/-- The likeness of two words as a quotient of whole numbers. -/
def likeness (a b : List Char) : Nat × Nat :=
  let range := max a.length b.length / 2 - 1
  let (left, marked) := matchFrom range 0 a (b.map (·, false))
  let right := (marked.filter (·.2)).map (·.1)
  let m := left.length
  let moved := ((left.zip right).filter fun p => p.1 ≠ p.2).length / 2
  if a = [] ∧ b = [] then (1, 1)
  else if m = 0 then (0, 1)
  else
    -- (m / |a| + m / |b| + (m - moved) / m) / 3 over one denominator
    let (p, q) := (a.length, b.length)
    (m * m * q + m * m * p + (m - moved) * p * q, 3 * m * p * q)

/-- The candidate most like a word, of several the last, if it is more than seven tenths
alike. -/
def mostLike? {α : Type} (word : String) (name : α → String) (candidates : List α) : Option α :=
  let scored := candidates.map fun x => (x, likeness word.toList (name x).toList)
  let good := scored.filter fun (_, n, d) => 7 * d < 10 * n
  (good.foldl (fun best x =>
    match best with
    | none => some x
    | some (y, n, d) => if n * x.2.2 ≤ x.2.1 * d then some x else some (y, n, d)) none).map (·.1)

end Text
end Playtest
