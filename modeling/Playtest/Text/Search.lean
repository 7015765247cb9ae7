/-
# Finding and cutting text

Plain operations on character lists that the readers share: does a text occur in another,
what follows a fixed start, and the cut at the first or at every separator.
-/

namespace Playtest
namespace Text

/-! ## 1. Occurrence -/

/-- `needle` stands somewhere in the text.  The empty text stands in every text. -/
def occursIn (needle : List Char) : List Char → Bool
  | [] => needle.isEmpty
  | c :: rest => needle.isPrefixOf (c :: rest) || occursIn needle rest

theorem occursIn_iff {needle s : List Char} : occursIn needle s = true ↔ needle <:+: s := by
  induction s with
  | nil => simp [occursIn]
  | cons c rest ih =>
    rw [occursIn, Bool.or_eq_true, ih, List.isPrefixOf_iff_prefix, List.infix_cons_iff]

/-! ## 2. Cutting -/

/-- What follows `start`, if the text begins with it. -/
def after? : List Char → List Char → Option (List Char)
  | [], s => some s
  | _ :: _, [] => none
  | a :: start, c :: s => if a = c then after? start s else none

theorem after?_eq_some_iff {start s rest : List Char} :
    after? start s = some rest ↔ s = start ++ rest := by
  induction start generalizing s with
  | nil => simp [after?]
  | cons a start ih =>
    cases s with
    | nil => simp [after?]
    | cons c s =>
      by_cases h : a = c
      · simp [after?, h, ih]
      · have hc : ¬ c = a := fun e => h e.symm
        simp [after?, h, hc]

/-- The parts before and after the first `sep`, if there is one. -/
def cutAt? (sep : Char) : List Char → Option (List Char × List Char)
  | [] => none
  | c :: rest =>
    if c = sep then some ([], rest)
    else (cutAt? sep rest).map fun p => (c :: p.1, p.2)

/-- The cut at the first separator, after a text that holds none. -/
theorem cutAt?_append {sep : Char} {s rest : List Char} (h : sep ∉ s) :
    cutAt? sep (s ++ sep :: rest) = some (s, rest) := by
  induction s with
  | nil => simp [cutAt?]
  | cons c s ih =>
    have hc : c ≠ sep := fun e => List.ne_of_not_mem_cons h e.symm
    rw [List.cons_append, cutAt?, if_neg hc, ih (List.not_mem_of_not_mem_cons h)]
    rfl

theorem cutAt?_of_not_mem {sep : Char} {s : List Char} (h : sep ∉ s) : cutAt? sep s = none := by
  induction s with
  | nil => rfl
  | cons c s ih =>
    have hc : c ≠ sep := fun e => List.ne_of_not_mem_cons h e.symm
    rw [cutAt?, if_neg hc, ih (List.not_mem_of_not_mem_cons h)]
    rfl

theorem of_cutAt?_eq_some {sep : Char} {s front back : List Char}
    (h : cutAt? sep s = some (front, back)) : s = front ++ sep :: back := by
  induction s generalizing front with
  | nil => cases h
  | cons c rest ih =>
    rw [cutAt?] at h
    split at h
    · next hc =>
      cases h
      rw [hc]
      rfl
    · obtain ⟨⟨front', back'⟩, cut, parts⟩ := Option.map_eq_some_iff.1 h
      cases parts
      rw [List.cons_append, ← ih cut]

/-- The parts between the separators: one more than there are separators. -/
def splitAt (sep : Char) : List Char → List (List Char)
  | [] => [[]]
  | c :: rest =>
    if c = sep then [] :: splitAt sep rest
    else
      match splitAt sep rest with
      | [] => [[c]]
      | part :: parts => (c :: part) :: parts

theorem splitAt_ne_nil (sep : Char) (s : List Char) : splitAt sep s ≠ [] := by
  cases s with
  | nil => simp [splitAt]
  | cons c rest =>
    rw [splitAt]
    split
    · simp
    · split <;> simp

/-- The lists with `sep` between any two neighbours. -/
def joinWith (sep : List Char) : List (List Char) → List Char
  | [] => []
  | [part] => part
  | part :: parts => part ++ sep ++ joinWith sep parts

theorem splitAt_sep (sep : Char) (s : List Char) :
    splitAt sep (sep :: s) = [] :: splitAt sep s := by
  rw [splitAt, if_pos rfl]

theorem splitAt_append {sep : Char} {s : List Char} (h : sep ∉ s) (rest : List Char) :
    splitAt sep (s ++ sep :: rest) = s :: splitAt sep rest := by
  induction s with
  | nil => exact splitAt_sep sep rest
  | cons c s ih =>
    have hc : c ≠ sep := fun e => List.ne_of_not_mem_cons h e.symm
    rw [List.cons_append, splitAt, if_neg hc, ih (List.not_mem_of_not_mem_cons h)]

/-- The parts before a separator and the parts behind it. -/
theorem splitAt_append_sep (sep : Char) (s rest : List Char) :
    splitAt sep (s ++ sep :: rest) = splitAt sep s ++ splitAt sep rest := by
  induction s with
  | nil => exact splitAt_sep sep rest
  | cons c s ih =>
    rw [List.cons_append, splitAt, splitAt, ih]
    split
    · rfl
    · split
      · next h => exact absurd (List.append_eq_nil_iff.1 h).1 (splitAt_ne_nil sep s)
      · next part parts h =>
        rcases hs : splitAt sep s with _ | ⟨first, others⟩
        · exact absurd hs (splitAt_ne_nil sep s)
        · rw [hs, List.cons_append] at h
          cases h
          rfl

theorem splitAt_of_not_mem {sep : Char} {s : List Char} (h : sep ∉ s) : splitAt sep s = [s] := by
  induction s with
  | nil => rfl
  | cons c s ih =>
    have hc : c ≠ sep := fun e => List.ne_of_not_mem_cons h e.symm
    rw [splitAt, if_neg hc, ih (List.not_mem_of_not_mem_cons h)]

/-- Parts that are joined and cut again are the same parts, if no part holds the separator. -/
theorem splitAt_joinWith {sep : Char} {parts : List (List Char)} (hne : parts ≠ [])
    (h : ∀ part ∈ parts, sep ∉ part) : splitAt sep (joinWith [sep] parts) = parts := by
  induction parts with
  | nil => exact absurd rfl hne
  | cons part parts ih =>
    have first : sep ∉ part := h part List.mem_cons_self
    rcases parts with _ | ⟨next, parts⟩
    · rw [joinWith, splitAt_of_not_mem first]
    · have others : ∀ p ∈ next :: parts, sep ∉ p := fun p hp => h p (List.mem_cons_of_mem _ hp)
      rw [joinWith, List.append_assoc, List.singleton_append, splitAt_append first,
        ih (List.cons_ne_nil _ _) others]
      exact fun e => List.cons_ne_nil _ _ e

/-- Parts that are cut and joined again are the text. -/
theorem joinWith_splitAt (sep : Char) (s : List Char) : joinWith [sep] (splitAt sep s) = s := by
  induction s with
  | nil => rfl
  | cons c rest ih =>
    rcases hs : splitAt sep rest with _ | ⟨part, parts⟩
    · exact absurd hs (splitAt_ne_nil sep rest)
    · rw [hs] at ih
      rw [splitAt, hs]
      split
      · next hc =>
        rw [joinWith, ih, hc]
        · rfl
        · exact List.cons_ne_nil _ _
      · cases parts <;> exact congrArg (c :: ·) ih

theorem joinWith_cons (sep part : List Char) (parts : List (List Char)) :
    joinWith sep (part :: parts) = part ++ parts.flatMap (sep ++ ·) := by
  induction parts generalizing part with
  | nil => simp [joinWith]
  | cons next parts ih =>
    rw [joinWith]
    · simp [ih, List.append_assoc]
    · simp

theorem infix_joinWith {sep part : List Char} {parts : List (List Char)} (h : part ∈ parts) :
    part <:+: joinWith sep parts := by
  induction parts with
  | nil => cases h
  | cons first parts ih =>
    rcases parts with _ | ⟨next, parts⟩
    · rw [List.mem_singleton.1 h]
      exact List.infix_rfl
    · rw [joinWith]
      · rcases List.mem_cons.1 h with rfl | h
        · exact ((List.prefix_append part sep).trans (List.prefix_append _ _)).isInfix
        · exact (ih h).trans (List.suffix_append _ _).isInfix
      · exact fun e => List.cons_ne_nil _ _ e

theorem not_mem_of_mem_splitAt {sep : Char} {s part : List Char} (h : part ∈ splitAt sep s) :
    sep ∉ part := by
  induction s generalizing part with
  | nil =>
    rw [splitAt, List.mem_singleton] at h
    rw [h]
    exact List.not_mem_nil
  | cons c rest ih =>
    rw [splitAt] at h
    split at h
    · rcases List.mem_cons.1 h with rfl | h
      · exact List.not_mem_nil
      · exact ih h
    · next hc =>
      split at h
      · next hs => exact absurd hs (splitAt_ne_nil sep rest)
      · next first parts hs =>
        rcases List.mem_cons.1 h with rfl | h
        · have inner : sep ∉ first := ih (by rw [hs]; exact List.mem_cons_self)
          exact List.not_mem_cons_of_ne_of_not_mem (fun e => hc e.symm) inner
        · exact ih (by rw [hs]; exact List.mem_cons_of_mem _ h)

/-! ## 3. Ends -/

section

variable {p : Char → Bool} {s : List Char}

/-- Nothing is dropped from a text that does not begin so. -/
theorem dropWhile_of_head? (h : ∀ c, s.head? = some c → p c = false) : s.dropWhile p = s := by
  rcases s with _ | ⟨c, s⟩
  · rfl
  · rw [List.dropWhile_cons_of_neg]
    rw [h c rfl]
    decide

/-- A text from which nothing is dropped does not begin so. -/
theorem head?_of_dropWhile_eq (h : s.dropWhile p = s) {c : Char} (hc : s.head? = some c) :
    p c = false := by
  have first := List.head?_dropWhile_not p s
  rw [h, hc] at first
  exact first

theorem dropWhileEnd_sublist : (s.reverse.dropWhile p).reverse.Sublist s := by
  refine List.reverse_sublist.1 ?_
  rw [List.reverse_reverse]
  exact List.dropWhile_sublist p

/-- Nothing is dropped from a text that does not end so. -/
theorem dropWhileEnd_of_getLast? (h : ∀ c, s.getLast? = some c → p c = false) :
    (s.reverse.dropWhile p).reverse = s := by
  rw [dropWhile_of_head?, List.reverse_reverse]
  rw [List.head?_reverse]
  exact h

/-- A text from which nothing is dropped does not end so. -/
theorem getLast?_of_dropWhileEnd_eq (h : (s.reverse.dropWhile p).reverse = s) {c : Char}
    (hc : s.getLast? = some c) : p c = false := by
  refine head?_of_dropWhile_eq (List.reverse_eq_iff.1 h) ?_
  rw [List.head?_reverse]
  exact hc

end

end Text
end Playtest
