/-
# Whole numbers in text

A whole number without a sign is one or more digits, with a plus sign before them if one
likes, and it must fit.  A number with a sign may also be negative, and its reader says what is
wrong with a text that is none: the first character at which it goes wrong decides.
-/

namespace Playtest
namespace Text

/-! ## 1. Digits -/

/-- The number that a row of digits denotes. -/
def digitsValue (s : List Char) : Nat := s.foldl (fun n c => n * 10 + (c.toNat - 48)) 0

/-- The digits of a number denote it. -/
theorem digitsValue_toDigits (n : Nat) : digitsValue (Nat.toDigits 10 n) = n := by
  have read : Nat.ofDigitChars 10 (Nat.toDigits 10 n) 0 = n := Nat.ofDigitChars_ten_toDigits
  rw [Nat.ofDigitChars_eq_foldl] at read
  have step : (fun (n : Nat) (c : Char) => n * 10 + (c.toNat - 48)) =
      fun n c => 10 * n + (c.toNat - '0'.toNat) := by
    funext n c
    rw [Nat.mul_comm]
    rfl
  rw [digitsValue, step]
  exact read

/-- More digits do not make a number smaller. -/
theorem le_foldl_digits (digits : List Char) (n : Nat) :
    n ≤ digits.foldl (fun n c => n * 10 + (c.toNat - 48)) n := by
  induction digits generalizing n with
  | nil => exact Nat.le_refl n
  | cons c digits ih => exact Nat.le_trans (by omega) (ih (n * 10 + (c.toNat - 48)))

/-- Zeros in front do not change a number. -/
theorem digitsValue_zeros (zeros : Nat) (digits : List Char) :
    digitsValue (List.replicate zeros '0' ++ digits) = digitsValue digits := by
  induction zeros with
  | zero => rfl
  | succ zeros ih => exact ih

/-- The digits behind an optional plus sign. -/
def unsignedDigits : List Char → List Char
  | '+' :: s => s
  | s => s

/-! ## 2. Reading within a limit -/

/-- Reads digits from the left, and stops as soon as the number passes the limit. -/
def digitsUpTo? (limit n : Nat) : List Char → Option Nat
  | [] => some n
  | c :: rest =>
    if c.isDigit then
      let next := n * 10 + (c.toNat - 48)
      if next ≤ limit then digitsUpTo? limit next rest else none
    else none

/-- Reads a whole number of at most `limit`. -/
def natUpTo? (limit : Nat) (s : List Char) : Option Nat :=
  match unsignedDigits s with
  | [] => none
  | digits => digitsUpTo? limit 0 digits

/-- The text is a numeral of the number: one or more digits that denote it, with a plus sign before
them if one likes. -/
def IsNumeral (s : List Char) (n : Nat) : Prop :=
  ∃ digits, (s = digits ∨ s = '+' :: digits) ∧ digits ≠ [] ∧ (∀ c ∈ digits, c.isDigit = true) ∧
    digitsValue digits = n

/-- Digits are read as the number that they denote, if it is within the limit. -/
theorem digitsUpTo?_eq_some_iff {limit n m : Nat} {s : List Char} (hn : n ≤ limit) :
    digitsUpTo? limit n s = some m ↔
      (∀ c ∈ s, c.isDigit = true) ∧ s.foldl (fun n c => n * 10 + (c.toNat - 48)) n = m ∧
        m ≤ limit := by
  induction s generalizing n with
  | nil =>
    rw [digitsUpTo?]
    constructor
    · rintro h
      cases h
      exact ⟨nofun, rfl, hn⟩
    · rintro ⟨-, rfl, -⟩
      rfl
  | cons c rest ih =>
    rw [digitsUpTo?, List.forall_mem_cons, List.foldl_cons]
    by_cases digit : c.isDigit = true
    · by_cases fits : n * 10 + (c.toNat - 48) ≤ limit
      · simp only [digit, fits, ih, if_true, true_and]
      · -- what follows does not bring the number back below the limit
        simp only [digit, fits, if_true, if_false, true_and]
        constructor
        · intro h
          cases h
        · rintro ⟨-, rfl, h⟩
          exact absurd (Nat.le_trans (le_foldl_digits rest _) h) fits
    · simp [digit]

/-- Digits have no sign before them. -/
theorem unsignedDigits_of_digits {digits : List Char} (h : ∀ c ∈ digits, c.isDigit = true) :
    unsignedDigits digits = digits := by
  rw [unsignedDigits]
  rintro rest rfl
  have digit : '+'.isDigit = true := h '+' List.mem_cons_self
  cases digit

/-- A numeral is read off what stands behind its sign. -/
theorem isNumeral_iff {s : List Char} {n : Nat} :
    IsNumeral s n ↔
      unsignedDigits s ≠ [] ∧ (∀ c ∈ unsignedDigits s, c.isDigit = true) ∧
        digitsValue (unsignedDigits s) = n := by
  constructor
  · rintro ⟨digits, rfl | rfl, numeral⟩
    · rw [unsignedDigits_of_digits numeral.2.1]
      exact numeral
    · exact numeral
  · intro numeral
    refine ⟨unsignedDigits s, ?_, numeral⟩
    unfold unsignedDigits
    split
    · exact .inr rfl
    · exact .inl rfl

/-- A text is a numeral of one number at most. -/
theorem IsNumeral.unique {s : List Char} {n m : Nat} (h : IsNumeral s n) (h' : IsNumeral s m) :
    n = m :=
  (isNumeral_iff.1 h).2.2.symm.trans (isNumeral_iff.1 h').2.2

/-- **A whole number is read exactly.**  A text is read as a number if it is a numeral of it and the
number is within the limit, however long the text is. -/
theorem natUpTo?_eq_some_iff {limit n : Nat} {s : List Char} :
    natUpTo? limit s = some n ↔ IsNumeral s n ∧ n ≤ limit := by
  rw [isNumeral_iff, natUpTo?]
  split
  · next none => simp [none]
  · next some =>
    rw [digitsUpTo?_eq_some_iff (Nat.zero_le limit), and_assoc, and_assoc]
    exact (and_iff_right some).symm

/-! ## 3. Numbers with a sign -/

/-- What is wrong with a text that is no whole number. -/
inductive WholeFault where
  | empty
  | noDigit
  | tooLarge
  | tooSmall
  deriving DecidableEq, Repr

def WholeFault.message : WholeFault → String
  | .empty => "cannot parse integer from empty string"
  | .noDigit => "invalid digit found in string"
  | .tooLarge => "number too large to fit in target type"
  | .tooSmall => "number too small to fit in target type"

/-- Reads digits from the left up to a limit, and says why it stops. -/
def digitsWithin (limit : Nat) (isOver : WholeFault) (n : Nat) :
    List Char → Except WholeFault Nat
  | [] => .ok n
  | c :: rest =>
    if !c.isDigit then .error .noDigit
    else
      let next := n * 10 + (c.toNat - 48)
      if limit < next then .error isOver else digitsWithin limit isOver next rest

/-- Reads a whole number of 64 bits. -/
def int64 : List Char → Except WholeFault Int
  | [] => .error .empty
  | ['+'] => .error .noDigit
  | ['-'] => .error .noDigit
  | '+' :: s => (digitsWithin (Nat.pow 2 63 - 1) .tooLarge 0 s).map Int.ofNat
  | '-' :: s => (digitsWithin (Nat.pow 2 63) .tooSmall 0 s).map fun n => -(n : Int)
  | s => (digitsWithin (Nat.pow 2 63 - 1) .tooLarge 0 s).map Int.ofNat

end Text
end Playtest
