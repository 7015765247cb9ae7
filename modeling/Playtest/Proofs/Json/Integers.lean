/-
# Whole numbers in JSON texts

A whole number is written with its digits and with a sign if it is negative.  Read again it is
the same number or no whole number at all (`lexemes_integer`): within 64 bits it is kept exactly,
and beyond them it is read as a binary64.  It is never wrapped.
-/
import Playtest.Proofs.Json.Cutting
import Playtest.Text.Number

namespace Playtest
namespace Json

/-! ## 1. The text of a whole number -/

theorem isDigit_of_mem_toDigits {n : Nat} {c : Char} (h : c ∈ Nat.toDigits 10 n) :
    c.isDigit = true :=
  Nat.isDigit_of_mem_toDigits (by decide) (by decide) h

/-- The digits of a number do not begin with a zero, unless there is no other. -/
theorem isWhole_toDigits (n : Nat) : IsWhole (Nat.toDigits 10 n) := by
  refine ⟨⟨Nat.toDigits_ne_nil, fun c hc => isDigit_of_mem_toDigits hc⟩, ?_⟩
  induction n using Nat.strongRecOn with
  | _ n ih =>
    by_cases small : n < 10
    · rw [Nat.toDigits_of_lt_base small]
      intro zero
      rw [Option.some.inj zero]
    · have large : 10 ≤ n := Nat.not_lt.1 small
      obtain ⟨c, more, first⟩ :=
        List.exists_cons_of_ne_nil (Nat.toDigits_ne_nil (n := n / 10) (b := 10))
      rw [Nat.toDigits_of_base_le (by decide) large, first]
      intro zero
      have front : Nat.toDigits 10 (n / 10) = ['0'] :=
        ih (n / 10) (by omega) (by rw [first, ← zero]; rfl)
      have none : n / 10 = 0 := by
        rw [← Text.digitsValue_toDigits (n / 10), front]
        rfl
      omega

/-- A whole number is written with its digits, and with a sign before them if it is negative. -/
theorem toList_toString (i : Int) :
    (toString i).toList = (if i < 0 then ['-'] else []) ++ Nat.toDigits 10 i.natAbs := by
  rw [Int.toString_eq_repr, Int.repr_eq_if]
  by_cases negative : i < 0
  · have magnitude : (-i).toNat = i.natAbs := by omega
    simp [negative, Int.not_le.2 negative, magnitude]
  · have magnitude : i.toNat = i.natAbs := by omega
    simp [negative, Int.not_lt.1 negative, magnitude]

/-- The text of a whole number is grammatical. -/
theorem isNumber_integer (i : Int) : IsNumber (toString i).toList := by
  refine ⟨if i < 0 then ['-'] else [], Nat.toDigits 10 i.natAbs, [], [], ?_, isWhole_toDigits _,
    .inl rfl, .inl rfl, ?_⟩
  · split <;> simp
  · rw [toList_toString, List.append_nil, List.append_nil]

/-! ## 2. Its digits -/

/-- Digits that fit are all taken. -/
theorem takeDigits_of_le {digits : List Char} {n : Nat}
    (h : digits.foldl (fun n c => n * 10 + (c.toNat - 48)) n ≤ maxWord) :
    takeDigits n digits = (digits.foldl (fun n c => n * 10 + (c.toNat - 48)) n, []) := by
  induction digits generalizing n with
  | nil => rfl
  | cons c digits ih =>
    have fits : n * 10 + (c.toNat - 48) ≤ maxWord := Nat.le_trans (Text.le_foldl_digits digits _) h
    rw [takeDigits, if_pos fits]
    exact ih h

/-- If all digits are taken, the number is theirs. -/
theorem of_takeDigits {digits : List Char} {n significand : Nat}
    (h : takeDigits n digits = (significand, [])) :
    significand = digits.foldl (fun n c => n * 10 + (c.toNat - 48)) n := by
  induction digits generalizing n with
  | nil =>
    cases h
    rfl
  | cons c digits ih =>
    rw [takeDigits] at h
    split at h
    · exact ih h
    · cases h

/-! ## 3. Its value -/

/-- A number of more digits than fit is worth no whole number. -/
theorem value_of_excess {n : NumberText} {significand left : Nat} {excess : List Char}
    (taken : takeDigits 0 n.whole = (significand, excess)) (h : excess ≠ []) (j : Int) :
    n.value left ≠ .ok (.integer j) := by
  intro value
  rw [NumberText.value, taken] at value
  simp only [h, false_and, if_false] at value
  -- whatever its fraction and exponent are: a binary64, or out of range
  repeat' split at value
  all_goals cases value

/-- Digits alone are worth the whole number that they denote, or no whole number. -/
theorem value_digits {negative : Bool} {digits : List Char} {left : Nat} {j : Int}
    (h : NumberText.value ⟨negative, digits, none, none⟩ left = .ok (.integer j)) :
    j = if negative then -(Text.digitsValue digits : Int) else Text.digitsValue digits := by
  rcases taken : takeDigits 0 digits with ⟨significand, excess⟩
  by_cases all : excess = []
  · subst all
    have value : significand = Text.digitsValue digits := of_takeDigits taken
    rw [NumberText.value, taken, value] at h
    simp only [Option.isNone_none, and_self, if_true] at h
    cases negative with
    | false =>
      cases h
      rfl
    | true =>
      simp only [Bool.not_true, Bool.false_eq_true, if_false] at h
      split at h
      · cases h
      · cases h
        rfl
  · exact absurd h (value_of_excess taken all j)

/-- Digits that fit are worth the whole number that they denote. -/
theorem value_digits_of_fits {negative : Bool} {digits : List Char} (left : Nat)
    (fits : Text.digitsValue digits ≤ maxWord)
    (h : negative = true → 0 < Text.digitsValue digits ∧ Text.digitsValue digits ≤ Nat.pow 2 63) :
    NumberText.value ⟨negative, digits, none, none⟩ left =
      .ok (.integer (if negative then -(Text.digitsValue digits : Int)
        else Text.digitsValue digits)) := by
  have taken : takeDigits 0 digits = (Text.digitsValue digits, []) := takeDigits_of_le fits
  rw [NumberText.value, taken]
  simp only [Option.isNone_none, and_self, if_true]
  cases negative with
  | false => rfl
  | true =>
    obtain ⟨positive, small⟩ := h rfl
    have kept : ¬(Text.digitsValue digits = 0 ∨ Nat.pow 2 63 < Text.digitsValue digits) := by
      omega
    simp only [Bool.not_true, Bool.false_eq_true, if_false, if_true, if_neg kept]

/-- The whole numbers that are kept exactly. -/
def IsWord (i : Int) : Prop := -(Nat.pow 2 63 : Int) ≤ i ∧ i ≤ maxWord

/-- **A whole number is read as itself or as no whole number**, and as itself if it has no more
than 64 bits. -/
theorem lexemes_integer (i : Int) {rest : List Char} (hr : Ends rest) :
    ∃ value, lexemes ((toString i).toList ++ rest) =
        ⟨.number value, (toString i).toList ++ rest, rest⟩ :: lexemes rest ∧
      (∀ j, value = .ok (.integer j) → j = i) ∧ (IsWord i → value = .ok (.integer i)) := by
  have text := toList_toString i
  have behind : readNumberText ((toString i).toList ++ rest) =
      .ok (⟨decide (i < 0), Nat.toDigits 10 i.natAbs, none, none⟩, rest) := by
    have signed : (if i < 0 then ['-'] else ([] : List Char)) ∈ [[], ['-']] := by split <;> simp
    obtain ⟨fraction?, exponent?, noFraction, noExponent, read⟩ :=
      readNumberText_number signed (isWhole_toDigits i.natAbs) (.inl rfl) (.inl rfl) hr
    rw [text, List.append_assoc]
    refine read.trans ?_
    rw [noFraction rfl, noExponent rfl]
    by_cases negative : i < 0 <;> simp [negative]
  have first : ∃ c more, (toString i).toList ++ rest = c :: more ∧
      (c = '-' ∨ c.isDigit = true) := by
    obtain ⟨c, more, digits⟩ :=
      List.exists_cons_of_ne_nil (Nat.toDigits_ne_nil (n := i.natAbs) (b := 10))
    have digit : c.isDigit = true :=
      isDigit_of_mem_toDigits (n := i.natAbs) (by rw [digits]; exact List.mem_cons_self)
    rw [text, digits]
    split
    · exact ⟨_, _, rfl, .inl rfl⟩
    · exact ⟨_, _, rfl, .inr digit⟩
  obtain ⟨c, more, start, first⟩ := first
  have magnitude : (if decide (i < 0) = true then
      -(Text.digitsValue (Nat.toDigits 10 i.natAbs) : Int)
      else Text.digitsValue (Nat.toDigits 10 i.natAbs)) = i := by
    rw [Text.digitsValue_toDigits]
    split
    · next negative =>
      have := of_decide_eq_true negative
      omega
    · next positive =>
      have := of_decide_eq_false (Bool.eq_false_iff.2 positive)
      omega
  refine ⟨_, lexemes_numberText start first behind, ?_, ?_⟩
  · intro j value
    rw [value_digits value, magnitude]
  · intro word
    have small : Text.digitsValue (Nat.toDigits 10 i.natAbs) ≤ maxWord ∧
        (decide (i < 0) = true → 0 < Text.digitsValue (Nat.toDigits 10 i.natAbs) ∧
          Text.digitsValue (Nat.toDigits 10 i.natAbs) ≤ Nat.pow 2 63) := by
      rw [Text.digitsValue_toDigits, decide_eq_true_eq]
      obtain ⟨lower, upper⟩ := word
      have sizes : Nat.pow 2 63 ≤ maxWord := by decide
      omega
    rw [value_digits_of_fits _ small.1 small.2, magnitude]

end Json
end Playtest
