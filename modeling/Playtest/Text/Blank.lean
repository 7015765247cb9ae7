/-
# Blank characters and trimming

A script line is read without the blanks around it, and a blank is any character with the
Unicode property White_Space: the space and the ASCII controls 9 to 13, but also the
no-break space, the line and paragraph separators and the spaces of general punctuation.
The zero-width characters are not blank.

This file holds that set, the three trimming functions on character lists, and the small
facts about them that every reader of trimmed text needs.
-/

namespace Playtest
namespace Text

/-! ## 1. The set -/

/-- A character with the Unicode property White_Space. -/
def isBlank (c : Char) : Bool :=
  let n := c.toNat
  (9 ≤ n && n ≤ 13) || n == 0x20 || n == 0x85 || n == 0xA0 || n == 0x1680 ||
    (0x2000 ≤ n && n ≤ 0x200A) || n == 0x2028 || n == 0x2029 || n == 0x202F ||
    n == 0x205F || n == 0x3000

example : isBlank ' ' = true ∧ isBlank '\t' = true ∧ isBlank '\u0085' = true := by decide
example : isBlank '\u200b' = false ∧ isBlank '\ufeff' = false := by decide

/-! ## 2. Trimming -/

/-- The text without the blanks it starts with. -/
def trimStart (s : List Char) : List Char := s.dropWhile isBlank

/-- The text without the blanks it ends with. -/
def trimEnd (s : List Char) : List Char := (s.reverse.dropWhile isBlank).reverse

/-- The text without the blanks around it. -/
def trim (s : List Char) : List Char := trimEnd (trimStart s)

/-- A text is trimmed when it neither starts nor ends with a blank. -/
def IsTrimmed (s : List Char) : Prop :=
  (∀ c, s.head? = some c → isBlank c = false) ∧ (∀ c, s.getLast? = some c → isBlank c = false)

end Text
end Playtest
