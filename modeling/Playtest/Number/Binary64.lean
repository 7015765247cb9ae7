/-
# Binary floating point as data

A timeout is written as a decimal number of seconds and kept as a binary64 number.  Every
question asked of it (is it positive, how many nanoseconds is it, how is it printed) has an
exact answer in whole numbers, so the number is kept as a mantissa and an exponent and no
machine arithmetic is used.

A finite number is `± mantissa · 2 ^ exponent`.  `ofRatio` rounds an exact quotient to the
nearest binary64 number, a tie going to the even mantissa, and gives the one normal form: the
mantissa has 53 bits, or the exponent is the least one.
-/

namespace Playtest

/-- A binary64 number. -/
inductive Binary64 where
  | nan
  | infinity (negative : Bool)
  /-- `± mantissa · 2 ^ exponent` -/
  | finite (negative : Bool) (mantissa : Nat) (exponent : Int)
  deriving DecidableEq, Repr

/-! ## 1. Rounded quotients -/

/-- The whole number nearest to `num / den`; of two as near, the even one. -/
def roundHalfEven (num den : Nat) : Nat :=
  let q := num / den
  let r := num % den
  if 2 * r < den then q
  else if den < 2 * r then q + 1
  else if q % 2 = 0 then q else q + 1

/-- The rounded quotient is at most half a unit away from the exact one. -/
theorem roundHalfEven_near (num : Nat) {den : Nat} (h : 0 < den) :
    2 * num ≤ (2 * roundHalfEven num den + 1) * den ∧
      2 * (roundHalfEven num den * den) ≤ 2 * num + den := by
  have hm := Nat.div_add_mod num den
  have hr := Nat.mod_lt num h
  rw [Nat.mul_comm] at hm
  dsimp only [roundHalfEven]
  split
  · rw [Nat.add_mul, Nat.mul_assoc]; omega
  · split
    · rw [Nat.add_mul, Nat.mul_assoc, Nat.add_mul]; omega
    · split
      · rw [Nat.add_mul, Nat.mul_assoc]; omega
      · rw [Nat.add_mul, Nat.mul_assoc, Nat.add_mul]; omega

namespace Binary64

/-- The least exponent. -/
def minExponent : Int := -1074

/-- The greatest exponent of a finite number. -/
def maxExponent : Int := 971

/-- Zero, with its sign. -/
def zero (negative : Bool) : Binary64 := .finite negative 0 minExponent

/-- `num / (den · 2 ^ e)` as a quotient of whole numbers. -/
def scaled (num den : Nat) (e : Int) : Nat × Nat :=
  if 0 ≤ e then (num, den * Nat.pow 2 e.toNat) else (num * Nat.pow 2 (-e).toNat, den)

/-- The binary64 number nearest to `± num / den`. -/
def ofRatio (negative : Bool) (num den : Nat) : Binary64 :=
  if num = 0 then zero negative
  else
    -- `num / den` lies between `2 ^ (e + 51)` and `2 ^ (e + 53)`
    let e : Int := (Nat.log2 num : Int) - Nat.log2 den - 52
    let (n, d) := scaled num den e
    let e := max minExponent (if n < d * Nat.pow 2 52 then e - 1 else e)
    let (n, d) := scaled num den e
    let m := roundHalfEven n d
    let (m, e) := if m = Nat.pow 2 53 then (Nat.pow 2 52, e + 1) else (m, e)
    if maxExponent < e then .infinity negative else .finite negative m e

/-- The binary64 number nearest to `± digits · 10 ^ e`. -/
def ofDecimal (negative : Bool) (digits : Nat) (e : Int) : Binary64 :=
  if digits = 0 then zero negative
  else if 400 < e then .infinity negative
  else if e < -(400 + Nat.log2 digits) then zero negative
  else if 0 ≤ e then ofRatio negative (digits * Nat.pow 10 e.toNat) 1
  else ofRatio negative digits (Nat.pow 10 (-e).toNat)

/-! ## 2. Exact values -/

/-- The size of a finite number as a quotient of whole numbers. -/
def ratio (mantissa : Nat) (exponent : Int) : Nat × Nat :=
  if 0 ≤ exponent then (mantissa * Nat.pow 2 exponent.toNat, 1)
  else (mantissa, Nat.pow 2 (-exponent).toNat)

/-- The number is zero or less.  Not a number is neither this nor more. -/
def isAtMostZero : Binary64 → Bool
  | .nan => false
  | .infinity negative => negative
  | .finite negative m _ => negative || m == 0

/-- The rounded product of two finite numbers. -/
def mul : Binary64 → Binary64 → Binary64
  | .finite s m e, .finite s' m' e' =>
    let (n, d) := ratio m e
    let (n', d') := ratio m' e'
    ofRatio (s != s') (n * n') (d * d')
  | _, _ => .nan

/-- The rounded quotient of two finite numbers, the second not zero. -/
def div : Binary64 → Binary64 → Binary64
  | .finite s m e, .finite s' m' e' =>
    let (n, d) := ratio m e
    let (n', d') := ratio m' e'
    ofRatio (s != s') (n * d') (d * n')
  | _, _ => .nan

/-- The rounded sum of a finite number and a whole one, both at least zero. -/
def addNat : Binary64 → Nat → Binary64
  | .finite s m e, k => let (n, d) := ratio m e; ofRatio s (n + k * d) d
  | x, _ => x

/-- The same number with the other sign. -/
def neg : Binary64 → Binary64
  | .nan => .nan
  | .infinity s => .infinity !s
  | .finite s m e => .finite (!s) m e

end Binary64
end Playtest
