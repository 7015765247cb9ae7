/-
# Waits of accepted settings

The length of a wait is given as a floating-point number of seconds, and what a clock measures is a
whole number of nanoseconds.  Settings are accepted on the first and waited by the second, so what
holds of the one has to be carried over to the other.

`Binary64.value?` is the exact number of seconds and `IsNearest` is what rounding means.  An
accepted number of seconds is positive and below the limit of the clock, and the wait is it to the
nearest nanosecond (`accepted_waits`).  The wait itself is positive only if more than half a
nanosecond was asked for: below that it rounds to nothing (`accepted_wait_of_nothing`).
-/
import Mathlib.Algebra.Order.Field.Power
import Mathlib.Algebra.Order.Ring.Rat
import Mathlib.Tactic.FieldSimp
import Mathlib.Tactic.Linarith
import Mathlib.Tactic.Positivity
import Mathlib.Tactic.Ring
import Playtest.Settings.Basic

namespace Playtest

/-! ## 1. Exact values -/

namespace Binary64

/-- The number itself, if it is finite. -/
def value? : Binary64 → Option ℚ
  | .finite negative m e => some ((if negative then -1 else 1) * (m * 2 ^ e))
  | _ => none

theorem ratio_den_pos (m : Nat) (e : Int) : 0 < (ratio m e).2 := by
  unfold ratio
  split
  · exact Nat.one_pos
  · exact Nat.pow_pos Nat.two_pos

/-- The quotient is the size of the number. -/
theorem ratio_eq (m : Nat) (e : Int) : ((ratio m e).1 : ℚ) / (ratio m e).2 = m * 2 ^ e := by
  unfold ratio
  split
  · next whole =>
    obtain ⟨k, rfl⟩ := Int.eq_ofNat_of_zero_le whole
    simp
  · next part =>
    obtain ⟨k, rfl⟩ : ∃ k : Nat, e = -k := ⟨(-e).toNat, by omega⟩
    simp [div_eq_mul_inv]

theorem size_nonneg (m : Nat) (e : Int) : (0 : ℚ) ≤ m * 2 ^ e := by positivity

theorem size_pos {m : Nat} (ne : m ≠ 0) (e : Int) : (0 : ℚ) < m * 2 ^ e := by positivity

theorem value?_of_negative {negative : Bool} {m : Nat} (h : negative = true ∧ m ≠ 0) (e : Int) :
    ∃ seconds, (finite negative m e).value? = some seconds ∧ seconds < 0 := by
  refine ⟨_, rfl, ?_⟩
  rw [if_pos h.1, neg_one_mul, neg_lt_zero]
  exact size_pos h.2 e

/-- Without a sign a number is its size, and so is zero with a sign. -/
theorem value?_of_not_negative {negative : Bool} {m : Nat} (h : ¬(negative = true ∧ m ≠ 0))
    (e : Int) : (finite negative m e).value? = some ((m : ℚ) * 2 ^ e) := by
  cases negative with
  | true =>
    have zero : m = 0 := by simpa using h
    simp [value?, zero]
  | false => simp [value?]

theorem isAtMostZero_eq_false_iff {x : Binary64} {seconds : ℚ} (h : x.value? = some seconds) :
    x.isAtMostZero = false ↔ 0 < seconds := by
  cases x with
  | nan => cases h
  | infinity negative => cases h
  | finite negative m e =>
    by_cases neg : negative = true ∧ m ≠ 0
    · obtain ⟨_, same, below⟩ := value?_of_negative neg e
      obtain rfl := Option.some.inj (h.symm.trans same)
      simp [isAtMostZero, neg.1, below.le]
    · obtain rfl := Option.some.inj (h.symm.trans (value?_of_not_negative neg e))
      rcases Nat.eq_zero_or_pos m with rfl | pos
      · simp [isAtMostZero]
      · have plain : negative = false := by simpa [pos.ne'] using neg
        simp [isAtMostZero, plain, pos.ne', size_pos pos.ne' e]

end Binary64

/-! ## 2. Rounding -/

/-- The whole number is the one nearest to `x`, and the even one of two as near. -/
def IsNearest (x : ℚ) (n : Nat) : Prop :=
  |x - n| ≤ 1 / 2 ∧ (|x - n| = 1 / 2 → n % 2 = 0)

/-- A quotient halfway between two whole numbers is rounded to the even one. -/
theorem roundHalfEven_tie (num : Nat) {den : Nat} (pos : 0 < den)
    (tie : 2 * num = (2 * roundHalfEven num den + 1) * den ∨
      2 * num + den = 2 * (roundHalfEven num den * den)) : roundHalfEven num den % 2 = 0 := by
  have split_num := Nat.div_add_mod num den
  have small := Nat.mod_lt num pos
  rw [Nat.mul_comm] at split_num
  revert tie
  dsimp only [roundHalfEven]
  split
  · intro tie
    rw [Nat.add_mul, Nat.mul_assoc] at tie
    omega
  · split
    · intro tie
      rw [Nat.add_mul, Nat.mul_assoc, Nat.add_mul] at tie
      omega
    · split
      · next even =>
        intro _
        exact even
      · intro _
        omega

/-- What is rounded half to even is rounded to the nearest. -/
theorem roundHalfEven_isNearest (num : Nat) {den : Nat} (pos : 0 < den) :
    IsNearest (num / den) (roundHalfEven num den) := by
  obtain ⟨upper, lower⟩ := roundHalfEven_near num pos
  have even := roundHalfEven_tie num pos
  generalize roundHalfEven num den = n at upper lower even
  have pos' : (0 : ℚ) < den := by exact_mod_cast pos
  have whole : (num : ℚ) = num / den * den := by field_simp
  generalize (num : ℚ) / den = x at whole
  have upper' : 2 * (x * den) ≤ (2 * n + 1) * den := by
    rw [← whole]
    exact_mod_cast upper
  have lower' : 2 * (n * den) ≤ 2 * (x * den) + den := by
    rw [← whole]
    exact_mod_cast lower
  constructor
  · rw [abs_le]
    constructor
    · nlinarith
    · nlinarith
  · intro tie
    apply even
    rcases eq_or_eq_neg_of_abs_eq tie with above | below
    · left
      have : (2 * num : ℚ) = (2 * n + 1) * den := by
        rw [whole, show x = n + 1 / 2 by linarith]
        ring
      exact_mod_cast this
    · right
      have : (2 * num + den : ℚ) = 2 * (n * den) := by
        rw [whole, show x = n - 1 / 2 by linarith]
        ring
      exact_mod_cast this

namespace IsNearest

variable {x : ℚ} {n n' : Nat}

theorem le_of_isNearest (h : IsNearest x n) (h' : IsNearest x n') : n ≤ n' := by
  by_contra lt
  have succ : (n' : ℚ) + 1 ≤ n := by exact_mod_cast Nat.not_le.1 lt
  have above := abs_le.1 h.1
  have below := abs_le.1 h'.1
  -- both are half a unit away, so both are even, and they are neighbours
  have mid : x - n = -(1 / 2) := by linarith
  have mid' : x - n' = 1 / 2 := by linarith
  have next : n = n' + 1 := by
    have : (n : ℚ) = n' + 1 := by linarith
    exact_mod_cast this
  have even := h.2 (by rw [mid, abs_neg, abs_of_pos one_half_pos])
  have even' := h'.2 (by rw [mid', abs_of_pos one_half_pos])
  omega

theorem unique (h : IsNearest x n) (h' : IsNearest x n') : n = n' :=
  Nat.le_antisymm (h.le_of_isNearest h') (h'.le_of_isNearest h)

/-- No more than half a unit rounds to nothing, and nothing else does. -/
theorem pos_iff (h : IsNearest x n) : 0 < n ↔ 1 / 2 < x := by
  have range := abs_le.1 h.1
  constructor
  · intro pos
    by_contra few
    have one : (1 : ℚ) ≤ n := by exact_mod_cast pos
    have mid : x - n = -(1 / 2) := by linarith
    have even := h.2 (by rw [mid, abs_neg, abs_of_pos one_half_pos])
    have single : n = 1 := by
      have : (n : ℚ) ≤ 1 := by linarith
      exact Nat.le_antisymm (by exact_mod_cast this) pos
    rw [single] at even
    cases even
  · intro many
    have : (0 : ℚ) < n := by linarith
    exact_mod_cast this

end IsNearest

/-! ## 3. Lengths of time -/

namespace Duration

variable {negative : Bool} {m : Nat} {d : Duration}

theorem ofSeconds?_of_negative (h : negative = true ∧ m ≠ 0) (e : Int) :
    ofSeconds? (.finite negative m e) = none :=
  if_pos (.inl h)

theorem ofSeconds?_of_not_negative (h : ¬(negative = true ∧ m ≠ 0)) (e : Int) :
    ofSeconds? (.finite negative m e) = some d ↔
      m * 2 ^ e < (2 : ℚ) ^ 64 ∧ IsNearest (m * 2 ^ e * 10 ^ 9) d.nanos := by
  have den := Binary64.ratio_den_pos m e
  have den' : (0 : ℚ) < (Binary64.ratio m e).2 := by exact_mod_cast den
  have size := Binary64.ratio_eq m e
  have limit : m * 2 ^ e < (2 : ℚ) ^ 64 ↔
      ¬Nat.pow 2 64 * (Binary64.ratio m e).2 ≤ (Binary64.ratio m e).1 := by
    rw [← size, div_lt_iff₀ den', not_le]
    exact_mod_cast Iff.rfl
  have nanos : (((Binary64.ratio m e).1 * 1000000000 : Nat) : ℚ) / (Binary64.ratio m e).2 =
      m * 2 ^ e * 10 ^ 9 := by
    rw [← size]
    push_cast
    ring
  have nearest := roundHalfEven_isNearest ((Binary64.ratio m e).1 * 1000000000) den
  rw [nanos] at nearest
  simp only [ofSeconds?, h, false_or, limit]
  constructor
  · intro read
    split at read
    · cases read
    · next below =>
      cases read
      exact ⟨below, nearest⟩
  · rintro ⟨below, near⟩
    rw [if_neg below, nearest.unique near]

/-- A number of seconds that is not negative and below the limit is a length of time, and its
nanoseconds are the nearest. -/
theorem ofSeconds?_eq_some_iff {x : Binary64} :
    ofSeconds? x = some d ↔
      ∃ seconds, x.value? = some seconds ∧ 0 ≤ seconds ∧ seconds < 2 ^ 64 ∧
        IsNearest (seconds * 10 ^ 9) d.nanos := by
  cases x with
  | nan => simp [ofSeconds?, Binary64.value?]
  | infinity negative => simp [ofSeconds?, Binary64.value?]
  | finite negative m e =>
    by_cases neg : negative = true ∧ m ≠ 0
    · obtain ⟨seconds, value, below⟩ := Binary64.value?_of_negative neg e
      rw [ofSeconds?_of_negative neg, value]
      constructor
      · intro read
        cases read
      · rintro ⟨_, same, nonneg, -⟩
        obtain rfl := Option.some.inj same
        exact absurd below (not_lt.2 nonneg)
    · rw [ofSeconds?_of_not_negative neg, Binary64.value?_of_not_negative neg]
      constructor
      · rintro ⟨below, nearest⟩
        exact ⟨_, rfl, Binary64.size_nonneg m e, below, nearest⟩
      · rintro ⟨_, same, -, below, nearest⟩
        obtain rfl := Option.some.inj same
        exact ⟨below, nearest⟩

end Duration

namespace Settings

theorem wait?_eq_some_iff {settings : Settings} {d : Duration} :
    settings.wait? = some d ↔
      ∃ seconds, settings.timeout.value? = some seconds ∧ 0 < seconds ∧ seconds < 2 ^ 64 ∧
        IsNearest (seconds * 10 ^ 9) d.nanos := by
  constructor
  · intro h
    rw [wait?] at h
    split at h
    · cases h
    · next positive =>
      obtain ⟨seconds, value, -, below, nearest⟩ := Duration.ofSeconds?_eq_some_iff.1 h
      rw [Bool.not_eq_true, Binary64.isAtMostZero_eq_false_iff value] at positive
      exact ⟨seconds, value, positive, below, nearest⟩
  · rintro ⟨seconds, value, above, below, nearest⟩
    rw [wait?, (Binary64.isAtMostZero_eq_false_iff value).2 above]
    exact Duration.ofSeconds?_eq_some_iff.2 ⟨seconds, value, above.le, below, nearest⟩

/-- What is accepted as a wait is waited. -/
theorem wait_of_wait? {settings : Settings} {d : Duration} (h : settings.wait? = some d) :
    Duration.ofSeconds? settings.timeout = some d ∧ settings.wait = d := by
  rw [wait?] at h
  split at h
  · cases h
  · exact ⟨h, by rw [wait, h, Option.getD_some]⟩

/-- **An accepted wait is the one that was asked for.**  Its number of seconds is positive and below
the limit of the clock, the wait is not the one for settings that name none, and it is the number of
seconds to the nearest nanosecond.  It is no wait at all if half a nanosecond or less was asked
for. -/
theorem accepted_waits {settings : Settings} (accepted : settings.fault? = none) :
    ∃ seconds, settings.timeout.value? = some seconds ∧ 0 < seconds ∧ seconds < 2 ^ 64 ∧
      Duration.ofSeconds? settings.timeout = some settings.wait ∧
      IsNearest (seconds * 10 ^ 9) settings.wait.nanos ∧
      (0 < settings.wait.nanos ↔ 1 / 2 < seconds * 10 ^ 9) := by
  rcases h : settings.wait? with _ | d
  · simp [fault?, h] at accepted
  · obtain ⟨seconds, value, above, below, nearest⟩ := wait?_eq_some_iff.1 h
    obtain ⟨read, rfl⟩ := wait_of_wait? h
    exact ⟨seconds, value, above, below, read, nearest, nearest.pos_iff⟩

/-- Two and a half seconds are accepted, and are waited. -/
theorem accepted_waits_of_two_and_a_half :
    let settings : Settings := { timeout := Binary64.ofDecimal false 25 (-1) }
    settings.fault? = none ∧ settings.wait = ⟨2500000000⟩ ∧
      ∃ seconds, settings.timeout.value? = some seconds ∧ 0 < seconds ∧ seconds < 2 ^ 64 ∧
        Duration.ofSeconds? settings.timeout = some settings.wait ∧
        IsNearest (seconds * 10 ^ 9) settings.wait.nanos ∧
        (0 < settings.wait.nanos ↔ 1 / 2 < seconds * 10 ^ 9) :=
  ⟨by decide +kernel, by decide +kernel, accepted_waits (by decide +kernel)⟩

/-- **A tenth of a nanosecond is a positive number of seconds, and is accepted, but nothing is
waited.** -/
theorem accepted_wait_of_nothing :
    fault? { timeout := Binary64.ofDecimal false 1 (-10) } = none ∧
      wait { timeout := Binary64.ofDecimal false 1 (-10) } = ⟨0⟩ := by
  decide +kernel

end Settings
end Playtest
