/-
# How often a condition is looked at

A condition that can be looked at in no time is looked at once in every period: the `n`-th look
is made at `n` periods, counted from zero, as long as that is not behind the end of the wait.  A
look that is due exactly at the end is still made, and so is the one at time zero, whatever the
wait allows.

So the wait ends with the first look that shows that the condition holds, and has made all looks
up to that one; or it ends when its time is up, and has made all looks that fit
(`polling_is_exact`).  Both follow from what happens from a given look on (`watch_holds`,
`watch_lapses`), by induction on the looks that are still to be made.
-/
import Playtest.Run.Poll

namespace Playtest
namespace WaitConfig

/-! ## 1. Periods of whole milliseconds -/

/-- A wait of whole milliseconds with a period of whole milliseconds. -/
def ofMillis (limit period : Nat) : WaitConfig := ⟨.ofMillis limit, .ofMillis period⟩

/-- The milliseconds between two looks. -/
def gap (period : Nat) : Nat := max period 1

theorem gap_pos (period : Nat) : 0 < gap period := Nat.le_max_right period 1

@[simp] theorem ticks_ofMillis (limit period : Nat) :
    (ofMillis limit period).timeout.ticks = limit :=
  Duration.ticks_ofMillis limit

theorem step_ofMillis (limit period : Nat) :
    (ofMillis limit period).step = gap period * 1000000 := by
  simp only [step, ofMillis, Duration.ofMillis, gap]
  omega

/-- A timer set to whole milliseconds goes off then. -/
@[simp] theorem timer_millis (n : Nat) : timer (n * 1000000) = n := by
  unfold timer
  omega

/-- Behind a look that was made when it was due, the next one is due a period later. -/
theorem dueAfter_onTime (limit period n : Nat) :
    (ofMillis limit period).dueAfter (n * gap period * 1000000) (n * gap period) =
      (n + 1) * gap period * 1000000 := by
  rw [dueAfter, if_neg (by omega), step_ofMillis, ← Nat.add_mul, Nat.succ_mul]

/-! ## 2. From one look on -/

/-- A condition that is looked at in no time.  The looks are counted, and `results` says what
each of them shows. -/
def inTurn (results : Nat → Except BrowserError Bool) (n : Nat) : Try × Nat :=
  (⟨results n, 0⟩, n + 1)

variable {results : Nat → Except BrowserError Bool} {limit period : Nat}

theorem look_holds_iff (t : Try) : t.look.holds = true ↔ t.result = .ok true := by
  rcases t with ⟨e | b, takes⟩
  · exact ⟨fun h => (nomatch h), fun h => (nomatch h)⟩
  · exact ⟨fun h => congrArg Except.ok h, fun h => Except.ok.inj h⟩

/-- The looks at a condition that is looked at in turn. -/
def looksOf (results : Nat → Except BrowserError Bool) (n : Nat) : Look × Nat :=
  ((inTurn results n).1.look, (inTurn results n).2)

/-- The wait from the `n`-th look on, which is due at `n` periods. -/
def watchFrom (results : Nat → Except BrowserError Bool) (limit period most n now : Nat) :
    Outcome Nat :=
  watch (ofMillis limit period) (looksOf results) most (n * gap period * 1000000) now n

/-- Behind the end of the wait no look is made. -/
theorem watchFrom_late {most n now : Nat} (onTime : now ≤ n * gap period)
    (late : limit < n * gap period) :
    watchFrom results limit period most n now = ⟨false, [], limit, n⟩ := by
  cases most with
  | zero => rw [watchFrom, watch, ticks_ofMillis]
  | succ most =>
    simp only [watchFrom, watch, ticks_ofMillis, timer_millis, Nat.max_eq_right onTime, if_pos late]

/-- A look at a condition that holds ends the wait. -/
theorem watchFrom_of_holds {most n now : Nat} (onTime : now ≤ n * gap period)
    (fits : n * gap period ≤ limit) (holds : results n = .ok true) :
    watchFrom results limit period (most + 1) n now =
      ⟨true, [n * gap period], n * gap period, n + 1⟩ := by
  have shown : (looksOf results n).1.holds = true := (look_holds_iff _).2 holds
  have takes : (looksOf results n).1.takes = 0 := rfl
  simp only [watchFrom, watch, ticks_ofMillis, timer_millis, Nat.max_eq_right onTime, shown, takes,
    Nat.add_zero, if_neg (Nat.not_lt.2 fits), if_true]
  rfl

/-- Behind any other look the wait goes on with the next one. -/
theorem watchFrom_of_not_holds {most n now : Nat} (onTime : now ≤ n * gap period)
    (fits : n * gap period ≤ limit) (shows : results n ≠ .ok true) :
    watchFrom results limit period (most + 1) n now =
      let rest := watchFrom results limit period most (n + 1) (n * gap period)
      { rest with looks := n * gap period :: rest.looks } := by
  have shown : ¬(looksOf results n).1.holds = true := fun h => shows ((look_holds_iff _).1 h)
  have takes : (looksOf results n).1.takes = 0 := rfl
  simp only [watchFrom, watch, ticks_ofMillis, timer_millis, Nat.max_eq_right onTime, shown, takes,
    Nat.add_zero, if_neg (Nat.not_lt.2 fits), dueAfter_onTime]
  rfl

/-! ## 3. All looks -/

/-- The times of `count` looks from the `n`-th on. -/
def times (period n count : Nat) : List Nat := (List.range' n count).map (· * gap period)

theorem times_succ (period n count : Nat) :
    times period n (count + 1) = n * gap period :: times period (n + 1) count := rfl

/-- **The wait ends with the first look that shows that the condition holds**, here `count` looks
behind the `n`-th one. -/
theorem watch_holds {count : Nat} : ∀ {most n now : Nat}, count < most → now ≤ n * gap period →
    (n + count) * gap period ≤ limit → results (n + count) = .ok true →
    (∀ m, n ≤ m → m < n + count → results m ≠ .ok true) →
    watchFrom results limit period most n now =
      ⟨true, times period n (count + 1), (n + count) * gap period, n + count + 1⟩ := by
  induction count with
  | zero =>
    intro most n now room onTime fits holds _
    obtain ⟨most, rfl⟩ := Nat.exists_eq_add_one_of_ne_zero (Nat.ne_of_gt room)
    exact watchFrom_of_holds onTime fits holds
  | succ count ih =>
    intro most n now room onTime fits holds before
    obtain ⟨most, rfl⟩ := Nat.exists_eq_add_one_of_ne_zero (Nat.ne_zero_of_lt room)
    have next : n + (count + 1) = n + 1 + count := by omega
    have fitsHere : n * gap period ≤ limit :=
      Nat.le_trans (Nat.mul_le_mul_right _ (Nat.le_add_right n _)) fits
    rw [watchFrom_of_not_holds onTime fitsHere (before n n.le_refl (by omega)), next,
      ih (by omega) (Nat.mul_le_mul_right _ (Nat.le_succ n)) (next ▸ fits) (next ▸ holds)
        fun m le lt => before m (by omega) (by omega),
      times_succ period n]

/-- **The wait ends when its time is up** if none of the looks that fit, here `count` of them,
shows that the condition holds. -/
theorem watch_lapses {count : Nat} : ∀ {most n now : Nat}, count ≤ most → now ≤ n * gap period →
    limit < (n + count) * gap period →
    (∀ m, n ≤ m → m < n + count → m * gap period ≤ limit ∧ results m ≠ .ok true) →
    watchFrom results limit period most n now =
      ⟨false, times period n count, limit, n + count⟩ := by
  induction count with
  | zero =>
    intro most n now _ onTime late _
    exact watchFrom_late onTime late
  | succ count ih =>
    intro most n now room onTime late before
    obtain ⟨most, rfl⟩ := Nat.exists_eq_add_one_of_ne_zero (Nat.ne_zero_of_lt room)
    have next : n + (count + 1) = n + 1 + count := by omega
    obtain ⟨fits, shows⟩ := before n n.le_refl (by omega)
    rw [watchFrom_of_not_holds onTime fits shows, next,
      ih (by omega) (Nat.mul_le_mul_right _ (Nat.le_succ n)) (next ▸ late)
        fun m le lt => before m (by omega) (by omega),
      times_succ period n]

/-! ## 4. The wait -/

/-- The `n`-th result is the first one that shows that the condition holds. -/
def IsFirst (results : Nat → Except BrowserError Bool) (n : Nat) : Prop :=
  results n = .ok true ∧ ∀ m < n, results m ≠ .ok true

/-- What the wait comes to. -/
theorem await_eq (what : String) :
    (ofMillis limit period).await what (inTurn results) 0 =
      let outcome := watchFrom results limit period (limit + 1) 0 0
      (if outcome.held then .ok () else .error (.waitTimeout what (.ofMillis limit)), outcome) := by
  rw [watchFrom, Nat.zero_mul, Nat.zero_mul]
  simp only [await, wait, ticks_ofMillis]
  rfl

/-- A wait that finds the condition to hold in time. -/
theorem await_of_first {n : Nat} (first : IsFirst results n) (fits : n * gap period ≤ limit)
    (what : String) :
    (ofMillis limit period).await what (inTurn results) 0 =
      (.ok (), ⟨true, times period 0 (n + 1), n * gap period, n + 1⟩) := by
  have room : n < limit + 1 :=
    Nat.lt_succ_of_le (Nat.le_trans (Nat.le_mul_of_pos_right n (gap_pos period)) fits)
  have fits' : (0 + n) * gap period ≤ limit := by rwa [Nat.zero_add]
  have holds : results (0 + n) = .ok true := by rw [Nat.zero_add, first.1]
  have held := watch_holds room (Nat.zero_le _) fits' holds fun m _ lt => first.2 m (by omega)
  rw [Nat.zero_add] at held
  rw [await_eq, held]
  rfl

/-- A wait that does not. -/
theorem await_of_none (late : ∀ n, IsFirst results n → limit < n * gap period) (what : String) :
    (ofMillis limit period).await what (inTurn results) 0 =
      (.error (.waitTimeout what (.ofMillis limit)),
        ⟨false, times period 0 (limit / gap period + 1), limit, limit / gap period + 1⟩) := by
  have missed : ∀ m, m * gap period ≤ limit → results m ≠ .ok true := by
    intro m
    induction m using Nat.strongRecOn with
    | ind m ih =>
      intro fits holds
      refine Nat.not_lt.2 fits (late m ⟨holds, fun k lt => ih k lt ?_⟩)
      exact Nat.le_trans (Nat.mul_le_mul_right _ (Nat.le_of_lt lt)) fits
  have behind : limit < (0 + (limit / gap period + 1)) * gap period := by
    rw [Nat.zero_add, Nat.mul_comm]
    exact Nat.lt_mul_div_succ limit (gap_pos period)
  have room : limit / gap period + 1 ≤ limit + 1 := Nat.succ_le_succ (Nat.div_le_self _ _)
  have lapsed := watch_lapses room (Nat.zero_le _) behind fun m _ lt => by
    have fits : m * gap period ≤ limit :=
      (Nat.le_div_iff_mul_le (gap_pos period)).1 (by omega)
    exact ⟨fits, missed m fits⟩
  rw [Nat.zero_add] at lapsed
  rw [await_eq, lapsed]
  rfl

/-- Whether a first result comes in time. -/
theorem first_in_time (results : Nat → Except BrowserError Bool) (limit period : Nat) :
    (∃ n, IsFirst results n ∧ n * gap period ≤ limit) ∨
      ∀ n, IsFirst results n → limit < n * gap period := by
  by_cases h : ∃ n, IsFirst results n ∧ n * gap period ≤ limit
  · exact .inl h
  · exact .inr fun n first => Nat.not_le.1 fun fits => h ⟨n, first, fits⟩

/-- The first of the times is the one from which they are counted. -/
theorem head?_times (period n count : Nat) :
    (times period n (count + 1)).head? = some (n * gap period) := rfl

/-- Every look is made later than the one before it. -/
theorem pairwise_times (period n count : Nat) : (times period n count).Pairwise (· < ·) :=
  List.pairwise_map.2 (List.Pairwise.imp (fun lt => Nat.mul_lt_mul_of_pos_right lt (gap_pos period))
    List.pairwise_lt_range')

/-- **Polling is exact.**  A condition is looked at in no time, by a wait of `limit` milliseconds
with a period of `period` milliseconds, of which at least one passes.

* If the condition is first found to hold at the `n`-th look, counted from zero, and that look
  comes in time, the wait succeeds then, with all looks made up to that one.
* Otherwise it lapses when its time is up, with all looks made that fit.
* A look that fails is as good as one that shows that the condition does not hold.
* The first look is made at once, and the clock goes on between any two looks. -/
theorem polling_is_exact (results : Nat → Except BrowserError Bool) (limit period : Nat)
    (what : String) :
    let polled := (ofMillis limit period).await what (inTurn results) 0
    (∀ n, IsFirst results n → n * gap period ≤ limit →
      polled.1 = .ok () ∧ polled.2.time = n * gap period ∧
        polled.2.looks = (List.range (n + 1)).map (· * gap period) ∧ polled.2.state = n + 1) ∧
    ((∀ n, IsFirst results n → limit < n * gap period) →
      polled.1 = .error (.waitTimeout what (.ofMillis limit)) ∧ polled.2.time = limit ∧
        polled.2.looks = (List.range (limit / gap period + 1)).map (· * gap period) ∧
        polled.2.state = limit / gap period + 1) ∧
    (∀ results', (∀ n, results' n = .ok true ↔ results n = .ok true) →
      (ofMillis limit period).await what (inTurn results') 0 = polled) ∧
    polled.2.looks.head? = some 0 ∧ polled.2.looks.Pairwise (· < ·) := by
  intro polled
  refine ⟨?_, ?_, ?_, ?_, ?_⟩
  · intro n first fits
    rw [show polled = _ from await_of_first first fits what, List.range_eq_range']
    exact ⟨rfl, rfl, rfl, rfl⟩
  · intro late
    rw [show polled = _ from await_of_none late what, List.range_eq_range']
    exact ⟨rfl, rfl, rfl, rfl⟩
  · intro results' same
    have first (n : Nat) : IsFirst results' n ↔ IsFirst results n := by
      simp only [IsFirst, ne_eq, same]
    rcases first_in_time results limit period with ⟨n, h, fits⟩ | late
    · rw [await_of_first ((first n).2 h) fits what]
      exact (await_of_first h fits what).symm
    · rw [await_of_none (fun n h => late n ((first n).1 h)) what]
      exact (await_of_none late what).symm
  · rcases first_in_time results limit period with ⟨n, h, fits⟩ | late
    · rw [show polled = _ from await_of_first h fits what]
      exact (head?_times period 0 n).trans (by rw [Nat.zero_mul])
    · rw [show polled = _ from await_of_none late what]
      exact (head?_times period 0 _).trans (by rw [Nat.zero_mul])
  · rcases first_in_time results limit period with ⟨n, h, fits⟩ | late
    · rw [show polled = _ from await_of_first h fits what]
      exact pairwise_times period 0 (n + 1)
    · rw [show polled = _ from await_of_none late what]
      exact pairwise_times period 0 _

/-- A period of nothing counts as a millisecond, and the look at the very end is still made. -/
example :
    let results (n : Nat) : Except BrowserError Bool :=
      if n = 3 then .ok true else .error (.scriptExecutionFailed "context lost")
    ((ofMillis 3 0).await "document ready" (inTurn results) 0).2.looks = [0, 1, 2, 3] := by
  decide

end WaitConfig
end Playtest
