/-
# Lengths of time

A length of time is a whole number of nanoseconds.  Timers have a resolution of one
millisecond, so a deadline between two milliseconds is the later one.
-/
import Playtest.Number.Decimal

namespace Playtest

/-- A length of time. -/
structure Duration where
  nanos : Nat
  deriving DecidableEq, Repr, Inhabited

namespace Duration

def ofMillis (n : Nat) : Duration := ⟨n * 1000000⟩

def ofSeconds (n : Nat) : Duration := ⟨n * 1000000000⟩

/-- The whole milliseconds in it. -/
def millis (d : Duration) : Nat := d.nanos / 1000000

/-- The milliseconds a timer needs to cover it. -/
def ticks (d : Duration) : Nat := (d.nanos + 999999) / 1000000

@[simp] theorem ticks_ofMillis (n : Nat) : (ofMillis n).ticks = n := by
  unfold ticks ofMillis
  simp only
  omega

/-! ## 1. Seconds as a floating-point number -/

/-- The length nearest to a number of seconds, if it is not negative and not too long. -/
def ofSeconds? : Binary64 → Option Duration
  | .finite s m e =>
    let (n, d) := Binary64.ratio m e
    if (s ∧ m ≠ 0) ∨ Nat.pow 2 64 * d ≤ n then none else some ⟨roundHalfEven (n * 1000000000) d⟩
  | _ => none

/-- The number of seconds: the whole seconds plus the rounded rest. -/
def toSeconds (d : Duration) : Binary64 :=
  (Binary64.ofRatio false (d.nanos % 1000000000) 1000000000).addNat (d.nanos / 1000000000)

/-! ## 2. Text -/

/-- `n` units with the fraction `part / 10 ^ places`, without zeros at its end. -/
def withFraction (n part places : Nat) : String :=
  if part = 0 then toString n
  else
    let x := Decimal.strip places ⟨part, -(places : Int)⟩
    toString n ++ "." ++
      Decimal.zeros ((-x.exponent).toNat - (toString x.digits).length) ++ toString x.digits

/-- The length in the largest unit that has a whole part. -/
def describe (d : Duration) : String :=
  let n := d.nanos
  if 1000000000 ≤ n then withFraction (n / 1000000000) (n % 1000000000) 9 ++ "s"
  else if 1000000 ≤ n then withFraction (n / 1000000) (n % 1000000) 6 ++ "ms"
  else if 1000 ≤ n then withFraction (n / 1000) (n % 1000) 3 ++ "µs"
  else toString n ++ "ns"

/-- The length as the summary shows it: milliseconds below a second, two places of seconds
below a minute, then minutes and seconds. -/
def format (d : Duration) : String :=
  let ms := d.millis
  if ms < 1000 then toString ms ++ "ms"
  else if ms < 60000 then d.toSeconds.twoPlaces ++ "s"
  else
    let s := d.nanos / 1000000000
    toString (s / 60) ++ "m " ++ toString (s % 60) ++ "s"

end Duration
end Playtest
