/-
# Waiting for a condition

A condition that nothing announces is looked at again and again: at once, and then once in
every period, until it holds or the time is up.  A condition that cannot be looked at counts
as one that does not hold.

A look takes some time.  The next one is due a period after the last one was due; but if that
one came more than five milliseconds late, a period after it came.  A look that is due at the
very end is still made.
-/
import Playtest.Run.Error

namespace Playtest

/-- How long to wait for a condition, and how often to look. -/
structure WaitConfig where
  timeout : Duration := Duration.ofSeconds 30
  period : Duration := Duration.ofMillis 50
  deriving DecidableEq, Repr

namespace WaitConfig

/-! ## 1. The timetable -/

/-- One look at the condition: what it showed and how many milliseconds it took. -/
structure Look where
  holds : Bool
  takes : Nat := 0
  deriving DecidableEq, Repr

/-- How a wait ended: whether the condition held, when each look began, and when it ended. -/
structure Outcome (σ : Type) where
  held : Bool
  looks : List Nat
  time : Nat
  state : σ

/-- The time between two looks.  It is never less than a millisecond. -/
def step (config : WaitConfig) : Nat := max config.period.nanos 1000000

/-- The millisecond at which a timer set to this many nanoseconds goes off. -/
def timer (nanos : Nat) : Nat := (nanos + 999999) / 1000000

/-- When the look after this one is due, in nanoseconds. -/
def dueAfter (config : WaitConfig) (due now : Nat) : Nat :=
  if due + 5000000 < now * 1000000 then now * 1000000 + config.step else due + config.step

/-! ## 2. The wait -/

variable {σ : Type}

/-- Looks on from the time `now`, at most `most` times, with the next look due at `due`
nanoseconds. -/
def watch (config : WaitConfig) (condition : σ → Look × σ) :
    Nat → Nat → Nat → σ → Outcome σ
  | 0, _, _, s => ⟨false, [], config.timeout.ticks, s⟩
  | most + 1, due, now, s =>
    let deadline := config.timeout.ticks
    let start := max now (timer due)
    if deadline < start then ⟨false, [], deadline, s⟩
    else
      let (seen, s) := condition s
      let finish := start + seen.takes
      if deadline < finish then ⟨false, [start], deadline, s⟩
      else if seen.holds then ⟨true, [start], finish, s⟩
      else
        let rest := watch config condition most (config.dueAfter due start) finish s
        { rest with looks := start :: rest.looks }

/-- Waits until the condition holds.  Two looks are at least a millisecond apart, so there are
never more of them than milliseconds, and one. -/
def wait (config : WaitConfig) (condition : σ → Look × σ) (s : σ) : Outcome σ :=
  watch config condition (config.timeout.ticks + 1) 0 0 s

/-- The error of a wait that came to nothing. -/
def lapsed (config : WaitConfig) (what : String) : BrowserError :=
  .waitTimeout what config.timeout

/-! ## 3. Conditions that cannot always be looked at -/

/-- A try to look at a condition: what it showed, or why it failed, and how many milliseconds it
took. -/
structure Try where
  result : Except BrowserError Bool
  takes : Nat := 0

/-- A try that failed shows nothing. -/
def Try.look (t : Try) : Look :=
  ⟨match t.result with
    | .ok holds => holds
    | .error _ => false, t.takes⟩

/-- Waits until the condition called `what` holds. -/
def await (config : WaitConfig) (what : String) (condition : σ → Try × σ) (s : σ) :
    Except BrowserError Unit × Outcome σ :=
  let outcome := config.wait (fun s => ((condition s).1.look, (condition s).2)) s
  (if outcome.held then .ok () else .error (config.lapsed what), outcome)

end WaitConfig
end Playtest
