/-
# The text that checks are made on

A check stands between two inputs of the script.  It is made when the second one is reached,
on the text that the game has printed between its request for the first input and its request
for the second one: no more, no less, and whatever else arrived early, late or in between.

`Windowed` says this of a chronicle, with the end of the script as the last case.  It follows
from the conversation alone: the rounds read messages one behind the other, and every round but
the last has read up to a request (`Conversation.judged`).
-/
import Playtest.Proofs.Run.Chronicle
import Playtest.Proofs.Run.Conversation

namespace Playtest

/-! ## 1. The windows of a conversation -/

namespace Conversation

variable {turns : List Expansion.Turn} {rounds : List Round} {result : Except TestError Unit}

/-- **Checks are made on windows.** -/
theorem judged (h : Conversation turns rounds result) {k : Nat} {r : Round}
    (hk : rounds[k]? = some r) (tail : List Message) :
    ∃ turn, turns[k]? = some turn ∧
      match r.outcome with
      | .ok kind =>
        (Message.requests (rounds.flatMap Round.read ++ tail))[k]? = some kind ∧
          r.made = Made.on (Message.window k (rounds.flatMap Round.read ++ tail)) turn.held
      | .error _ => r.made = [] := by
  obtain ⟨turn, -, -, ht, fits, -⟩ := h.round hk
  refine ⟨turn, ht, ?_⟩
  have hm := fits.made
  rcases ho : r.outcome with e | kind
  · rw [ho] at hm
    exact hm
  · rw [ho] at hm
    obtain ⟨hreq, hwin, -⟩ := h.claims hk ho tail
    exact ⟨hreq, by rw [hwin]; exact hm⟩

end Conversation

/-! ## 2. The windows of a test -/

namespace Chronicle

/-- The end of the script was reached, and there was no wait for output, or it ended well. -/
def judgesRest (c : Chronicle) : Bool := c.finale?.any fun f => f.outcome.isOk

/-- What is known of the checks of a script and of the text that each is made on. -/
structure Windowed (x : Expansion) (c : Chronicle) : Prop where
  /-- An input is reached if the page was opened and the commands for all inputs before it were
  sent well. -/
  reached : ∀ k : Nat, (∃ r, c.rounds[k]? = some r) ↔
    c.opened = .ok () ∧ k < x.turns.length ∧
      ∀ j < k, ∃ r command, c.rounds[j]? = some r ∧ r.sent? = some (command, .ok ())
  /-- When the game asks for an input, whatever the kind, the checks before it are made on the
  window before this request.  When it does not, none of them is made. -/
  judged : ∀ (k : Nat) (r : Round), c.rounds[k]? = some r → ∃ turn, x.turns[k]? = some turn ∧
    match r.outcome with
    | .ok kind =>
      (Message.requests c.delivered)[k]? = some kind ∧
        r.made = Made.on (Message.window k c.delivered) turn.held
    | .error _ => r.made = []
  /-- The end of the script is reached if all its commands were sent well. -/
  ended : c.finale?.isSome = true ↔
    c.opened = .ok () ∧ x.ending = .complete ∧
      c.sent = x.inputs.map fun i => (Command.ofInput i, .ok ())
  /-- There the checks that are left are made on the texts that were read behind the last request
  that was claimed.  The wait before them fails only if there are checks and no text, and then
  none of them is made. -/
  final : ∀ f, c.finale? = some f →
    match f.outcome with
    | .ok _ =>
      f.made = Made.on (Message.texts (Message.afterRequests c.claimed.length c.read)) x.rest
    | .error _ =>
      f.made = [] ∧ x.rest ≠ [] ∧
        Message.texts (Message.afterRequests c.claimed.length c.read) = ""
  /-- No other checks are made. -/
  made : c.made.map Made.held =
    (x.turns.take c.claimed.length).flatMap Expansion.Turn.held ++
      if c.judgesRest then x.rest else []
  /-- No check is made twice, or before another one that stands above it. -/
  once : c.made.map Made.held <+: x.checks

variable {x : Expansion} {c : Chronicle} {result : Except TestError Unit}

/-- Behind the requests that were claimed, a finale reads all that is read. -/
theorem Tells.read_finale (h : c.Tells x result) {f : Finale} (hf : c.finale? = some f) :
    c.claimed.length = x.turns.length ∧
      Message.afterRequests c.claimed.length c.read = f.read := by
  obtain ⟨-, talk, -, -, -⟩ := h.of_finale hf
  obtain ⟨-, len, claims⟩ := talk.all_sent rfl
  have count : c.claimed.length = c.rounds.length := Round.length_claimed claims
  refine ⟨count.trans len, ?_⟩
  rw [count, read, Round.afterRequests_read claims, hf]
  exact List.append_nil f.read

theorem Tells.reached (h : c.Tells x result) (k : Nat) :
    (∃ r, c.rounds[k]? = some r) ↔
      c.opened = .ok () ∧ k < x.turns.length ∧
        ∀ j < k, ∃ r command, c.rounds[j]? = some r ∧ r.sent? = some (command, .ok ()) := by
  by_cases ho : c.opened = .ok ()
  · obtain ⟨ending, talk, -, -⟩ := h.of_opened ho
    rw [talk.reached_iff k]
    exact ⟨fun hk => ⟨ho, hk⟩, fun hk => hk.2⟩
  · obtain ⟨hr, -⟩ := h.of_refused ho
    rw [hr]
    constructor
    · rintro ⟨r, hk⟩
      cases hk
    · rintro ⟨hopen, -⟩
      exact absurd hopen ho

theorem Tells.judged (h : c.Tells x result) {tail : List Message}
    (hd : c.delivered = c.read ++ tail) (k : Nat) (r : Round) (hk : c.rounds[k]? = some r) :
    ∃ turn, x.turns[k]? = some turn ∧
      match r.outcome with
      | .ok kind =>
        (Message.requests c.delivered)[k]? = some kind ∧
          r.made = Made.on (Message.window k c.delivered) turn.held
      | .error _ => r.made = [] := by
  obtain ⟨ending, talk, -, -⟩ := h.of_opened (h.opened_of_round hk)
  rw [hd, read, List.append_assoc]
  exact talk.judged hk _

theorem Tells.ended_iff (h : c.Tells x result) :
    c.finale?.isSome = true ↔
      c.opened = .ok () ∧ x.ending = .complete ∧
        c.sent = x.inputs.map fun i => (Command.ofInput i, .ok ()) := by
  have inputs : (x.inputs.map fun i => (Command.ofInput i, (.ok () : Except BrowserError Unit))) =
      x.turns.map fun turn => (Command.ofInput turn.input, .ok ()) := by
    rw [← x.inputs_eq, List.map_map]
    rfl
  rw [inputs]
  by_cases ho : c.opened = .ok ()
  · obtain ⟨ending, talk, -, hf⟩ := h.of_opened ho
    rw [hf]
    constructor
    · rintro ⟨hend, complete⟩
      exact ⟨ho, complete, (talk.all_sent hend).1⟩
    · rintro ⟨-, complete, hs⟩
      exact ⟨talk.result_of_sent hs, complete⟩
  · obtain ⟨-, hf⟩ := h.of_refused ho
    rw [hf]
    constructor
    · intro hsome
      cases hsome
    · rintro ⟨hopen, -⟩
      exact absurd hopen ho

theorem Tells.final (h : c.Tells x result) (f : Finale) (hf : c.finale? = some f) :
    match f.outcome with
    | .ok _ =>
      f.made = Made.on (Message.texts (Message.afterRequests c.claimed.length c.read)) x.rest
    | .error _ =>
      f.made = [] ∧ x.rest ≠ [] ∧
        Message.texts (Message.afterRequests c.claimed.length c.read) = "" := by
  obtain ⟨-, -, -, fits, -⟩ := h.of_finale hf
  obtain ⟨-, hread⟩ := h.read_finale hf
  have hm := fits.made
  rw [hread]
  rcases ho : f.outcome with e | u
  · rw [ho] at hm
    exact ⟨hm, fits.failed e ho⟩
  · rw [ho] at hm
    exact hm

theorem Tells.held_made (h : c.Tells x result) :
    c.made.map Made.held =
      (x.turns.take c.claimed.length).flatMap Expansion.Turn.held ++
        if c.judgesRest then x.rest else [] := by
  have talk : (c.rounds.flatMap Round.made).map Made.held =
      (x.turns.take c.claimed.length).flatMap Expansion.Turn.held := by
    by_cases ho : c.opened = .ok ()
    · obtain ⟨ending, talk, -, -⟩ := h.of_opened ho
      exact talk.held_made
    · obtain ⟨hr, -⟩ := h.of_refused ho
      rw [claimed, hr]
      rfl
  rw [made, List.map_append, talk, judgesRest]
  congr 1
  rcases hf : c.finale? with _ | f
  · rfl
  · obtain ⟨-, -, -, fits, -⟩ := h.of_finale hf
    have hm := fits.made
    rcases ho : f.outcome with e | u
    · rw [ho] at hm
      simp [hm, ho, Except.isOk, Except.toBool]
    · rw [ho] at hm
      simp [hm, ho, Except.isOk, Except.toBool]

/-- When the checks that are left are made, all checks before them have been made. -/
theorem Tells.made_prefix (h : c.Tells x result) : c.made.map Made.held <+: x.checks := by
  rw [h.held_made, ← x.checks_eq]
  by_cases hj : c.judgesRest = true
  · obtain ⟨f, hf, -⟩ := (Option.any_eq_true _ _).1 hj
    obtain ⟨len, -⟩ := h.read_finale hf
    refine ⟨[], ?_⟩
    rw [if_pos hj, len, List.take_length, List.append_nil]
  · rw [if_neg hj, List.append_nil]
    refine List.IsPrefix.trans ?_ (List.prefix_append _ x.rest)
    refine ⟨(x.turns.drop c.claimed.length).flatMap Expansion.Turn.held, ?_⟩
    rw [← List.flatMap_append, List.take_append_drop]

/-- **A chronicle that goes with a script judges its windows.** -/
theorem Tells.windowed (h : c.Tells x result) {tail : List Message}
    (hd : c.delivered = c.read ++ tail) : c.Windowed x where
  reached := h.reached
  judged := h.judged hd
  ended := h.ended_iff
  final := h.final
  made := h.held_made
  once := h.made_prefix

end Chronicle

namespace Run

variable {σ : Type}

/-- **Exact windows.**  Let `M` be the messages that arrive from the beginning of a test on.  When
the wait for the `k`-th input ends with a request, the checks before this input are made on the
texts that stand between the `k`-th request of `M` and the one before it; the checks that are left
are made on what is read behind the last request claimed, if the script comes to its end and the
wait there does not fail; and no other checks are made.  A check fails if its literal does not
stand in that text, and an inverted one if it does.  What fails, and only that, is added to the
failures. -/
theorem checks_are_made_on_windows (setup : Setup σ) (file : TestFile) (url name : String)
    (p : Performance σ) :
    let c := chronicle setup file url name p
    let ended := one setup file url name p
    c.Windowed (file.expansion name) ∧
      Course (begun name p) c.delivered c.read c.made c.said ended.2 ∧
      (∀ m ∈ c.made, m.holds = true ↔
        (m.held.check.text.toList <:+: m.output.toList ↔ m.held.check.inverted = false)) ∧
      ∀ f, c.finale? = some f → ended.1 = f.outcome := by
  intro c ended
  have tells := one_tells setup file url name p
  refine ⟨tells.windowed (delivered_eq setup file url name p), one_course setup file url name p,
    ?_, ?_⟩
  · intro m _
    exact Check.passes_iff
  · intro f hf
    obtain ⟨-, -, -, -, result⟩ := tells.of_finale hf
    exact result

end Run
end Playtest
