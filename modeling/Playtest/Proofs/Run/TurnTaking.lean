/-
# Turn taking

The game asks for input and the driver answers.  The `k`-th command of a test answers the `k`-th
request that came since the test began, so no request is answered twice and none is passed over,
however many of them arrive early.  A command is of the kind that was asked for; if the script
has another kind of input at this place, the test ends there and nothing behind it matters.

That a command comes after the request it answers is said with the performance that sends it
(`Sends`): by then exactly this many requests have been read.
-/
import Playtest.Proofs.Run.Chronicle
import Playtest.Proofs.Run.Conversation

namespace Playtest

/-! ## 1. Commands in the journal -/

/-- The command that an event reports as sent. -/
def Event.sent? : Event → Option Command
  | .sent command => some command
  | _ => none

/-- Messages that are read report no command. -/
theorem Message.sent?_shown (messages : List Message) :
    (messages.flatMap shown).filterMap Event.sent? = [] := by
  refine List.filterMap_eq_nil_iff.2 ?_
  intro event he
  rcases of_mem_shown he with ⟨text, rfl⟩ | ⟨line, rfl⟩
  · rfl
  · rfl

/-- Failures report no command. -/
theorem Made.sent?_failed (made : List Made) :
    ((failed made).map Event.checkFailed).filterMap Event.sent? = [] := by
  rw [List.filterMap_map]
  exact List.filterMap_eq_nil_iff.2 fun failure _ => rfl

/-- The journal has the command of a round, and no other. -/
theorem Round.sent?_said (r : Round) :
    r.said.filterMap Event.sent? = (r.sent?.map Prod.fst).toList := by
  rw [said, List.filterMap_append, List.filterMap_append, Message.sent?_shown,
    Made.sent?_failed]
  cases r.sent? <;> rfl

theorem Finale.sent?_said (f : Finale) : f.said.filterMap Event.sent? = [] := by
  rw [said, List.filterMap_append, Message.sent?_shown, Made.sent?_failed]
  rfl

/-- **The commands of a chronicle are those of the journal.** -/
theorem Chronicle.sent?_said (c : Chronicle) :
    c.said.filterMap Event.sent? = c.sent.map Prod.fst := by
  have rounds : (c.rounds.flatMap Round.said).filterMap Event.sent? = c.sent.map Prod.fst := by
    rw [sent]
    induction c.rounds with
    | nil => rfl
    | cons r rounds ih =>
      rw [List.flatMap_cons, List.filterMap_append, ih, Round.sent?_said]
      cases hs : r.sent? <;> simp [hs]
  have finale : (c.finale?.toList.flatMap Finale.said).filterMap Event.sent? = [] := by
    cases c.finale? with
    | none => rfl
    | some f => simpa using f.sent?_said
  rw [said, List.filterMap_append, rounds, finale, List.append_nil]

/-! ## 2. Where commands are sent -/

namespace Performance

variable {σ : Type} (setup : Setup σ)

/-- From `p` to `q` these rounds have happened, the last one as far as its command: `q` is the
performance that hands the command to the page, and the page gives this answer. -/
structure Sends (p : Performance σ) (rounds : List Round) (command : Command)
    (answer : Except BrowserError Unit) (q : Performance σ) : Prop where
  course : ∃ delivered made said,
    Course p delivered (rounds.flatMap Round.read) made said q ∧
      rounds.flatMap Round.said = said ++ [.sent command]
  answered : (q.send setup command).1 = answer

variable {setup}

/-- The round of an input hands its command to the page behind its checks. -/
theorem sends_round {input : Input} {held : List Held} {p : Performance σ} {command : Command}
    {answer : Except BrowserError Unit}
    (hs : (p.round setup input held).sent? = some (command, answer)) :
    Sends setup p [p.round setup input held] command answer
      ((p.asked setup).flush setup held) := by
  unfold round at hs ⊢
  rcases ho : (p.dialogue.nextRequest setup.limit).1 with e | requested
  · rw [ho] at hs
    cases hs
  · rw [ho] at hs
    dsimp only at hs ⊢
    by_cases hk : requested ≠ input.kind
    · rw [if_pos hk] at hs
      cases hs
    · rw [if_neg hk] at hs ⊢
      cases hs
      have course := course_judged setup held requested p
      refine ⟨⟨(p.judged setup held requested).delivered, (p.judged setup held requested).made,
        (p.judged setup held requested).said, ?_, ?_⟩, rfl⟩
      · rw [List.flatMap_singleton]
        exact course
      · simp [judged, Round.said]

/-- What came before. -/
theorem Sends.behind {p p' q : Performance σ} (first : List Round) {rounds : List Round}
    {command : Command}
    {answer : Except BrowserError Unit} {delivered : List Message} {made : List Made}
    (h : Course p delivered (first.flatMap Round.read) made (first.flatMap Round.said) p')
    (sends : Sends setup p' rounds command answer q) :
    Sends setup p (first ++ rounds) command answer q where
  course := by
    obtain ⟨delivered', made', said', course, hsaid⟩ := sends.course
    refine ⟨delivered ++ delivered', made ++ made', first.flatMap Round.said ++ said', ?_, ?_⟩
    · rw [List.flatMap_append]
      exact h.trans course
    · rw [List.flatMap_append, hsaid, List.append_assoc]
  answered := sends.answered

/-- An input whose command is sent ends as the sending of it. -/
theorem giveInput_of_sent {input : Input} {held : List Held} {p : Performance σ}
    {s : Command × Except BrowserError Unit} (hs : (p.round setup input held).sent? = some s) :
    (p.giveInput setup input held).2 =
      (((p.asked setup).flush setup held).send setup s.1).2 := by
  unfold round at hs
  rcases ho : (p.dialogue.nextRequest setup.limit).1 with e | requested
  · rw [ho] at hs
    cases hs
  · rw [ho] at hs
    dsimp only at hs
    rw [giveInput_of_ok input held ho]
    by_cases hk : requested ≠ input.kind
    · rw [if_pos hk] at hs
      cases hs
    · rw [if_neg hk] at hs ⊢
      cases hs
      rfl

/-- The items up to an input are performed as far as the input itself. -/
theorem recite_input (input : Input) (held : List Held) (p : Performance σ) :
    (p.recite setup [.input input] held).2 = (p.giveInput setup input held).2 := by
  rw [recite]
  rcases p.giveInput setup input held with ⟨e | u, p'⟩ <;> rfl

/-- **Every command is sent when as many rounds have read their messages**, at the end of the
items up to its input. -/
theorem recite_sends (items : List Expansion.Item) (held : List Held) (p : Performance σ)
    {k : Nat} {r : Round} {command : Command} {answer : Except BrowserError Unit}
    (hk : (p.rounds setup items held)[k]? = some r) (hs : r.sent? = some (command, answer)) :
    ∃ before i after q, items = before ++ .input i :: after ∧
      (before.filterMap Expansion.Item.input?).length = k ∧
      Sends setup p ((p.rounds setup items held).take (k + 1)) command answer q ∧
      (p.recite setup (before ++ [.input i]) held).2 = (q.send setup command).2 := by
  induction items generalizing held p k with
  | nil => cases hk
  | cons item items ih =>
    cases item with
    | check owner c =>
      obtain ⟨before, i, after, q, rfl, hn, sends, hq⟩ := ih _ p hk
      exact ⟨.check owner c :: before, i, after, q, rfl, hn, sends, hq⟩
    | passed x =>
      obtain ⟨before, i, after, q, rfl, hn, sends, hq⟩ := ih held _ hk
      exact ⟨.passed x :: before, i, after, q, rfl, hn,
        sends.behind [] (arrives_record p rfl).course, hq⟩
    | input i =>
      rw [rounds] at hk ⊢
      cases k with
      | zero =>
        cases hk
        refine ⟨[], i, items, _, rfl, rfl, sends_round hs, ?_⟩
        exact (recite_input i held p).trans (giveInput_of_sent hs)
      | succ k =>
        have first := course_giveInput setup i held p
        rcases hg : p.giveInput setup i held with ⟨e | u, p'⟩
        · rw [hg] at hk
          cases hk
        · rw [hg] at hk first
          obtain ⟨before, i', after, q, rfl, hn, sends, hq⟩ := ih [] p' hk
          have course : Course p (p.round setup i held).delivered
              ([p.round setup i held].flatMap Round.read) (p.round setup i held).made
              ([p.round setup i held].flatMap Round.said) p' := by
            rw [List.flatMap_singleton, List.flatMap_singleton]
            exact first
          refine ⟨.input i :: before, i', after, q, rfl, congrArg (· + 1) hn,
            sends.behind [p.round setup i held] course, ?_⟩
          rw [List.cons_append, recite, hg]
          exact hq

/-! ## 3. Where a test stops -/

theorem recite_append (xs ys : List Expansion.Item) (held : List Held) (p : Performance σ) :
    p.recite setup (xs ++ ys) held =
      match p.recite setup xs held with
      | (.error e, q) => (.error e, q)
      | (.ok left, q) => q.recite setup ys left := by
  induction xs generalizing held p with
  | nil => rfl
  | cons item xs ih =>
    cases item with
    | check owner c => exact ih _ p
    | passed x => exact ih held _
    | input i =>
      rw [List.cons_append, recite, recite]
      rcases p.giveInput setup i held with ⟨e | u, p'⟩
      · rfl
      · exact ih [] p'

/-- The rounds of some items do not depend on what is behind them. -/
theorem rounds_append (xs ys : List Expansion.Item) (held : List Held) (p : Performance σ) :
    p.rounds setup (xs ++ ys) held =
      p.rounds setup xs held ++
        match p.recite setup xs held with
        | (.error _, _) => []
        | (.ok left, q) => q.rounds setup ys left := by
  induction xs generalizing held p with
  | nil => rfl
  | cons item xs ih =>
    cases item with
    | check owner c => exact ih _ p
    | passed x => exact ih held _
    | input i =>
      rw [List.cons_append, recite, rounds, rounds]
      rcases p.giveInput setup i held with ⟨e | u, p'⟩
      · rfl
      · exact congrArg (p.round setup i held :: ·) (ih [] p')

/-- **Behind an input whose command is not sent well nothing is performed**, whatever the script
has there. -/
theorem enact_of_unsent {before after : List Expansion.Item} {i : Input}
    (ending : Expansion.Ending) {p : Performance σ} (clear : p.Clear) {r : Round}
    (hk : (p.rounds setup (before ++ .input i :: after) [])[
      (before.filterMap Expansion.Item.input?).length]? = some r)
    (hs : ∀ command, r.sent? ≠ some (command, .ok ()))
    (after' : List Expansion.Item) (ending' : Expansion.Ending) :
    ∃ e q, p.enact setup ⟨before ++ .input i :: after, ending⟩ [] = (.error e, q) ∧
      p.enact setup ⟨before ++ .input i :: after', ending'⟩ [] = (.error e, q) := by
  have cut (ys : List Expansion.Item) :
      before ++ .input i :: ys = (before ++ [.input i]) ++ ys := by simp
  rcases hr : p.recite setup (before ++ [.input i]) [] with ⟨e | left, q⟩
  · refine ⟨e, q, ?_, ?_⟩
    · rw [enact, cut, recite_append, hr]
    · rw [enact, cut, recite_append, hr]
  · -- up to here all commands would have been sent well
    obtain ⟨result, talk, hres⟩ := recite_conversation setup (before ++ [.input i]) [] clear
    rw [hr] at hres
    have done : result = .ok () := by
      cases result with
      | ok u => rfl
      | error e => cases hres
    obtain ⟨sent, len, -⟩ := talk.all_sent done
    have inputs : (Expansion.turnsFrom [] (before ++ [.input i])).length =
        (before.filterMap Expansion.Item.input?).length + 1 := by
      rw [← List.length_map (f := Expansion.Turn.input), Expansion.map_input_turnsFrom]
      simp [Expansion.Item.input?]
    have last := talk.sent_getElem? (before.filterMap Expansion.Item.input?).length
    rw [cut, rounds_append, List.getElem?_append_left (by omega)] at hk
    rw [sent, hk, List.getElem?_map, List.getElem?_eq_getElem (by omega)] at last
    exact absurd last.symm (hs _)

end Performance

/-! ## 4. Taking turns -/

namespace Chronicle

/-- The commands of a test and the requests that came since it began. -/
structure TakesTurns (x : Expansion) (c : Chronicle) : Prop where
  /-- The `k`-th command is for the `k`-th input, and of the kind of the `k`-th request. -/
  answers : ∀ (k : Nat) (command : Command) (answer : Except BrowserError Unit),
    c.sent[k]? = some (command, answer) →
      (∃ turn, x.turns[k]? = some turn ∧ command = Command.ofInput turn.input) ∧
        (Message.requests c.delivered)[k]? = some command.kind
  /-- The commands are for the first requests, for each of them one. -/
  each : c.sent.map (fun s => s.1.kind) = (Message.requests c.delivered).take c.sent.length
  /-- The round of the `k`-th command has read the `k`-th request, and no later one. -/
  read : ∀ k < c.sent.length,
    Message.requests ((c.rounds.take (k + 1)).flatMap Round.read) =
      (Message.requests c.delivered).take (k + 1)
  /-- A request for another kind of input than that of the script is the last thing that
  happens. -/
  mismatch : ∀ (k : Nat) (r : Round) (turn : Expansion.Turn) (requested : InputKind),
    c.rounds[k]? = some r → x.turns[k]? = some turn → r.outcome = .ok requested →
      requested ≠ turn.input.kind →
        (Message.requests c.delivered)[k]? = some requested ∧ r.sent? = none ∧
          c.sent.length = k ∧ c.rounds.length = k + 1 ∧ c.finale? = none

variable {x : Expansion} {c : Chronicle} {result : Except TestError Unit}

/-- The rounds of commands that were sent. -/
theorem Tells.of_sent (h : c.Tells x result) {k : Nat}
    {s : Command × Except BrowserError Unit} (hs : c.sent[k]? = some s) :
    ∃ ending turn r, Conversation x.turns c.rounds ending ∧ c.rounds[k]? = some r ∧
      x.turns[k]? = some turn ∧ r.Fits turn ∧ r.sent? = some s := by
  by_cases ho : c.opened = .ok ()
  · obtain ⟨ending, talk, -, -⟩ := h.of_opened ho
    rw [sent, talk.sent_getElem? k, Option.bind_eq_some_iff] at hs
    obtain ⟨r, hk, hr⟩ := hs
    obtain ⟨turn, -, -, ht, fits, -⟩ := talk.round hk
    exact ⟨ending, turn, r, talk, hk, ht, fits, hr⟩
  · obtain ⟨hr, -⟩ := h.of_refused ho
    rw [sent, hr] at hs
    cases hs

/-- A round that fails is the last one, and the test ends as it does. -/
theorem Tells.failed_round (h : c.Tells x result) {k : Nat} {r : Round} {turn : Expansion.Turn}
    {e : TestError} (hk : c.rounds[k]? = some r) (ht : x.turns[k]? = some turn)
    (hr : r.result turn.input.kind = .error e) :
    c.rounds.length = k + 1 ∧ result = .error e := by
  obtain ⟨ending, talk, hres, -⟩ := h.of_opened (h.opened_of_round hk)
  obtain ⟨hend, len⟩ := talk.failed_last hk ht hr
  exact ⟨len, hres _ hend⟩

/-- A wait for a request that fails is the end of its test. -/
theorem Tells.failed_wait (h : c.Tells x result) {k : Nat} {r : Round} {e : TestError}
    (hk : c.rounds[k]? = some r) (ho : r.outcome = .error e) :
    c.rounds.length = k + 1 ∧ result = .error e := by
  obtain ⟨ending, talk, -, -⟩ := h.of_opened (h.opened_of_round hk)
  obtain ⟨turn, -, -, ht, -⟩ := talk.round hk
  refine h.failed_round hk ht ?_
  rw [Round.result, ho]

/-- A command that the page refuses is the last one of its test. -/
theorem Tells.failed_send (h : c.Tells x result) {k : Nat} {command : Command} {e : BrowserError}
    (hs : c.sent[k]? = some (command, .error e)) :
    c.sent.length = k + 1 ∧ result = .error (.browser e) := by
  obtain ⟨-, turn, r, -, hk, ht, fits, hr⟩ := h.of_sent hs
  obtain ⟨-, ho⟩ := fits.of_command hr
  have failed : r.result turn.input.kind = .error (.browser e) := by
    rw [Round.result, ho, hr]
  obtain ⟨len, ends⟩ := h.failed_round hk ht failed
  have atMost : c.sent.length ≤ c.rounds.length := List.length_filterMap_le ..
  have atLeast : k < c.sent.length := (List.getElem?_eq_some_iff.1 hs).1
  exact ⟨by omega, ends⟩

theorem Tells.answers (h : c.Tells x result) {tail : List Message}
    (hd : c.delivered = c.read ++ tail) (k : Nat) (command : Command)
    (answer : Except BrowserError Unit) (hs : c.sent[k]? = some (command, answer)) :
    (∃ turn, x.turns[k]? = some turn ∧ command = Command.ofInput turn.input) ∧
      (Message.requests c.delivered)[k]? = some command.kind := by
  obtain ⟨ending, turn, r, talk, hk, ht, fits, hr⟩ := h.of_sent hs
  obtain ⟨hcommand, ho⟩ := fits.of_command hr
  have hcommand : command = Command.ofInput turn.input := hcommand
  refine ⟨⟨turn, ht, hcommand⟩, ?_⟩
  obtain ⟨hreq, -, -⟩ :=
    talk.claims hk ho (c.finale?.toList.flatMap Finale.read ++ tail)
  rw [hd, read, List.append_assoc, hreq, hcommand, Command.kind_ofInput]

theorem Tells.each (h : c.Tells x result) {tail : List Message}
    (hd : c.delivered = c.read ++ tail) :
    c.sent.map (fun s => s.1.kind) = (Message.requests c.delivered).take c.sent.length := by
  refine List.ext_getElem? fun k => ?_
  rw [List.getElem?_map, List.getElem?_take]
  rcases hs : c.sent[k]? with _ | ⟨command, answer⟩
  · have beyond : ¬k < c.sent.length := Nat.not_lt.2 (List.getElem?_eq_none_iff.1 hs)
    rw [if_neg beyond]
    rfl
  · obtain ⟨hlt, -⟩ := List.getElem?_eq_some_iff.1 hs
    obtain ⟨-, hreq⟩ := h.answers hd k command answer hs
    rw [if_pos hlt, hreq]
    rfl

theorem Tells.read_requests (h : c.Tells x result) {tail : List Message}
    (hd : c.delivered = c.read ++ tail) (k : Nat) (hk : k < c.sent.length) :
    Message.requests ((c.rounds.take (k + 1)).flatMap Round.read) =
      (Message.requests c.delivered).take (k + 1) := by
  obtain ⟨ending, turn, r, talk, hr, -, fits, hs⟩ := h.of_sent (List.getElem?_eq_getElem hk)
  obtain ⟨-, ho⟩ := fits.of_command hs
  obtain ⟨-, -, hreq⟩ := talk.claims hr ho (c.finale?.toList.flatMap Finale.read ++ tail)
  rw [hd, read, List.append_assoc]
  exact hreq

theorem Tells.mismatch (h : c.Tells x result) {tail : List Message}
    (hd : c.delivered = c.read ++ tail) {k : Nat} {r : Round} {turn : Expansion.Turn}
    {requested : InputKind} (hk : c.rounds[k]? = some r) (ht : x.turns[k]? = some turn)
    (ho : r.outcome = .ok requested) (hne : requested ≠ turn.input.kind) :
    (Message.requests c.delivered)[k]? = some requested ∧ r.sent? = none ∧
      c.sent.length = k ∧ c.rounds.length = k + 1 ∧ c.finale? = none ∧
      result = .error (.protocolViolation turn.input.kind requested) := by
  obtain ⟨ending, talk, hres, hf⟩ := h.of_opened (h.opened_of_round hk)
  obtain ⟨turn', -, -, ht', fits, -⟩ := talk.round hk
  rw [ht] at ht'
  cases ht'
  have unsent : r.sent? = none := by
    have hs := fits.sent
    rw [ho] at hs
    dsimp only at hs
    rw [if_neg hne] at hs
    exact Option.map_eq_none_iff.1 hs
  have failed : r.result turn.input.kind =
      .error (.protocolViolation turn.input.kind requested) := by
    rw [Round.result, ho, unsent]
  obtain ⟨hend, len⟩ := talk.failed_last hk ht failed
  obtain ⟨hreq, -, -⟩ := talk.claims hk ho (c.finale?.toList.flatMap Finale.read ++ tail)
  have atMost : c.sent.length ≤ k := by
    refine List.getElem?_eq_none_iff.1 ?_
    rw [sent, talk.sent_getElem? k, hk]
    exact unsent
  have atLeast : k ≤ c.sent.length := by
    cases k with
    | zero => exact Nat.zero_le _
    | succ j =>
      obtain ⟨-, earlier⟩ := (talk.reached_iff (j + 1)).1 ⟨r, hk⟩
      obtain ⟨r', command, hj, hs⟩ := earlier j (Nat.lt_succ_self j)
      have hsent : c.sent[j]? = some (command, .ok ()) := by
        rw [sent, talk.sent_getElem? j, hj]
        exact hs
      exact (List.getElem?_eq_some_iff.1 hsent).1
  refine ⟨?_, unsent, Nat.le_antisymm atMost atLeast, len, ?_, hres _ hend⟩
  · rw [hd, read, List.append_assoc]
    exact hreq
  · rcases hfin : c.finale? with _ | f
    · rfl
    · rw [hfin, hend] at hf
      obtain ⟨hc, -⟩ := hf.1 rfl
      cases hc

/-- **A chronicle that goes with a script takes turns.** -/
theorem Tells.takesTurns (h : c.Tells x result) {tail : List Message}
    (hd : c.delivered = c.read ++ tail) : c.TakesTurns x where
  answers := h.answers hd
  each := h.each hd
  read := h.read_requests hd
  mismatch := by
    intro k r turn requested hk ht ho hne
    obtain ⟨hreq, unsent, len, last, hf, -⟩ := h.mismatch hd hk ht ho hne
    exact ⟨hreq, unsent, len, last, hf⟩

end Chronicle

namespace Run

variable {σ : Type}

/-- **Turn taking.**  The commands that a test sends are for the first requests that came since it
began, one for each of them, of its kind, and after it was read.  When the game asks for another
kind of input than the script has next, the test ends with just this error; no command is sent,
and whatever else the script has behind this input, the same would have happened. -/
theorem turns_are_taken (setup : Setup σ) (file : TestFile) (url name : String)
    (p : Performance σ) :
    let c := chronicle setup file url name p
    let x := file.expansion name
    let start := opened setup url name p
    let ended := one setup file url name p
    -- the chronicle is that of the run: its messages, its commands and its journal
    Course (begun name p) c.delivered c.read c.made c.said ended.2 ∧
    c.said.filterMap Event.sent? = c.sent.map Prod.fst ∧
    c.TakesTurns x ∧
    -- the `k`-th command is sent by a performance that has read the `k`-th request
    (∀ (k : Nat) (command : Command) (answer : Except BrowserError Unit),
      c.sent[k]? = some (command, answer) →
        ∃ (before : List Expansion.Item) (i : Input) (after : List Expansion.Item)
          (q : Performance σ), x.items = before ++ .input i :: after ∧
          (before.filterMap Expansion.Item.input?).length = k ∧
          (start.recite setup (before ++ [.input i]) []).2 = (q.send setup command).2 ∧
          Performance.Sends setup start (c.rounds.take (k + 1)) command answer q) ∧
    -- nothing behind a mismatch has any effect
    (∀ (k : Nat) (r : Round) (turn : Expansion.Turn) (requested : InputKind),
      c.rounds[k]? = some r → x.turns[k]? = some turn → r.outcome = .ok requested →
        requested ≠ turn.input.kind →
          ended.1 = .error (.protocolViolation turn.input.kind requested) ∧
          ∃ before after, x.items = before ++ .input turn.input :: after ∧
            (before.filterMap Expansion.Item.input?).length = k ∧
            ∀ after' ending,
              start.enact setup ⟨before ++ .input turn.input :: after', ending⟩ [] =
                (.error (.protocolViolation turn.input.kind requested), ended.2)) := by
  have tells := one_tells setup file url name p
  have delivered := delivered_eq setup file url name p
  refine ⟨one_course setup file url name p, Chronicle.sent?_said _, tells.takesTurns delivered,
    ?_, ?_⟩
  · intro k command answer hs
    obtain ⟨ending, turn, r, -, hk, -, -, hr⟩ := tells.of_sent hs
    obtain ⟨-, rounds⟩ := rounds_of_opened setup file url name p (tells.opened_of_round hk)
    rw [rounds] at hk ⊢
    obtain ⟨before, i, after, q, hx, hn, sends, hq⟩ :=
      Performance.recite_sends _ _ _ hk hr
    exact ⟨before, i, after, q, hx, hn, hq, sends⟩
  · intro k r turn requested hk ht ho hne
    obtain ⟨-, unsent, -, -, -, result⟩ := tells.mismatch delivered hk ht ho hne
    obtain ⟨before, after, hx, hn⟩ := Expansion.exists_input _ [] ht
    refine ⟨result, before, after, hx, hn, ?_⟩
    intro after' ending
    obtain ⟨hopen, rounds⟩ := rounds_of_opened setup file url name p (tells.opened_of_round hk)
    rw [rounds, hx, ← hn] at hk
    obtain ⟨e, q, henact, hother⟩ := Performance.enact_of_unsent (file.expansion name).ending
      (clear_opened setup url name p) hk (by simp [unsent]) after' ending
    have whole : (⟨before ++ .input turn.input :: after, (file.expansion name).ending⟩ :
        Expansion) = file.expansion name := by
      rw [← hx]
    rw [whole] at henact
    have hone : one setup file url name p = (.error e, q) := by
      rw [one_eq_enact, hopen]
      dsimp only
      rw [henact]
    rw [hone] at result
    cases result
    rw [hone]
    exact hother

end Run
end Playtest
