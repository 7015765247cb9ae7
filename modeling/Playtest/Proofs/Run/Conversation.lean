/-
# What a conversation amounts to

A `Conversation` gives the rounds of a script one after the other (`Proofs/Run/Rounds.lean`).
This file says what they amount to together, in terms of the messages that were read.

All rounds but the last have claimed a request and sent a command.  So the messages that the
first `k` rounds have read end with the `k`-th request, and the next round starts to read right
behind it: there the text begins on which the next checks are made.
-/
import Playtest.Proofs.Run.Rounds

namespace Playtest

/-! ## 1. Requests as landmarks -/

namespace Message

/-- The messages behind the first `n` requests. -/
def afterRequests : Nat → List Message → List Message
  | 0, messages => messages
  | n + 1, messages =>
    afterRequests n ((messages.dropWhile fun m => m.request?.isNone).drop 1)

/-- The text between the `k`-th request and the next one, counted from one; for `k = 0` it
begins with the first message. -/
def window (k : Nat) (messages : List Message) : String :=
  texts ((afterRequests k messages).takeWhile fun m => m.request?.isNone)

section
variable {before : List Message} (hb : requests before = [])
include hb

theorem request?_isNone_of_mem : ∀ m ∈ before, m.request?.isNone = true := by
  intro m hm
  have := List.filterMap_eq_nil_iff.1 hb m hm
  rw [this]
  rfl

/-- The messages behind the first request. -/
theorem afterRequests_succ (n : Nat) (kind : InputKind) (rest : List Message) :
    afterRequests (n + 1) (before ++ .data (.inputRequested kind) :: rest) =
      afterRequests n rest := by
  rw [afterRequests, List.dropWhile_append_of_pos (request?_isNone_of_mem hb)]
  rfl

/-- The text before the first request. -/
theorem window_zero (kind : InputKind) (rest : List Message) :
    window 0 (before ++ .data (.inputRequested kind) :: rest) = texts before := by
  rw [window, afterRequests, List.takeWhile_append_of_pos (request?_isNone_of_mem hb)]
  exact congrArg texts (List.append_nil before)

end

/-- A line for the log is no part of a window, and neither is what comes behind it. -/
example :
    window 1 [.data (.bufferText "One"), .data (.inputRequested .line), .log "ready",
      .data (.bufferText "Two"), .data (.inputRequested .char), .data (.bufferText "Three")] =
      "Two" := by
  decide

end Message

/-! ## 2. Rounds that claim a request -/

namespace Round

/-- The round has read messages up to a request, and claimed it. -/
def Claims (r : Round) : Prop :=
  ∃ kind before, r.outcome = .ok kind ∧ Message.requests before = [] ∧
    r.read = before ++ [.data (.inputRequested kind)]

theorem Fits.claims {r : Round} {turn : Expansion.Turn} {kind : InputKind} (fits : r.Fits turn)
    (ho : r.outcome = .ok kind) : r.Claims := by
  obtain ⟨before, hb, hr⟩ := fits.read
  rw [claimed_of_ok ho] at hr
  exact ⟨kind, before, ho, hb, hr⟩

/-- A round that ends well has claimed the request it needed, and its command was sent. -/
theorem Fits.of_sent {r : Round} {turn : Expansion.Turn} (fits : r.Fits turn)
    (h : r.result turn.input.kind = .ok ()) :
    r.outcome = .ok turn.input.kind ∧
      r.sent? = some (Command.ofInput turn.input, .ok ()) := by
  have hs := fits.sent
  unfold result at h
  rcases ho : r.outcome with e | kind
  · rw [ho] at h
    cases h
  · rcases hr : r.sent? with _ | ⟨command, e | u⟩
    · rw [ho, hr] at h
      cases h
    · rw [ho, hr] at h
      cases h
    · rw [ho, hr] at hs
      dsimp only at hs
      by_cases hk : kind = turn.input.kind
      · rw [if_pos hk] at hs
        cases hs
        exact ⟨by rw [hk], rfl⟩
      · rw [if_neg hk] at hs
        cases hs

/-- A command is sent only for the kind of input that was requested. -/
theorem Fits.of_command {r : Round} {turn : Expansion.Turn} (fits : r.Fits turn)
    {s : Command × Except BrowserError Unit} (h : r.sent? = some s) :
    s.1 = Command.ofInput turn.input ∧ r.outcome = .ok turn.input.kind := by
  have hs := fits.sent
  rw [h] at hs
  rcases ho : r.outcome with e | kind
  · rw [ho] at hs
    cases hs
  · rw [ho] at hs
    dsimp only at hs
    by_cases hk : kind = turn.input.kind
    · rw [if_pos hk] at hs
      exact ⟨Option.some.inj hs, by rw [hk]⟩
    · rw [if_neg hk] at hs
      cases hs

variable {rounds : List Round}

/-- Rounds that claim a request claim all requests that they read. -/
theorem requests_read (h : ∀ r ∈ rounds, r.Claims) :
    Message.requests (rounds.flatMap read) = rounds.flatMap claimed := by
  induction rounds with
  | nil => rfl
  | cons r rounds ih =>
    obtain ⟨kind, before, ho, hb, hr⟩ := h r List.mem_cons_self
    have more := ih fun s hs => h s (List.mem_cons_of_mem r hs)
    rw [List.flatMap_cons, List.flatMap_cons, Message.requests_append, more, hr,
      Message.requests_append, hb, claimed_of_ok ho]
    rfl

theorem length_claimed (h : ∀ r ∈ rounds, r.Claims) :
    (rounds.flatMap claimed).length = rounds.length := by
  induction rounds with
  | nil => rfl
  | cons r rounds ih =>
    obtain ⟨kind, before, ho, -, -⟩ := h r List.mem_cons_self
    have more := ih fun s hs => h s (List.mem_cons_of_mem r hs)
    rw [List.flatMap_cons, List.length_append, more, claimed_of_ok ho]
    exact Nat.add_comm 1 rounds.length

/-- They are the first requests of all that is read. -/
theorem requests_take (h : ∀ r ∈ rounds, r.Claims) (rest : List Message) :
    (Message.requests (rounds.flatMap read ++ rest)).take rounds.length =
      Message.requests (rounds.flatMap read) := by
  rw [Message.requests_append, ← length_claimed h, ← requests_read h, List.take_left]

/-- What rounds that claim a request have read ends with the last request. -/
theorem afterRequests_read (h : ∀ r ∈ rounds, r.Claims) (tail : List Message) :
    Message.afterRequests rounds.length (rounds.flatMap read ++ tail) = tail := by
  induction rounds with
  | nil => rfl
  | cons r rounds ih =>
    obtain ⟨kind, before, -, hb, hr⟩ := h r List.mem_cons_self
    have more := ih fun s hs => h s (List.mem_cons_of_mem r hs)
    rw [List.flatMap_cons, hr, List.length_cons]
    simp only [List.append_assoc, List.cons_append, List.nil_append]
    rw [Message.afterRequests_succ hb, more]

/-- Behind rounds that claim a request, the next round reads the next window and claims the
next request. -/
theorem Claims.next {before : List Round} (h : ∀ s ∈ before, s.Claims) {r : Round}
    (claims : r.Claims) (rest : List Message) :
    ∃ kind, r.outcome = .ok kind ∧
      (Message.requests (before.flatMap read ++ (r.read ++ rest)))[before.length]? = some kind ∧
      Message.window before.length (before.flatMap read ++ (r.read ++ rest)) =
        Message.texts r.read := by
  obtain ⟨kind, others, ho, hb, hr⟩ := claims
  have first : r.read ++ rest = others ++ .data (.inputRequested kind) :: rest := by simp [hr]
  refine ⟨kind, ho, ?_, ?_⟩
  · rw [Message.requests_append, requests_read h, ← length_claimed h,
      List.getElem?_append_right (Nat.le_refl _), Nat.sub_self, first, Message.requests_append, hb]
    rfl
  · rw [Message.window, afterRequests_read h, first]
    have := Message.window_zero hb kind rest
    rw [Message.window, Message.afterRequests] at this
    rw [this, hr, Message.texts_append]
    exact (String.append_empty).symm

end Round

/-! ## 3. Conversations -/

namespace Conversation

variable {turns : List Expansion.Turn} {rounds : List Round} {result : Except TestError Unit}

/-- **Every round goes with its turn**, and all rounds before it have claimed a request. -/
theorem round (h : Conversation turns rounds result) {k : Nat} {r : Round}
    (hk : rounds[k]? = some r) :
    ∃ turn before after, turns[k]? = some turn ∧ r.Fits turn ∧ rounds = before ++ r :: after ∧
      before.length = k ∧ ∀ s ∈ before, s.Claims := by
  induction h generalizing k with
  | done => cases hk
  | @stopped turn turns r' e fits failed =>
    cases k with
    | zero =>
      cases hk
      exact ⟨turn, [], [], rfl, fits, rfl, rfl, by simp⟩
    | succ k => cases hk
  | @answered turn turns r' rounds result fits sent more ih =>
    cases k with
    | zero =>
      cases hk
      exact ⟨turn, [], rounds, rfl, fits, rfl, rfl, by simp⟩
    | succ k =>
      obtain ⟨turn', before, after, ht, hf, hr, hl, hb⟩ := ih hk
      refine ⟨turn', r' :: before, after, ht, hf, congrArg (r' :: ·) hr, ?_, ?_⟩
      · exact congrArg (· + 1) hl
      · intro s hs
        rcases List.mem_cons.1 hs with rfl | hs
        · exact fits.claims (fits.of_sent sent).1
        · exact hb s hs

/-- **The `k`-th round claims the `k`-th request**, it reads the window before it, and by then
the requests up to this one have been read. -/
theorem claims (h : Conversation turns rounds result) {k : Nat} {r : Round}
    (hk : rounds[k]? = some r) {kind : InputKind} (ho : r.outcome = .ok kind)
    (tail : List Message) :
    (Message.requests (rounds.flatMap Round.read ++ tail))[k]? = some kind ∧
      Message.window k (rounds.flatMap Round.read ++ tail) = Message.texts r.read ∧
      Message.requests ((rounds.take (k + 1)).flatMap Round.read) =
        (Message.requests (rounds.flatMap Round.read ++ tail)).take (k + 1) := by
  obtain ⟨turn, before, after, -, fits, rfl, rfl, hb⟩ := h.round hk
  have hr := fits.claims ho
  obtain ⟨kind', ho', hreq, hwin⟩ :=
    Round.Claims.next hb hr (after.flatMap Round.read ++ tail)
  rw [ho] at ho'
  cases ho'
  have upTo : ∀ s ∈ before ++ [r], s.Claims := by
    intro s hs
    rcases List.mem_append.1 hs with hs | hs
    · exact hb s hs
    · exact List.mem_singleton.1 hs ▸ hr
  have split : before ++ r :: after = (before ++ [r]) ++ after := by simp
  have read := Round.requests_take upTo (after.flatMap Round.read ++ tail)
  refine ⟨?_, ?_, ?_⟩
  · simpa using hreq
  · simpa using hwin
  · have len : before.length + 1 = (before ++ [r]).length := by simp
    rw [← List.append_assoc, ← List.flatMap_append, ← split, ← len] at read
    rw [read, split, len, List.take_left]

/-- **Which inputs are reached.**  An input is reached if the commands for all inputs before it
were sent well. -/
theorem reached_iff (h : Conversation turns rounds result) (k : Nat) :
    (∃ r, rounds[k]? = some r) ↔
      k < turns.length ∧
        ∀ j < k, ∃ r command, rounds[j]? = some r ∧ r.sent? = some (command, .ok ()) := by
  induction h generalizing k with
  | done => simp
  | @stopped turn turns r' e fits failed =>
    cases k with
    | zero => simp
    | succ k =>
      constructor
      · rintro ⟨r, hr⟩
        cases hr
      · rintro ⟨-, hj⟩
        obtain ⟨r, command, hr, hs⟩ := hj 0 (Nat.succ_pos k)
        cases hr
        -- a round whose command was sent well does not fail
        obtain ⟨-, ho⟩ := fits.of_command hs
        rw [Round.result, ho, hs] at failed
        cases failed
  | @answered turn turns r' rounds result fits sent more ih =>
    cases k with
    | zero => simp
    | succ k =>
      have first := (fits.of_sent sent).2
      rw [List.getElem?_cons_succ, ih k, List.length_cons, Nat.add_lt_add_iff_right]
      constructor
      · rintro ⟨hk, hj⟩
        refine ⟨hk, ?_⟩
        intro j hlt
        cases j with
        | zero => exact ⟨r', _, rfl, first⟩
        | succ j => exact hj j (Nat.lt_of_succ_lt_succ hlt)
      · rintro ⟨hk, hj⟩
        exact ⟨hk, fun j hlt => hj (j + 1) (Nat.succ_lt_succ hlt)⟩

/-- **A round that fails is the last one**, and the conversation ends as it does. -/
theorem failed_last (h : Conversation turns rounds result) {k : Nat} {r : Round}
    {turn : Expansion.Turn} {e : TestError} (hk : rounds[k]? = some r)
    (ht : turns[k]? = some turn) (hr : r.result turn.input.kind = .error e) :
    result = .error e ∧ rounds.length = k + 1 := by
  induction h generalizing k with
  | done => cases hk
  | @stopped turn' turns r' e' fits failed =>
    cases k with
    | zero =>
      cases hk
      cases ht
      rw [hr] at failed
      cases failed
      exact ⟨rfl, rfl⟩
    | succ k => cases hk
  | @answered turn' turns r' rounds result fits sent more ih =>
    cases k with
    | zero =>
      cases hk
      cases ht
      rw [hr] at sent
      cases sent
    | succ k =>
      obtain ⟨hres, len⟩ := ih hk ht
      exact ⟨hres, congrArg (· + 1) len⟩

/-- The `k`-th command is the command of the `k`-th round. -/
theorem sent_getElem? (h : Conversation turns rounds result) (k : Nat) :
    (rounds.filterMap Round.sent?)[k]? = rounds[k]?.bind Round.sent? := by
  induction h generalizing k with
  | done => rfl
  | @stopped turn turns r' e fits failed =>
    cases hs : r'.sent? with
    | none => cases k <;> simp [hs]
    | some s => cases k <;> simp [hs]
  | @answered turn turns r' rounds result fits sent more ih =>
    rw [List.filterMap_cons, (fits.of_sent sent).2]
    cases k with
    | zero => exact (fits.of_sent sent).2.symm
    | succ k => exact ih k

/-- **Which checks are made.**  They are the checks of as many turns as requests were
claimed. -/
theorem held_made (h : Conversation turns rounds result) :
    (rounds.flatMap Round.made).map Made.held =
      (turns.take (rounds.flatMap Round.claimed).length).flatMap Expansion.Turn.held := by
  induction h with
  | done => rfl
  | @stopped turn turns r' e fits failed =>
    have hm := fits.made
    rcases ho : r'.outcome with e' | kind
    · rw [ho] at hm
      simp [hm, Round.claimed_of_error ho]
    · rw [ho] at hm
      simp [hm, Round.claimed_of_ok ho]
  | @answered turn turns r' rounds result fits sent more ih =>
    obtain ⟨ho, -⟩ := fits.of_sent sent
    have hm := fits.made
    rw [ho] at hm
    rw [List.flatMap_cons, List.map_append, ih, hm, Made.map_held_on, List.flatMap_cons,
      Round.claimed_of_ok ho]
    rfl

/-- A conversation that ends well has answered every turn. -/
theorem all_sent (h : Conversation turns rounds result) (hr : result = .ok ()) :
    rounds.filterMap Round.sent? =
        turns.map (fun turn => (Command.ofInput turn.input, .ok ())) ∧
      rounds.length = turns.length ∧ ∀ r ∈ rounds, r.Claims := by
  induction h with
  | done => exact ⟨rfl, rfl, by simp⟩
  | stopped fits failed => cases hr
  | @answered turn turns r' rounds result fits sent more ih =>
    obtain ⟨ho, hs⟩ := fits.of_sent sent
    obtain ⟨hsent, hlen, hclaims⟩ := ih hr
    refine ⟨?_, ?_, ?_⟩
    · rw [List.filterMap_cons, hs, hsent]
      rfl
    · rw [List.length_cons, hlen, List.length_cons]
    · intro r hm
      rcases List.mem_cons.1 hm with rfl | hm
      · exact fits.claims ho
      · exact hclaims r hm

/-- A conversation in which every turn was answered ends well. -/
theorem result_of_sent (h : Conversation turns rounds result)
    (hs : rounds.filterMap Round.sent? =
      turns.map fun turn => (Command.ofInput turn.input, .ok ())) : result = .ok () := by
  induction h with
  | done => rfl
  | @stopped turn turns r' e fits failed =>
    cases hc : r'.sent? with
    | none => simp [hc] at hs
    | some s =>
      -- the only command was not sent well, or the round would not have failed
      obtain ⟨-, ho⟩ := fits.of_command hc
      have hok : s = (Command.ofInput turn.input, .ok ()) := by
        simp only [List.filterMap_cons, hc, List.map_cons, List.cons.injEq] at hs
        exact hs.1
      rw [Round.result, ho, hc, hok] at failed
      cases failed
  | @answered turn turns r' rounds result fits sent more ih =>
    rw [List.filterMap_cons, (fits.of_sent sent).2] at hs
    exact ih (List.cons.inj hs).2

end Conversation
end Playtest
