/-
# Rounds

The journal of a run says what was shown.  It does not say which messages were read for an
input, which request an input answered, or which checks were made and held.  A round says this
of one input: the messages that arrived and that were read, the way in which the wait ended,
the checks that were made with the text they were made on, and the command that was sent.

The rounds of a script are written along it, from the very calls that the performance makes.
They are bound to the performance in two ways.

* `recite_conversation`: they go with the inputs of the script one by one, and the way in which
  the performance ends can be read off the last of them.
* `recite_course`: they balance the books of the performance (`Course`).
-/
import Playtest.Proofs.Run.Effects
import Playtest.Proofs.Run.Inlining

namespace Playtest

/-! ## 1. Turns -/

namespace Expansion

/-- An input of a script, with the checks that stand between it and the input before it. -/
structure Turn where
  held : List Held
  input : Input
  deriving DecidableEq, Repr

/-- The turns of some items, with the checks that are held before them. -/
def turnsFrom : List Held → List Item → List Turn
  | _, [] => []
  | held, .check owner c :: items => turnsFrom (held ++ [⟨owner, c⟩]) items
  | held, .passed _ :: items => turnsFrom held items
  | held, .input i :: items => ⟨held, i⟩ :: turnsFrom [] items

/-- The checks behind the last input of some items. -/
def restFrom : List Held → List Item → List Held
  | held, [] => held
  | held, .check owner c :: items => restFrom (held ++ [⟨owner, c⟩]) items
  | held, .passed _ :: items => restFrom held items
  | _, .input _ :: items => restFrom [] items

/-- The turns of a script. -/
def turns (x : Expansion) : List Turn := turnsFrom [] x.items

/-- The checks behind the last input of a script. -/
def rest (x : Expansion) : List Held := restFrom [] x.items

/-- The input that an item gives. -/
def Item.input? : Item → Option Input
  | .input i => some i
  | _ => none

/-- The check that an item makes. -/
def Item.check? : Item → Option Held
  | .check owner c => some ⟨owner, c⟩
  | _ => none

/-- The inputs of a script, in order. -/
def inputs (x : Expansion) : List Input := x.items.filterMap Item.input?

/-- The checks of a script, in order. -/
def checks (x : Expansion) : List Held := x.items.filterMap Item.check?

theorem map_input_turnsFrom (items : List Item) (held : List Held) :
    (turnsFrom held items).map Turn.input = items.filterMap Item.input? := by
  induction items generalizing held with
  | nil => rfl
  | cons item items ih =>
    cases item with
    | check owner c => exact ih _
    | passed x => exact ih _
    | input i => exact congrArg (i :: ·) (ih [])

theorem flatMap_held_turnsFrom (items : List Item) (held : List Held) :
    (turnsFrom held items).flatMap Turn.held ++ restFrom held items =
      held ++ items.filterMap Item.check? := by
  induction items generalizing held with
  | nil => exact (List.append_nil held).symm
  | cons item items ih =>
    cases item with
    | check owner c => exact (ih (held ++ [⟨owner, c⟩])).trans (List.append_assoc _ _ _)
    | passed x => exact ih held
    | input i =>
      have := ih []
      simp only [turnsFrom, restFrom, List.flatMap_cons, List.append_assoc]
      rw [this]
      rfl

/-- The `k`-th turn stands at the `k`-th input of the items. -/
theorem exists_input (items : List Item) (held : List Held) {k : Nat} {turn : Turn}
    (h : (turnsFrom held items)[k]? = some turn) :
    ∃ before after, items = before ++ .input turn.input :: after ∧
      (before.filterMap Item.input?).length = k := by
  induction items generalizing held k with
  | nil => cases h
  | cons item items ih =>
    cases item with
    | check owner c =>
      obtain ⟨before, after, rfl, hn⟩ := ih _ h
      exact ⟨.check owner c :: before, after, rfl, hn⟩
    | passed x =>
      obtain ⟨before, after, rfl, hn⟩ := ih held h
      exact ⟨.passed x :: before, after, rfl, hn⟩
    | input i =>
      cases k with
      | zero =>
        cases h
        exact ⟨[], items, rfl, rfl⟩
      | succ k =>
        obtain ⟨before, after, rfl, hn⟩ := ih [] h
        exact ⟨.input i :: before, after, rfl, congrArg (· + 1) hn⟩

/-- The inputs of the turns are the inputs of the script. -/
theorem inputs_eq (x : Expansion) : x.turns.map Turn.input = x.inputs :=
  map_input_turnsFrom x.items []

/-- The checks of the turns, and those behind the last one, are the checks of the script. -/
theorem checks_eq (x : Expansion) : x.turns.flatMap Turn.held ++ x.rest = x.checks :=
  flatMap_held_turnsFrom x.items []

end Expansion

/-! ## 2. Rounds -/

/-- What comes of one input. -/
structure Round where
  /-- The messages that arrived, in order. -/
  delivered : List Message
  /-- The messages that the wait read, in order. -/
  read : List Message
  /-- How the wait for the request ended. -/
  outcome : Except TestError InputKind
  /-- The checks that were made, in order. -/
  made : List Made
  /-- The command that was sent, and what the page said to it. -/
  sent? : Option (Command × Except BrowserError Unit)

namespace Round

/-- The request that the round claimed. -/
def claimed (r : Round) : List InputKind :=
  match r.outcome with
  | .ok kind => [kind]
  | .error _ => []

theorem claimed_of_ok {r : Round} {kind : InputKind} (h : r.outcome = .ok kind) :
    r.claimed = [kind] := by
  rw [claimed, h]

theorem claimed_of_error {r : Round} {e : TestError} (h : r.outcome = .error e) :
    r.claimed = [] := by
  rw [claimed, h]

/-- What a round says: what was read, the checks that failed and the command. -/
def said (r : Round) : List Event :=
  r.read.flatMap Message.shown ++
    ((Made.failed r.made).map .checkFailed ++ (r.sent?.map fun s => Event.sent s.1).toList)

/-- How a round ends for an input of this kind. -/
def result (kind : InputKind) (r : Round) : Except TestError Unit :=
  match r.outcome, r.sent? with
  | .error e, _ => .error e
  | .ok requested, none => .error (.protocolViolation kind requested)
  | .ok _, some (_, .error e) => .error (.browser e)
  | .ok _, some (_, .ok ()) => .ok ()

/-- The round goes with a turn.  It reads up to a request; if one came, it makes the checks of
the turn on the texts that it read, and it sends the command for the input if that is what the
game asked for. -/
structure Fits (turn : Expansion.Turn) (r : Round) : Prop where
  read : ∃ before, Message.requests before = [] ∧
    r.read = before ++ r.claimed.map fun kind => .data (.inputRequested kind)
  made : r.made =
    match r.outcome with
    | .ok _ => Made.on (Message.texts r.read) turn.held
    | .error _ => []
  sent : r.sent?.map Prod.fst =
    match r.outcome with
    | .ok kind => if kind = turn.input.kind then some (Command.ofInput turn.input) else none
    | .error _ => none

end Round

namespace Performance

variable {σ : Type}

/-- No text is gathered and no request is parked. -/
structure Clear (p : Performance σ) : Prop where
  buffer : p.dialogue.buffer = ""
  parked : p.dialogue.parked? = none

/-- What the wait for the next request hears. -/
def hears (setup : Setup σ) (p : Performance σ) : Hearing :=
  p.dialogue.hearing (·.request?.isSome) setup.limit

/-- The performance at the end of its wait for the next request. -/
def asked (setup : Setup σ) (p : Performance σ) : Performance σ :=
  { p with dialogue := (p.dialogue.nextRequest setup.limit).2 }

/-- The round of an input, as far as the checks. -/
def judged (setup : Setup σ) (held : List Held) (requested : InputKind) (p : Performance σ) :
    Round where
  delivered := (p.hears setup).delivered ++ (p.asked setup).broughtByFlush setup held
  read := (p.hears setup).read
  outcome := .ok requested
  made := Made.on (p.asked setup).dialogue.buffer held
  sent? := none

/-- The round of an input: what `giveInput` does. -/
def round (setup : Setup σ) (input : Input) (held : List Held) (p : Performance σ) : Round :=
  match (p.dialogue.nextRequest setup.limit).1 with
  | .error e =>
    { delivered := (p.hears setup).delivered ++
        broughtByEnd setup (.error e : Except TestError InputKind) (p.asked setup)
      read := (p.hears setup).read
      outcome := .error e
      made := []
      sent? := none }
  | .ok requested =>
    let judged := p.judged setup held requested
    if requested ≠ input.kind then judged
    else
      let flushed := (p.asked setup).flush setup held
      let command := Command.ofInput input
      let answer := (setup.world.send command flushed.world).1
      { judged with
        delivered := judged.delivered ++ broughtBy answer flushed.dialogue.channel
        sent? := some (command, answer.result) }

section
variable (setup : Setup σ) (input : Input) (held : List Held) {p : Performance σ}

/-- A wait for a request that ends with an error. -/
theorem giveInput_of_error {setup : Setup σ} {e : TestError}
    (h : (p.dialogue.nextRequest setup.limit).1 = .error e) :
    p.giveInput setup input held =
      (.error e, (p.waited setup (p.dialogue.nextRequest setup.limit)).2) := by
  rw [giveInput, waited_of_error h]

/-- A wait for a request that ends with one. -/
theorem giveInput_of_ok {setup : Setup σ} {requested : InputKind}
    (h : (p.dialogue.nextRequest setup.limit).1 = .ok requested) :
    p.giveInput setup input held =
      if requested ≠ input.kind then
        (.error (.protocolViolation input.kind requested), (p.asked setup).flush setup held)
      else
        let sent := ((p.asked setup).flush setup held).send setup (Command.ofInput input)
        (sent.1.mapError .browser, sent.2) := by
  rw [giveInput, waited_of_ok h]
  dsimp only
  split
  · rfl
  · split
    · next hs => rw [asked, hs]; rfl
    · next hs => rw [asked, hs]; rfl

/-- The wait for a request reads what it hears. -/
theorem course_asked (p : Performance σ) :
    Course p (p.hears setup).delivered (p.hears setup).read []
      ((p.hears setup).read.flatMap Message.shown) (p.asked setup) := by
  refine Course.ofHearing (·.request?.isSome) setup.limit p ?_ ?_
  · rw [Dialogue.nextRequest_eq]
    rfl
  · rw [Dialogue.nextRequest_eq]
    rfl

/-- The text that is gathered at the end of a wait is what the wait read. -/
theorem buffer_asked (h : p.Clear) :
    (p.asked setup).dialogue.buffer = Message.texts (p.hears setup).read := by
  have : (p.asked setup).dialogue.buffer =
      p.dialogue.buffer ++ Message.texts (p.hears setup).read := by
    rw [asked, Dialogue.nextRequest_eq]
    rfl
  rw [this, h.buffer, String.empty_append]

theorem parked_asked (p : Performance σ) :
    (p.asked setup).dialogue.parked? = none := by
  rw [asked, Dialogue.nextRequest_eq]

/-- A wait for a request reads other messages, and then the request, if it ends with one. -/
theorem hears_read (h : p.Clear) :
    ∃ before, Message.requests before = [] ∧
      match (p.dialogue.nextRequest setup.limit).1 with
      | .ok kind => (p.hears setup).read = before ++ [.data (.inputRequested kind)]
      | .error _ => (p.hears setup).read = before := by
  obtain ⟨before, hb, he, hr⟩ := Channel.hear_read (·.request?.isSome)
    (p.dialogue.deadline setup.limit) p.dialogue.channel
  have hx : p.hears setup =
      p.dialogue.channel.hear (·.request?.isSome) (p.dialogue.deadline setup.limit) :=
    Dialogue.hearing_of_free h.parked
  have ho : (p.dialogue.nextRequest setup.limit).1 =
      Dialogue.requestOutcome setup.limit (p.hears setup).ended := by
    rw [Dialogue.nextRequest_eq]
    rfl
  rw [← hx] at he hr
  refine ⟨before, ?_, ?_⟩
  · exact List.filterMap_eq_nil_iff.2 fun m hm => by simpa using hb m hm
  · rw [ho, hr]
    rcases hended : (p.hears setup).ended with m | _ | _
    · rw [hended] at he
      obtain ⟨kind, hk⟩ := Option.isSome_iff_exists.1 (he m (List.mem_singleton.2 rfl))
      rw [Message.eq_of_request? hk]
      rfl
    · exact List.append_nil before
    · exact List.append_nil before

/-- The checks of a round and its request. -/
theorem fits_judged {setup : Setup σ} {requested : InputKind} (h : p.Clear)
    (ho : (p.dialogue.nextRequest setup.limit).1 = .ok requested) :
    (∃ before, Message.requests before = [] ∧
      (p.judged setup held requested).read =
        before ++ [.data (.inputRequested requested)]) ∧
    (p.judged setup held requested).made =
      Made.on (Message.texts (p.judged setup held requested).read) held := by
  refine ⟨?_, ?_⟩
  · obtain ⟨before, hb, hr⟩ := hears_read setup h
    rw [ho] at hr
    exact ⟨before, hb, hr⟩
  · exact congrArg (Made.on · held) (buffer_asked setup h)

/-- **The round of an input goes with its turn.** -/
theorem fits_round (h : p.Clear) :
    (p.round setup input held).Fits ⟨held, input⟩ := by
  unfold round
  rcases ho : (p.dialogue.nextRequest setup.limit).1 with e | requested
  · obtain ⟨before, hb, hr⟩ := hears_read setup h
    rw [ho] at hr
    exact ⟨⟨before, hb, hr.trans (List.append_nil before).symm⟩, rfl, rfl⟩
  · obtain ⟨hread, hmade⟩ := fits_judged held h ho
    dsimp only
    split
    · next hk => exact ⟨hread, hmade, (if_neg hk).symm⟩
    · next hk => exact ⟨hread, hmade, (if_pos (Decidable.not_not.1 hk)).symm⟩

/-- The result of an input can be read off its round. -/
theorem giveInput_fst (p : Performance σ) :
    (p.giveInput setup input held).1 = (p.round setup input held).result input.kind := by
  unfold round
  rcases ho : (p.dialogue.nextRequest setup.limit).1 with e | requested
  · rw [giveInput_of_error input held ho]
    rfl
  · rw [giveInput_of_ok input held ho]
    dsimp only
    split
    · rfl
    · have hs : (((p.asked setup).flush setup held).send setup (Command.ofInput input)).1 =
          (setup.world.send (Command.ofInput input)
            ((p.asked setup).flush setup held).world).1.result := rfl
      rw [hs]
      cases (setup.world.send (Command.ofInput input)
        ((p.asked setup).flush setup held).world).1.result <;> rfl

/-- The checks are made on what the wait read. -/
theorem course_judged (requested : InputKind) (p : Performance σ) :
    Course p (p.judged setup held requested).delivered (p.judged setup held requested).read
      (p.judged setup held requested).made (p.judged setup held requested).said
      ((p.asked setup).flush setup held) := by
  have flushed := (judges_flush setup held (p.asked setup)).course
  have whole := (course_asked setup p).trans flushed
  simpa [judged, Round.said] using whole

/-- A command is said, and what the page posts meanwhile arrives. -/
theorem course_send (command : Command) (p : Performance σ) :
    Course p (broughtBy (setup.world.send command p.world).1 p.dialogue.channel) [] []
      [.sent command] (p.send setup command).2 where
  queue := (arrives_answered (p.record (.sent command)) _).queue.symm
  errors := rfl
  failures := (List.append_nil _).symm
  said := said_record p rfl

/-- **The round of an input balances the books.** -/
theorem course_giveInput (p : Performance σ) :
    Course p (p.round setup input held).delivered (p.round setup input held).read
      (p.round setup input held).made (p.round setup input held).said
      (p.giveInput setup input held).2 := by
  unfold round
  rcases ho : (p.dialogue.nextRequest setup.limit).1 with e | requested
  · rw [giveInput_of_error input held ho]
    have ended := (arrives_waited setup p (p.dialogue.nextRequest setup.limit)).course
    rw [ho] at ended
    have whole := (course_asked setup p).trans ended
    rw [List.append_nil (p.hears setup).read] at whole
    exact whole
  · rw [giveInput_of_ok input held ho]
    dsimp only
    split
    · exact course_judged setup held requested p
    · have whole := (course_judged setup held requested p).trans
        (course_send setup (Command.ofInput input) ((p.asked setup).flush setup held))
      simpa [judged, Round.said] using whole

/-- An input that was sent leaves nothing gathered and nothing parked. -/
theorem clear_giveInput {setup : Setup σ} {input : Input} {held : List Held}
    (h : (p.giveInput setup input held).1 = .ok ()) :
    (p.giveInput setup input held).2.Clear := by
  rcases ho : (p.dialogue.nextRequest setup.limit).1 with e | requested
  · rw [giveInput_of_error input held ho] at h
    cases h
  · have flushed := judges_flush setup held (p.asked setup)
    rw [giveInput_of_ok input held ho] at h ⊢
    split at h
    · cases h
    · next hk =>
      rw [if_neg hk]
      exact ⟨flushed.buffer, flushed.parked.trans (parked_asked setup p)⟩

end

end Performance

/-! ## 3. Conversations -/

/-- The rounds go with the turns one by one, up to the first round that does not end well, and
the conversation ends as the last of them does. -/
inductive Conversation :
    List Expansion.Turn → List Round → Except TestError Unit → Prop where
  | done : Conversation [] [] (.ok ())
  | stopped {turn turns r e} (fits : r.Fits turn) (failed : r.result turn.input.kind = .error e) :
    Conversation (turn :: turns) [r] (.error e)
  | answered {turn turns r rounds result} (fits : r.Fits turn)
    (sent : r.result turn.input.kind = .ok ()) (more : Conversation turns rounds result) :
    Conversation (turn :: turns) (r :: rounds) result

namespace Performance

variable {σ : Type}

/-- The rounds of some items: what `recite` does. -/
def rounds (setup : Setup σ) : List Expansion.Item → List Held → Performance σ → List Round
  | [], _, _ => []
  | .check owner c :: items, held, p => rounds setup items (held ++ [⟨owner, c⟩]) p
  | .passed x :: items, held, p =>
    rounds setup items held (p.record (.warned (Activation.warning x.test x.line)))
  | .input i :: items, held, p =>
    p.round setup i held ::
      match p.giveInput setup i held with
      | (.error _, _) => []
      | (.ok (), p) => rounds setup items [] p

/-- A note in the journal leaves everything clear. -/
theorem Clear.record {p : Performance σ} (h : p.Clear) (event : Event) : (p.record event).Clear :=
  ⟨h.buffer, h.parked⟩

section
variable (setup : Setup σ)

/-- **To recite is to converse.**  The checks that are left are those behind the last input. -/
theorem recite_conversation (items : List Expansion.Item) (held : List Held) {p : Performance σ}
    (h : p.Clear) :
    ∃ result, Conversation (Expansion.turnsFrom held items) (p.rounds setup items held) result ∧
      (p.recite setup items held).1 = result.map fun _ => Expansion.restFrom held items := by
  induction items generalizing held p with
  | nil => exact ⟨.ok (), .done, rfl⟩
  | cons item items ih =>
    cases item with
    | check owner c => exact ih _ h
    | passed x => exact ih held (h.record _)
    | input i =>
      have fits := fits_round setup i held h
      have ends := giveInput_fst setup i held p
      rw [recite, rounds, Expansion.turnsFrom]
      rcases hg : p.giveInput setup i held with ⟨e | u, p'⟩
      · rw [hg] at ends
        exact ⟨.error e, .stopped fits ends.symm, rfl⟩
      · rw [hg] at ends
        have clear : (p.giveInput setup i held).2.Clear := clear_giveInput (by rw [hg])
        rw [hg] at clear
        obtain ⟨result, more, hr⟩ := ih [] clear
        exact ⟨result, .answered fits ends.symm more, hr⟩

/-- **Reciting balances the books of all its rounds.** -/
theorem recite_course (items : List Expansion.Item) (held : List Held) (p : Performance σ) :
    Course p ((p.rounds setup items held).flatMap Round.delivered)
      ((p.rounds setup items held).flatMap Round.read)
      ((p.rounds setup items held).flatMap Round.made)
      ((p.rounds setup items held).flatMap Round.said) (p.recite setup items held).2 := by
  induction items generalizing held p with
  | nil => exact Course.refl p
  | cons item items ih =>
    cases item with
    | check owner c => exact ih _ p
    | passed x => exact (arrives_record p rfl).course.trans (ih held _)
    | input i =>
      have first := course_giveInput setup i held p
      rw [recite, rounds]
      rcases hg : p.giveInput setup i held with ⟨e | u, p'⟩
      · rw [hg] at first
        exact first.trans (Course.refl p')
      · rw [hg] at first
        exact first.trans (ih [] p')

/-- Reciting to the end leaves nothing gathered and nothing parked. -/
theorem clear_recite {setup : Setup σ} (items : List Expansion.Item) (held : List Held)
    {p p' : Performance σ}
    {left : List Held} (h : p.Clear) (hr : p.recite setup items held = (.ok left, p')) :
    p'.Clear := by
  induction items generalizing held p with
  | nil =>
    cases hr
    exact h
  | cons item items ih =>
    cases item with
    | check owner c => exact ih _ h hr
    | passed x => exact ih held (h.record _) hr
    | input i =>
      rw [recite] at hr
      rcases hg : p.giveInput setup i held with ⟨e | u, q⟩
      · rw [hg] at hr
        cases hr
      · have clear : (p.giveInput setup i held).2.Clear := clear_giveInput (by rw [hg])
        rw [hg] at clear hr
        exact ih [] clear hr

/-- **A script ends as its conversation does**, or as it says itself when nothing is left. -/
theorem enact_conversation (x : Expansion) {p : Performance σ} (h : p.Clear) :
    (∃ e, Conversation x.turns (p.rounds setup x.items []) (.error e) ∧
      (p.enact setup x []).1 = .error e) ∨
    (Conversation x.turns (p.rounds setup x.items []) (.ok ()) ∧
      (p.enact setup x []).1 = conclude x.ending x.rest) := by
  obtain ⟨result, talk, hr⟩ := recite_conversation setup x.items [] h
  rw [enact]
  rcases hp : p.recite setup x.items [] with ⟨e | left, p'⟩ <;> rw [hp] at hr
  · rcases result with e' | u
    · cases hr
      exact .inl ⟨e, talk, rfl⟩
    · cases hr
  · rcases result with e' | u
    · cases hr
    · cases hr
      exact .inr ⟨talk, rfl⟩

/-- A script that ends well is complete, the checks behind its last input are left, and all is
clear. -/
theorem enact_of_ok {setup : Setup σ} {x : Expansion} {left : List Held} {p p' : Performance σ}
    (h : p.Clear)
    (he : p.enact setup x [] = (.ok left, p')) :
    Conversation x.turns (p.rounds setup x.items []) (.ok ()) ∧ x.ending = .complete ∧
      left = x.rest ∧ p'.Clear := by
  have ends : (p.enact setup x []).1 = .ok left := by rw [he]
  rcases enact_conversation setup x h with ⟨e, -, hx⟩ | ⟨talk, hx⟩
  · rw [hx] at ends
    cases ends
  · obtain ⟨complete, hl⟩ := conclude_eq_ok (hx.symm.trans ends)
    refine ⟨talk, complete, hl, ?_⟩
    have hp := enact_snd setup x [] p
    rcases hr : p.recite setup x.items [] with ⟨e | held, q⟩
    · rw [enact, hr] at he
      cases he
    · rw [he, hr] at hp
      have : p' = q := hp
      rw [this]
      exact clear_recite x.items [] h hr

end

end Performance

end Playtest
