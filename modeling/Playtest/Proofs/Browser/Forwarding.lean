/-
# From the page's calls to the text

The page calls the functions that are bound in it, with any names and any payloads.  The calls
are forwarded into the channel as messages, and the driver's side absorbs these in any mix of
waits for input and draining.  This file follows the calls all the way.

What a call comes to is said of its name and its payload alone: the text, the request, and what
is reported (`BoundCall.text?`, `request?` and `report`).  Once the queue is empty, all of it has
come through, in the order of the calls, and nothing else has (`calls_come_through`).

That nothing arrives meanwhile needs no look at the waits: the account of the messages that are
pending and the account of the queue leave no room for another message
(`delivered_of_nothing_posted`).
-/
import Playtest.Browser.Page
import Playtest.Proofs.Run.Conservation

namespace Playtest

/-! ## 1. Calls of bound functions -/

/-- A call that the page makes: the name of a function, and what it is given. -/
structure BoundCall where
  name : String
  payload : String
  deriving DecidableEq, Repr

namespace BoundCall

/-- The call as a browser tells of it. -/
def event (call : BoundCall) : PageEvent := .bound call.name call.payload

/-- What the call's payload says, if the call brings data that can be read. -/
def data? (call : BoundCall) : Option BridgeEvent :=
  if call.name = dataBinding then (BridgeEvent.decode call.payload).toOption else none

/-- The text that the call brings. -/
def text? (call : BoundCall) : Option String :=
  match call.data? with
  | some (.bufferText text) => some text
  | _ => none

/-- The kind of input that the call asks for. -/
def request? (call : BoundCall) : Option InputKind :=
  match call.data? with
  | some (.inputRequested kind) => some kind
  | _ => none

/-- The line of the log for a payload that cannot be read. -/
def complaint (payload : String) (fault : Json.Fault) : String :=
  "regtest: malformed bridge payload: " ++ fault.describe payload.toList

theorem complaint_eq (payload : String) (fault : Json.Fault) :
    "regtest: " ++ (BrowserError.malformedPayload (fault.describe payload.toList)).message =
      complaint payload fault := by
  have front : "regtest: " ++ "malformed bridge payload: " =
      "regtest: malformed bridge payload: " := rfl
  calc "regtest: " ++ ("malformed bridge payload: " ++ fault.describe payload.toList)
      = "regtest: " ++ "malformed bridge payload: " ++ fault.describe payload.toList :=
        String.append_assoc.symm
    _ = complaint payload fault := congrArg (· ++ fault.describe payload.toList) front

/-- What is reported of the call: its text, its line for the log, or the complaint about it. -/
def report (call : BoundCall) : List Event :=
  if call.name = dataBinding then
    match BridgeEvent.decode call.payload with
    | .ok (.bufferText text) => [.output text]
    | .ok (.inputRequested _) => []
    | .error fault => [.log (complaint call.payload fault)]
  else if call.name = logBinding then [.log call.payload]
  else []

/-- The call brings data that cannot be read. -/
def IsMalformed (call : BoundCall) : Prop :=
  call.name = dataBinding ∧ ∃ fault, BridgeEvent.decode call.payload = .error fault

/-- The messages that calls are forwarded as. -/
def forwarded (calls : List BoundCall) : List Message := PageEvent.messages (calls.map event)

theorem forwarded_cons (call : BoundCall) (calls : List BoundCall) :
    forwarded (call :: calls) = call.event.message?.toList ++ forwarded calls := by
  rw [forwarded, PageEvent.messages, List.map_cons, List.filterMap_cons]
  cases call.event.message? <;> rfl

/-! ## 2. What a call is forwarded as -/

/-- Every call is forwarded as one message at most, which says what the call comes to. -/
theorem message?_event (call : BoundCall) :
    (call.event.message?.bind Message.request?) = call.request? ∧
      String.join (call.text?.toList) = Message.texts call.event.message?.toList ∧
      call.event.message?.toList.flatMap Message.shown = call.report := by
  unfold request? text? report data?
  by_cases hd : call.name = dataBinding
  · have data : call.event.message? = some
        (match BridgeEvent.decode call.payload with
        | .ok event => .data event
        | .error fault => .log (complaint call.payload fault)) := by
      simp only [event, PageEvent.message?, Message.ofBinding, if_pos hd]
      cases BridgeEvent.decode call.payload with
      | ok event => rfl
      | error fault =>
        exact congrArg (fun line => some (Message.log line)) (complaint_eq call.payload fault)
    rw [data, if_pos hd, if_pos hd]
    rcases BridgeEvent.decode call.payload with fault | ⟨text⟩ | ⟨kind⟩
    · exact ⟨rfl, rfl, rfl⟩
    · refine ⟨rfl, ?_, rfl⟩
      simp [Except.toOption, Message.texts, Message.text, String.join]
    · exact ⟨rfl, rfl, rfl⟩
  · rw [if_neg hd, if_neg hd]
    by_cases hl : call.name = logBinding
    · have log : call.event.message? = some (.log call.payload) := by
        simp only [event, PageEvent.message?, Message.ofBinding, if_neg hd, if_pos hl]
      rw [log, if_pos hl]
      exact ⟨rfl, rfl, rfl⟩
    · have none : call.event.message? = none := by
        simp only [event, PageEvent.message?, Message.ofBinding, if_neg hd, if_neg hl]
      rw [none, if_neg hl]
      exact ⟨rfl, rfl, rfl⟩

theorem requests_forwarded (calls : List BoundCall) :
    Message.requests (forwarded calls) = calls.filterMap request? := by
  induction calls with
  | nil => rfl
  | cons call calls ih =>
    have here := (message?_event call).1
    rw [forwarded_cons, Message.requests_append, ih, List.filterMap_cons, ← here]
    cases call.event.message? with
    | none => rfl
    | some m => cases hm : m.request? <;> simp [Message.requests, hm]

theorem texts_forwarded (calls : List BoundCall) :
    Message.texts (forwarded calls) = String.join (calls.filterMap text?) := by
  induction calls with
  | nil => rfl
  | cons call calls ih =>
    have here := (message?_event call).2.1
    have split : (call :: calls).filterMap text? = call.text?.toList ++ calls.filterMap text? := by
      rw [List.filterMap_cons]
      cases call.text? <;> rfl
    rw [forwarded_cons, Message.texts_append, ih, split, String.join_append, here]

theorem shown_forwarded (calls : List BoundCall) :
    (forwarded calls).flatMap Message.shown = calls.flatMap report := by
  induction calls with
  | nil => rfl
  | cons call calls ih =>
    rw [forwarded_cons, List.flatMap_append, ih, (message?_event call).2.2, List.flatMap_cons]

/-- A payload that cannot be read is forwarded as a line for the log. -/
theorem message?_of_isMalformed {call : BoundCall} (h : call.IsMalformed) :
    ∃ line, call.event.message? = some (.log line) := by
  obtain ⟨data, fault, unread⟩ := h
  simp only [event, PageEvent.message?, Message.ofBinding, if_pos data, unread]
  exact ⟨_, rfl⟩

/-- The conversation in which calls have been forwarded and nothing has been read. -/
def conversation (calls : List BoundCall) : Dialogue :=
  { channel := ({} : Channel).emitAll (PageEvent.emissions (calls.map event)) }

theorem channel_conversation (calls : List BoundCall) :
    (conversation calls).channel = { queue := forwarded calls } := by
  have all (messages : List Message) (ch : Channel) (h : ch.isOpen = true) :
      ch.emitAll (messages.map .now) = { ch with queue := ch.queue ++ messages } := by
    induction messages generalizing ch with
    | nil => simp [Channel.emitAll]
    | cons m messages ih =>
      have posted : ch.emit (.now m) = { ch with queue := ch.queue ++ [m] } := if_pos h
      have rest := ih { ch with queue := ch.queue ++ [m] } h
      rw [List.append_assoc] at rest
      rw [List.map_cons, Channel.emitAll, List.foldl_cons, posted]
      exact rest
  exact all (forwarded calls) {} rfl

end BoundCall

/-! ## 3. Absorbing -/

namespace Dialogue

/-- The moves that absorb messages: waits for input, and draining. -/
def Move.Absorbs : Move → Prop
  | .nextRequest _ => True
  | .drain => True
  | _ => False

instance (move : Move) : Decidable move.Absorbs :=
  match move with
  | .nextRequest _ | .drain => inferInstanceAs (Decidable True)
  | .emit _ | .sleep _ | .arrive | .finalOutput _ | .takeBuffer | .reset =>
    inferInstanceAs (Decidable False)

/-- What absorbs hands out no text. -/
theorem took?_marks {move : Move} (h : move.Absorbs) (d : Dialogue) :
    (d.marks move).filterMap Mark.took? = [] := by
  cases move with
  | nextRequest limit =>
    rw [marks, List.filterMap_append, filterMap_unmarked Mark.took? Mark.heard fun _ => rfl,
      filterMap_unmarked Mark.took? Mark.claimed fun _ => rfl, List.append_nil]
  | drain => exact took?_drainMarks _ d
  | _ => cases h

/-- What absorbs forgets nothing that it reads. -/
theorem absorbed?_marks {move : Move} (h : move.Absorbs) (d : Dialogue) :
    (d.marks move).filterMap Mark.absorbed? = (d.marks move).filterMap Mark.read? := by
  cases move with
  | nextRequest limit =>
    rw [marks, List.filterMap_append, List.filterMap_append, absorbed?_heard, read?_heard]
    rw [filterMap_unmarked Mark.absorbed? Mark.claimed fun _ => rfl,
      filterMap_unmarked Mark.read? Mark.claimed fun _ => rfl]
  | drain => rw [marks, absorbed?_drainMarks, read?_drainMarks]
  | _ => cases h

section
variable {moves : List Move} (h : ∀ move ∈ moves, move.Absorbs)
include h

/-- Nothing is posted by what absorbs. -/
theorem along_posts_eq_nil (d : Dialogue) : along posts d moves = [] := by
  induction moves generalizing d with
  | nil => rfl
  | cons move moves ih =>
    have none : posts d move = [] := by
      cases move with
      | emit e => cases h _ List.mem_cons_self
      | _ => rfl
    rw [along, none, List.nil_append]
    exact ih (fun m hm => h m (List.mem_cons_of_mem move hm)) _

theorem along_took?_eq_nil (d : Dialogue) : (along marks d moves).filterMap Mark.took? = [] := by
  induction moves generalizing d with
  | nil => rfl
  | cons move moves ih =>
    rw [along, List.filterMap_append, took?_marks (h move List.mem_cons_self), List.nil_append]
    exact ih (fun m hm => h m (List.mem_cons_of_mem move hm)) _

theorem along_absorbed?_eq (d : Dialogue) :
    (along marks d moves).filterMap Mark.absorbed? =
      (along marks d moves).filterMap Mark.read? := by
  induction moves generalizing d with
  | nil => rfl
  | cons move moves ih =>
    rw [along, List.filterMap_append, List.filterMap_append,
      absorbed?_marks (h move List.mem_cons_self)]
    exact congrArg _ (ih (fun m hm => h m (List.mem_cons_of_mem move hm)) _)

theorem gathers_along (d : Dialogue) : Gathers d (along marks d moves) (d.performAll moves) := by
  induction moves generalizing d with
  | nil => exact .of_same rfl rfl
  | cons move moves ih =>
    have kept : move ≠ .reset := by
      rintro rfl
      cases h _ List.mem_cons_self
    exact (gathers_perform d kept).trans
      (ih (fun m hm => h m (List.mem_cons_of_mem move hm)) (d.perform move))

end

/-- Where nothing is under way and nothing is posted, nothing arrives: there is no message left
that could. -/
theorem delivered_of_nothing_posted {d d' : Dialogue} {delivered : List Message}
    {marks : List Mark} (reads : Reads d [] delivered marks d')
    (settled : d.channel.scheduled = []) : delivered = [] := by
  have queue := congrArg List.length reads.queue
  have pending := reads.pending.length_eq
  simp only [List.length_append, Channel.pending, Channel.underWay, settled, List.map_nil,
    List.length_nil] at queue pending
  exact List.eq_nil_of_length_eq_zero (by omega)

/-- What absorbs up to an empty queue has read just what was there. -/
theorem read_of_emptied {moves : List Move} (h : ∀ move ∈ moves, move.Absorbs) {d : Dialogue}
    (settled : d.channel.scheduled = []) (emptied : (d.performAll moves).channel.queue = []) :
    (along marks d moves).filterMap Mark.read? = d.channel.queue := by
  have reads := reads_performAll moves d
  rw [along_posts_eq_nil h] at reads
  have queue := reads.queue
  rw [delivered_of_nothing_posted reads settled, emptied, List.append_nil, List.append_nil] at queue
  exact queue.symm

/-! ## 4. Waits -/

/-- A line for the log ends no wait. -/
theorem waits_of_log (line : String) (limit : Duration) :
    let d : Dialogue := { channel := { queue := [.log line] } }
    (d.nextRequest limit).1 = .error (.timeout .inputRequest limit) ∧
      (d.finalOutput limit).1 = .error (.timeout .finalOutput limit) := by
  intro d
  have unwanted {wanted : Message → Bool} (h : wanted (.log line) = false) :
      (d.hearing wanted limit).ended = .late := by
    have free : d.parked? = none := rfl
    have first (deadline : Nat) :
        d.channel.receive deadline = (.message (.log line), ({} : Channel)) := rfl
    have second (deadline : Nat) :
        ({} : Channel).receive deadline = (.late, { now := max 0 deadline }) := rfl
    rw [hearing_of_free free, Channel.hear_of_unwanted (first _) h]
    exact congrArg Hearing.ended (Channel.hear_of_none (second _) (by simp))
  rw [nextRequest_eq, finalOutput_eq]
  exact ⟨by rw [unwanted rfl]; rfl, by rw [unwanted rfl]; rfl⟩

/-! ## 5. All calls -/

/-- **The page's calls come through.**  The calls are forwarded, and then absorbed in any mix of
waits for input and draining, until the queue is empty.

* The text is that of the payloads that can be read as text, in the order of the calls, and the
  requests that were absorbed are those of the payloads that can be read as requests.
* Reported are the texts, the lines for the log as they are, and one line for every payload that
  cannot be read, in the order of the calls; calls of other functions leave no trace.
* The requests that were handed out, and the one that is parked, are among those of the calls, in
  their order.
* A payload that cannot be read ends no wait. -/
theorem calls_come_through (calls : List BoundCall) {moves : List Move}
    (absorbing : ∀ move ∈ moves, move.Absorbs)
    (emptied : ((BoundCall.conversation calls).performAll moves).channel.queue = []) :
    let start := BoundCall.conversation calls
    let d := start.performAll moves
    let all := along marks start moves
    d.buffer = String.join (calls.filterMap BoundCall.text?) ∧
    Message.requests (all.filterMap Mark.absorbed?) = calls.filterMap BoundCall.request? ∧
    d.journal.map TimedEvent.event = calls.flatMap BoundCall.report ∧
    (all.filterMap Mark.claimed? ++ d.parked?.toList).Sublist
      (calls.filterMap BoundCall.request?) ∧
    ∀ call ∈ calls, call.IsMalformed → ∀ limit,
      ((BoundCall.conversation [call]).nextRequest limit).1 =
          .error (.timeout .inputRequest limit) ∧
        ((BoundCall.conversation [call]).finalOutput limit).1 =
          .error (.timeout .finalOutput limit) := by
  intro start d all
  have absorbed : all.filterMap Mark.absorbed? = BoundCall.forwarded calls := by
    have read := read_of_emptied absorbing (d := start)
      (by rw [BoundCall.channel_conversation]) emptied
    rw [BoundCall.channel_conversation] at read
    exact (along_absorbed?_eq absorbing start).trans read
  have gathers := gathers_along absorbing start
  refine ⟨?_, ?_, ?_, ?_, ?_⟩
  · have text := gathers.text
    rw [along_took?_eq_nil absorbing] at text
    rw [← BoundCall.texts_forwarded, ← absorbed]
    exact (String.empty_append.symm.trans text).trans String.empty_append
  · rw [absorbed, BoundCall.requests_forwarded]
  · rw [← BoundCall.shown_forwarded, ← absorbed]
    exact (reads_performAll moves start).journal
  · rw [← BoundCall.requests_forwarded, ← absorbed]
    exact gathers.requests ▸ Mark.kept_sublist all
  · intro call _ malformed limit
    obtain ⟨line, forwarded⟩ := BoundCall.message?_of_isMalformed malformed
    have alone : BoundCall.conversation [call] = { channel := { queue := [.log line] } } := by
      have channel := BoundCall.channel_conversation [call]
      rw [BoundCall.forwarded_cons, forwarded] at channel
      exact congrArg (fun ch => ({ channel := ch } : Dialogue)) channel
    rw [alone]
    exact waits_of_log line limit

/-- A turn with a payload that breaks off, a line that looks like data, and a call of a function
that is not bound. -/
theorem calls_of_garbled_turn :
    let calls : List BoundCall :=
      [⟨"regtest_data", "\x7b\"type\":\"buffertext\",\"text\":\"West of \"\x7d"⟩,
        ⟨"regtest_data", "\x7b\"type\":\"buffertext\",\"text\":"⟩,
        ⟨"regtest_log", "\x7b\"type\":"⟩,
        ⟨"regtest_event", "\x7b\"type\":\"input_requested\",\"kind\":\"char\"\x7d"⟩,
        ⟨"regtest_data", "\x7b\"type\":\"input_requested\",\"kind\":\"line\"\x7d"⟩,
        ⟨"regtest_data", "\x7b\"text\":\"House\",\"type\":\"buffertext\"\x7d"⟩]
    let moves : List Move := [.nextRequest (Duration.ofSeconds 1), .drain]
    (∀ move ∈ moves, move.Absorbs) ∧
      ((BoundCall.conversation calls).performAll moves).channel.queue = [] ∧
      ((BoundCall.conversation calls).performAll moves).buffer = "West of House" := by
  intro calls moves
  have absorbing : ∀ move ∈ moves, move.Absorbs := by decide
  have emptied : ((BoundCall.conversation calls).performAll moves).channel.queue = [] := by
    decide +kernel
  have through := calls_come_through calls absorbing emptied
  refine ⟨absorbing, emptied, through.1.trans ?_⟩
  decide +kernel

end Dialogue
end Playtest
