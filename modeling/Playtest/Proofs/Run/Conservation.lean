/-
# Nothing is lost in a conversation

The driver's side of a conversation is moved by five operations, in any order: two waits,
draining, taking the text and forgetting everything.  Between them the page emits messages and
time passes.  This file keeps the history of such a conversation, and it shows that no message
is lost, doubled or put out of order, whatever the moves are and however the waits end.

What a move does is written down as marks: what was read and how, what was handed out, and that
everything was forgotten.  `Reads` is the account of the messages and of the journal, and every
move keeps it (`reads_perform`).  `Gathers` is the account of the text and of the requests; every
move but forgetting keeps it, and forgetting begins it anew.
-/
import Playtest.Proofs.Run.Transit

namespace Playtest
namespace Dialogue

open scoped List

/-! ## 1. Moves and marks -/

/-- A move of a conversation. -/
inductive Move where
  /-- The page posts a message, or closes its end. -/
  | emit (emission : Emission)
  /-- Milliseconds pass. -/
  | sleep (ms : Nat)
  /-- What is due by now arrives. -/
  | arrive
  | nextRequest (limit : Duration)
  | finalOutput (limit : Duration)
  | drain
  | takeBuffer
  | reset
  deriving DecidableEq, Repr

/-- The dialogue after a move. -/
def perform (d : Dialogue) : Move → Dialogue
  | .emit e => { d with channel := d.channel.emit e }
  | .sleep ms => { d with channel := d.channel.sleep ms }
  | .arrive => { d with channel := d.channel.arrive }
  | .nextRequest limit => (d.nextRequest limit).2
  | .finalOutput limit => (d.finalOutput limit).2
  | .drain => d.drain
  | .takeBuffer => d.takeBuffer.2
  | .reset => d.reset

/-- What a move may leave a mark of. -/
inductive Mark where
  /-- A wait read a message. -/
  | heard (m : Message)
  /-- Draining read a message, and this says whether a request was parked by then. -/
  | drained (m : Message) (parked : Bool)
  /-- Forgetting read a message. -/
  | discarded (m : Message)
  /-- A wait handed out a request. -/
  | claimed (kind : InputKind)
  /-- The text gathered so far was handed out. -/
  | took (text : String)
  /-- Everything was forgotten. -/
  | forgot
  deriving DecidableEq, Repr

namespace Mark

/-- The message that was read. -/
def read? : Mark → Option Message
  | .heard m => some m
  | .drained m _ => some m
  | .discarded m => some m
  | _ => none

/-- The message that was absorbed: it was read, and not to be forgotten. -/
def absorbed? : Mark → Option Message
  | .heard m => some m
  | .drained m _ => some m
  | _ => none

/-- The request that was absorbed, unless it was drained while another one was parked. -/
def kept? : Mark → Option InputKind
  | .heard m => m.request?
  | .drained m false => m.request?
  | _ => none

/-- The request that was handed out. -/
def claimed? : Mark → Option InputKind
  | .claimed kind => some kind
  | _ => none

/-- The text that was handed out. -/
def took? : Mark → Option String
  | .took text => some text
  | _ => none

/-- The marks since everything was forgotten the last time, with one more. -/
def andThen (recent : List Mark) : Mark → List Mark
  | .forgot => []
  | mark => recent ++ [mark]

/-- The marks since everything was forgotten the last time. -/
def recent (marks : List Mark) : List Mark := marks.foldl andThen []

theorem recent_append_of_quiet (marks : List Mark) {more : List Mark} (h : .forgot ∉ more) :
    recent (marks ++ more) = recent marks ++ more := by
  induction more generalizing marks with
  | nil => simp
  | cons mark more ih =>
    have first : recent (marks ++ [mark]) = recent marks ++ [mark] := by
      rw [recent, List.foldl_append]
      cases mark with
      | forgot => exact absurd List.mem_cons_self h
      | _ => rfl
    have rest := ih (marks ++ [mark]) fun hm => h (List.mem_cons_of_mem mark hm)
    rw [first] at rest
    simpa using rest

theorem recent_append_forgot (marks : List Mark) : recent (marks ++ [.forgot]) = [] := by
  rw [recent, List.foldl_append]
  rfl

/-- A request that was kept was absorbed. -/
theorem kept_sublist (marks : List Mark) :
    (marks.filterMap kept?).Sublist (Message.requests (marks.filterMap absorbed?)) := by
  induction marks with
  | nil => exact .refl _
  | cons mark marks ih =>
    cases mark with
    | heard m =>
      cases hm : m.request? <;> simp [kept?, absorbed?, Message.requests, hm] <;> exact ih
    | drained m parked =>
      cases hm : m.request? <;> cases parked <;>
        simp [kept?, absorbed?, Message.requests, hm] <;> first | exact ih | exact ih.cons _
    | discarded m => exact ih
    | claimed kind => exact ih
    | took text => exact ih
    | forgot => exact ih

end Mark

/-- The marks of draining these messages. -/
def drainMarks : List Message → Dialogue → List Mark
  | [], _ => []
  | m :: messages, d => .drained m d.parked?.isSome :: drainMarks messages (d.absorbParking m)

/-- The request that a wait hands out. -/
def handed : Except TestError InputKind → List InputKind
  | .ok kind => [kind]
  | .error _ => []

/-- The marks of a move. -/
def marks (d : Dialogue) : Move → List Mark
  | .emit _ => []
  | .sleep _ => []
  | .arrive => []
  | .nextRequest limit =>
    (d.hearing (·.request?.isSome) limit).read.map .heard ++
      (handed (d.nextRequest limit).1).map .claimed
  | .finalOutput limit => (d.hearing Message.isData limit).read.map .heard
  | .drain => drainMarks d.channel.queue d
  | .takeBuffer => [.took d.takeBuffer.1]
  | .reset => d.channel.queue.map .discarded ++ [.forgot]

/-- The messages that a move posts. -/
def posts (d : Dialogue) : Move → List Message
  | .emit e => d.channel.posted [e]
  | _ => []

/-- The messages that arrive with a move. -/
def receives (d : Dialogue) : Move → List Message
  | .emit e => Channel.postedBy d.channel.isOpen [e]
  | .sleep ms => d.channel.dueWithin ms
  | .arrive => d.channel.due
  | .nextRequest limit => (d.hearing (·.request?.isSome) limit).delivered
  | .finalOutput limit => (d.hearing Message.isData limit).delivered
  | _ => []

/-! ## 2. The account of the messages -/

/-- The account of the messages from `d` to `d'`.  What was in the queue and what arrived is what
was read, in this order, and what is in the queue; what was pending and what was posted is what
was read and what is pending; and the journal has what was absorbed, in this order. -/
structure Reads (d : Dialogue) (posted delivered : List Message) (marks : List Mark)
    (d' : Dialogue) : Prop where
  queue : d.channel.queue ++ delivered = marks.filterMap Mark.read? ++ d'.channel.queue
  pending : Carries d posted (marks.filterMap Mark.read?) d'
  journal : d'.journal.map TimedEvent.event =
    d.journal.map TimedEvent.event ++ (marks.filterMap Mark.absorbed?).flatMap Message.shown

/-- The account of what is gathered from `d` to `d'`: the texts that were handed out and the text
that is gathered then are the text that was gathered and what was absorbed, and the requests that
were handed out and the one that is parked then are the one that was parked and those that were
kept. -/
structure Gathers (d : Dialogue) (marks : List Mark) (d' : Dialogue) : Prop where
  text : String.join (marks.filterMap Mark.took?) ++ d'.buffer =
    d.buffer ++ Message.texts (marks.filterMap Mark.absorbed?)
  requests : marks.filterMap Mark.claimed? ++ d'.parked?.toList =
    d.parked?.toList ++ marks.filterMap Mark.kept?

section
variable {d d' d'' : Dialogue} {posted posted' delivered delivered' : List Message}
  {marks marks' : List Mark}

theorem Reads.refl (d : Dialogue) : Reads d [] [] [] d :=
  ⟨List.append_nil _, .refl d, (List.append_nil _).symm⟩

theorem Reads.trans (h : Reads d posted delivered marks d')
    (h' : Reads d' posted' delivered' marks' d'') :
    Reads d (posted ++ posted') (delivered ++ delivered') (marks ++ marks') d'' where
  queue := by
    rw [List.filterMap_append, ← List.append_assoc, h.queue, List.append_assoc, h'.queue,
      List.append_assoc]
  pending := by
    rw [List.filterMap_append]
    exact h.pending.trans h'.pending
  journal := by
    rw [h'.journal, h.journal, List.filterMap_append, List.flatMap_append, List.append_assoc]

/-- Nothing is gathered or handed out. -/
theorem Gathers.of_same (buffer : d'.buffer = d.buffer) (parked : d'.parked? = d.parked?) :
    Gathers d [] d' := by
  refine ⟨?_, ?_⟩
  · rw [buffer]
    exact String.empty_append.trans String.append_empty.symm
  · rw [parked]
    exact (List.append_nil _).symm

theorem Gathers.trans (h : Gathers d marks d') (h' : Gathers d' marks' d'') :
    Gathers d (marks ++ marks') d'' where
  text := by
    rw [List.filterMap_append, List.filterMap_append, String.join_append, Message.texts_append,
      String.append_assoc, h'.text, ← String.append_assoc, h.text, String.append_assoc]
  requests := by
    rw [List.filterMap_append, List.filterMap_append, List.append_assoc, h'.requests,
      ← List.append_assoc, h.requests, List.append_assoc]

end

/-! ## 3. The moves -/

/-! ### Marks of one kind -/

theorem filterMap_marked {α : Type} (f : Mark → Option α) (mark : α → Mark)
    (h : ∀ x, f (mark x) = some x) (xs : List α) : (xs.map mark).filterMap f = xs := by
  have same : f ∘ mark = some := funext h
  rw [List.filterMap_map, same]
  exact List.filterMap_some

theorem filterMap_unmarked {α β : Type} (f : Mark → Option α) (mark : β → Mark)
    (h : ∀ x, f (mark x) = none) (xs : List β) : (xs.map mark).filterMap f = [] := by
  rw [List.filterMap_map]
  exact List.filterMap_eq_nil_iff.2 fun x _ => h x

section
variable (messages : List Message)

theorem read?_heard : (messages.map Mark.heard).filterMap Mark.read? = messages :=
  filterMap_marked Mark.read? Mark.heard (fun _ => rfl) messages

theorem absorbed?_heard : (messages.map Mark.heard).filterMap Mark.absorbed? = messages :=
  filterMap_marked Mark.absorbed? Mark.heard (fun _ => rfl) messages

theorem kept?_heard :
    (messages.map Mark.heard).filterMap Mark.kept? = Message.requests messages := by
  rw [List.filterMap_map]
  rfl

variable (d : Dialogue)

theorem read?_drainMarks :
    (drainMarks messages d).filterMap Mark.read? = messages := by
  induction messages generalizing d with
  | nil => rfl
  | cons m messages ih => exact congrArg (m :: ·) (ih _)

theorem absorbed?_drainMarks :
    (drainMarks messages d).filterMap Mark.absorbed? = messages := by
  induction messages generalizing d with
  | nil => rfl
  | cons m messages ih => exact congrArg (m :: ·) (ih _)

theorem claimed?_drainMarks : (drainMarks messages d).filterMap Mark.claimed? = [] := by
  induction messages generalizing d with
  | nil => rfl
  | cons m messages ih => exact ih _

theorem took?_drainMarks : (drainMarks messages d).filterMap Mark.took? = [] := by
  induction messages generalizing d with
  | nil => rfl
  | cons m messages ih => exact ih _

/-- Draining keeps a request only if none is parked, and parks it. -/
theorem kept?_drainMarks :
    (messages.foldl absorbParking d).parked?.toList =
      d.parked?.toList ++ (drainMarks messages d).filterMap Mark.kept? := by
  induction messages generalizing d with
  | nil => exact (List.append_nil _).symm
  | cons m messages ih =>
    have first : (d.absorbParking m).parked?.toList =
        d.parked?.toList ++ [Mark.drained m d.parked?.isSome].filterMap Mark.kept? := by
      cases hm : m.request? with
      | none =>
        have same : (d.absorbParking m).parked? = d.parked? := by
          cases m with
          | data event => cases event <;> first | rfl | cases hm
          | log line => rfl
        have lost (parked : Bool) : [Mark.drained m parked].filterMap Mark.kept? = [] := by
          cases parked <;> simp [Mark.kept?, hm]
        rw [same, lost, List.append_nil]
      | some kind =>
        rw [Message.eq_of_request? hm]
        cases hp : d.parked? <;> simp [absorbParking, park, hp] <;> rfl
    calc ((m :: messages).foldl absorbParking d).parked?.toList
        = (d.absorbParking m).parked?.toList ++
            (drainMarks messages (d.absorbParking m)).filterMap Mark.kept? := ih _
      _ = d.parked?.toList ++ ([Mark.drained m d.parked?.isSome].filterMap Mark.kept? ++
            (drainMarks messages (d.absorbParking m)).filterMap Mark.kept?) := by
          rw [first, List.append_assoc]
      _ = d.parked?.toList ++ (drainMarks (m :: messages) d).filterMap Mark.kept? := by
          rw [← List.filterMap_append]
          rfl

end

/-! ### Waiting -/

/-- What a wait hears leaves everything as it is in a hearing. -/
theorem reads_hearing (wanted : Message → Bool) (limit : Duration) {d d' : Dialogue}
    (channel : d'.channel = (d.hearing wanted limit).channel)
    (journal : d'.journal = d.journal ++ (d.hearing wanted limit).shown) :
    Reads d [] (d.hearing wanted limit).delivered
      ((d.hearing wanted limit).read.map .heard) d' where
  queue := by
    rw [read?_heard, channel]
    exact d.hearing_conserves wanted limit
  pending := by
    rw [read?_heard]
    exact carries_hearing wanted limit channel
  journal := by
    rw [absorbed?_heard, journal, List.map_append, map_event_hearing]

/-- More marks that no message goes with. -/
theorem Reads.andMarks {d d' : Dialogue} {posted delivered : List Message} {marks more : List Mark}
    (h : Reads d posted delivered marks d') (hr : more.filterMap Mark.read? = [])
    (ha : more.filterMap Mark.absorbed? = []) :
    Reads d posted delivered (marks ++ more) d' where
  queue := by
    rw [List.filterMap_append, hr, List.append_nil]
    exact h.queue
  pending := by
    rw [List.filterMap_append, hr, List.append_nil]
    exact h.pending
  journal := by
    rw [List.filterMap_append, ha, List.append_nil]
    exact h.journal

/-- A wait that a request ends hears no request but that one. -/
theorem requests_hear {wanted : Message → Bool}
    (all : ∀ m, m.request?.isSome = true → wanted m = true) (deadline : Nat) (ch : Channel) :
    Message.requests (ch.hear wanted deadline).read =
      Message.requests (ch.hear wanted deadline).ended.messages := by
  obtain ⟨before, others, -, hread⟩ := Channel.hear_read wanted deadline ch
  have none : Message.requests before = [] := by
    refine List.filterMap_eq_nil_iff.2 ?_
    intro m hm
    cases hr : m.request? with
    | none => rfl
    | some kind =>
      have := all m (by rw [hr]; rfl)
      rw [others m hm] at this
      cases this
  rw [hread, Message.requests_append, none]
  rfl

/-- The request that a wait for requests hands out is the one that was parked, or the one that it
hears. -/
theorem claims_nextRequest (limit : Duration) (d : Dialogue) :
    handed (d.nextRequest limit).1 =
      d.parked?.toList ++ Message.requests (d.hearing (·.request?.isSome) limit).read := by
  rw [nextRequest_eq]
  cases hp : d.parked? with
  | some kind =>
    rw [hearing_of_parked hp]
    rfl
  | none =>
    obtain ⟨-, -, wanted, -⟩ :=
      Channel.hear_read (·.request?.isSome) (d.deadline limit) d.channel
    rw [hearing_of_free hp, requests_hear (fun m h => h)]
    rcases hended : (d.channel.hear (·.request?.isSome) (d.deadline limit)).ended with m | _ | _
    · rw [hended] at wanted
      obtain ⟨kind, hk⟩ := Option.isSome_iff_exists.1 (wanted m (List.mem_singleton.2 rfl))
      rw [Message.eq_of_request? hk]
      rfl
    · rfl
    · rfl

/-- The request that is parked behind a wait for output is the one that was parked, or the one
that it hears. -/
theorem parks_finalOutput (limit : Duration) (d : Dialogue) :
    (d.finalOutput limit).2.parked?.toList =
      d.parked?.toList ++ Message.requests (d.hearing Message.isData limit).read := by
  have isData (m : Message) (h : m.request?.isSome = true) : m.isData = true := by
    obtain ⟨kind, hk⟩ := Option.isSome_iff_exists.1 h
    rw [Message.eq_of_request? hk]
    rfl
  rw [finalOutput_eq]
  cases hp : d.parked? with
  | some kind =>
    rw [hearing_of_parked hp]
    simp [parking, park, heard, hp, Message.requests]
  | none =>
    rw [hearing_of_free hp, requests_hear isData]
    have free : (d.heard (d.channel.hear Message.isData (d.deadline limit))).parked? = none := hp
    rcases (d.channel.hear Message.isData (d.deadline limit)).ended with m | _ | _
    · cases m with
      | data event =>
        cases event with
        | bufferText text => exact congrArg Option.toList free
        | inputRequested kind => simp [parking, park, free, Channel.Received.messages,
            Message.requests, Message.request?]
      | log line => exact congrArg Option.toList free
    · exact congrArg Option.toList free
    · exact congrArg Option.toList free

/-! ### The operations -/

theorem reads_nextRequest (limit : Duration) (d : Dialogue) :
    Reads d [] (d.receives (.nextRequest limit)) (d.marks (.nextRequest limit))
      (d.nextRequest limit).2 := by
  have heard : Reads d [] (d.hearing (·.request?.isSome) limit).delivered
      ((d.hearing (·.request?.isSome) limit).read.map .heard) (d.nextRequest limit).2 := by
    refine reads_hearing _ limit ?_ ?_
    · rw [nextRequest_eq]
      rfl
    · rw [nextRequest_eq]
      rfl
  exact heard.andMarks (filterMap_unmarked Mark.read? Mark.claimed (fun _ => rfl) _)
    (filterMap_unmarked Mark.absorbed? Mark.claimed (fun _ => rfl) _)

theorem gathers_nextRequest (limit : Duration) (d : Dialogue) :
    Gathers d (d.marks (.nextRequest limit)) (d.nextRequest limit).2 where
  text := by
    have took : (d.marks (.nextRequest limit)).filterMap Mark.took? = [] := by
      rw [marks, List.filterMap_append, filterMap_unmarked Mark.took? Mark.heard fun _ => rfl,
        filterMap_unmarked Mark.took? Mark.claimed fun _ => rfl, List.append_nil]
    have absorbed : (d.marks (.nextRequest limit)).filterMap Mark.absorbed? =
        (d.hearing (·.request?.isSome) limit).read := by
      rw [marks, List.filterMap_append, absorbed?_heard,
        filterMap_unmarked Mark.absorbed? Mark.claimed fun _ => rfl, List.append_nil]
    rw [took, absorbed, nextRequest_eq]
    exact String.empty_append
  requests := by
    have claimed : (d.marks (.nextRequest limit)).filterMap Mark.claimed? =
        handed (d.nextRequest limit).1 := by
      rw [marks, List.filterMap_append,
        filterMap_unmarked Mark.claimed? Mark.heard fun _ => rfl,
        filterMap_marked Mark.claimed? Mark.claimed fun _ => rfl, List.nil_append]
    have kept : (d.marks (.nextRequest limit)).filterMap Mark.kept? =
        Message.requests (d.hearing (·.request?.isSome) limit).read := by
      rw [marks, List.filterMap_append, kept?_heard,
        filterMap_unmarked Mark.kept? Mark.claimed fun _ => rfl, List.append_nil]
    have free : (d.nextRequest limit).2.parked? = none := by rw [nextRequest_eq]
    rw [claimed, kept, free]
    exact (List.append_nil _).trans (claims_nextRequest limit d)

theorem reads_finalOutput (limit : Duration) (d : Dialogue) :
    Reads d [] (d.receives (.finalOutput limit)) (d.marks (.finalOutput limit))
      (d.finalOutput limit).2 := by
  refine reads_hearing Message.isData limit ?_ ?_
  · rw [finalOutput_eq]
    exact channel_parking _ _
  · rw [finalOutput_eq]
    exact journal_parking _ _

theorem gathers_finalOutput (limit : Duration) (d : Dialogue) :
    Gathers d (d.marks (.finalOutput limit)) (d.finalOutput limit).2 where
  text := by
    have gathered : (d.finalOutput limit).2.buffer =
        d.buffer ++ Message.texts (d.hearing Message.isData limit).read := by
      rw [finalOutput_eq]
      exact buffer_parking _ _
    rw [marks, filterMap_unmarked Mark.took? Mark.heard fun _ => rfl, absorbed?_heard, gathered]
    exact String.empty_append
  requests := by
    rw [marks, filterMap_unmarked Mark.claimed? Mark.heard fun _ => rfl, kept?_heard]
    exact parks_finalOutput limit d

theorem reads_drain (d : Dialogue) : Reads d [] [] (d.marks .drain) d.drain where
  queue := by
    rw [marks, read?_drainMarks, drain_eq]
  pending := by
    rw [marks, read?_drainMarks]
    exact carries_drain d
  journal := by
    rw [marks, absorbed?_drainMarks, drain_eq, List.map_append, List.map_map]
    exact congrArg _ (List.map_id _)

theorem gathers_drain (d : Dialogue) : Gathers d (d.marks .drain) d.drain where
  text := by
    rw [marks, took?_drainMarks, absorbed?_drainMarks, drain_eq]
    exact String.empty_append
  requests := by
    have parks := kept?_drainMarks d.channel.queue d
    rw [foldl_absorbParking] at parks
    rw [marks, claimed?_drainMarks, drain_eq]
    exact parks

theorem reads_takeBuffer (d : Dialogue) : Reads d [] [] (d.marks .takeBuffer) d.takeBuffer.2 := by
  have emptied : Reads d [] [] [] d.takeBuffer.2 :=
    ⟨List.append_nil _, (Carries.refl d).keeping rfl, (List.append_nil _).symm⟩
  have took : [Mark.took d.takeBuffer.1].filterMap Mark.absorbed? = [] := rfl
  exact emptied.andMarks rfl took

theorem reads_reset (d : Dialogue) : Reads d [] [] (d.marks .reset) d.reset := by
  have read : (d.channel.queue.map Mark.discarded).filterMap Mark.read? = d.channel.queue :=
    filterMap_marked Mark.read? Mark.discarded (fun _ => rfl) d.channel.queue
  have discarded : Reads d [] [] (d.channel.queue.map .discarded) d.reset := by
    refine ⟨?_, ?_, ?_⟩
    · rw [read]
      rfl
    · rw [Carries, read, List.append_nil]
      exact .refl _
    · rw [filterMap_unmarked Mark.absorbed? Mark.discarded fun _ => rfl]
      exact (List.append_nil _).symm
  exact discarded.andMarks rfl rfl

/-! ### All moves -/

/-- **Every move keeps the account of the messages.** -/
theorem reads_perform (d : Dialogue) (move : Move) :
    Reads d (d.posts move) (d.receives move) (d.marks move) (d.perform move) := by
  cases move with
  | emit e =>
    exact ⟨(Channel.queue_emitAll d.channel [e]).symm, carries_emitAll [e] d,
      (List.append_nil _).symm⟩
  | sleep ms =>
    exact ⟨(Channel.queue_sleep d.channel ms).symm,
      (Carries.refl d).keeping (Channel.pending_sleep d.channel ms), (List.append_nil _).symm⟩
  | arrive =>
    exact ⟨rfl, (Carries.refl d).keeping (Channel.pending_arrive d.channel),
      (List.append_nil _).symm⟩
  | nextRequest limit => exact reads_nextRequest limit d
  | finalOutput limit => exact reads_finalOutput limit d
  | drain => exact reads_drain d
  | takeBuffer => exact reads_takeBuffer d
  | reset => exact reads_reset d

/-- **Every move but forgetting keeps the account of what is gathered.** -/
theorem gathers_perform (d : Dialogue) {move : Move} (h : move ≠ .reset) :
    Gathers d (d.marks move) (d.perform move) := by
  cases move with
  | emit e => exact .of_same rfl rfl
  | sleep ms => exact .of_same rfl rfl
  | arrive => exact .of_same rfl rfl
  | nextRequest limit => exact gathers_nextRequest limit d
  | finalOutput limit => exact gathers_finalOutput limit d
  | drain => exact gathers_drain d
  | takeBuffer => exact ⟨rfl, (List.append_nil _).symm⟩
  | reset => exact absurd rfl h

/-! ## 4. Conversations of any length -/

/-- The dialogue after moves in a row. -/
def performAll (d : Dialogue) (moves : List Move) : Dialogue := moves.foldl perform d

/-- What comes of each of some moves in a row, put together. -/
def along {α : Type} (f : Dialogue → Move → List α) : Dialogue → List Move → List α
  | _, [] => []
  | d, move :: moves => f d move ++ along f (d.perform move) moves

theorem quiet_drainMarks (messages : List Message) (d : Dialogue) :
    Mark.forgot ∉ drainMarks messages d := by
  induction messages generalizing d with
  | nil => exact List.not_mem_nil
  | cons m messages ih =>
    intro hm
    rcases List.mem_cons.1 hm with hm | hm
    · cases hm
    · exact ih _ hm

/-- Only forgetting leaves the mark of it. -/
theorem quiet_marks (d : Dialogue) {move : Move} (h : move ≠ .reset) :
    Mark.forgot ∉ d.marks move := by
  cases move with
  | emit e => exact List.not_mem_nil
  | sleep ms => exact List.not_mem_nil
  | arrive => exact List.not_mem_nil
  | nextRequest limit =>
    intro hm
    rcases List.mem_append.1 hm with hm | hm
    · obtain ⟨m, -, hm⟩ := List.mem_map.1 hm
      cases hm
    · obtain ⟨kind, -, hm⟩ := List.mem_map.1 hm
      cases hm
  | finalOutput limit =>
    intro hm
    obtain ⟨m, -, hm⟩ := List.mem_map.1 hm
    cases hm
  | drain => exact quiet_drainMarks _ d
  | takeBuffer =>
    intro hm
    cases List.mem_singleton.1 hm
  | reset => exact absurd rfl h

/-- Moves in a row keep the account of the messages. -/
theorem reads_performAll (moves : List Move) (d : Dialogue) :
    Reads d (along posts d moves) (along receives d moves) (along marks d moves)
      (d.performAll moves) := by
  induction moves generalizing d with
  | nil => exact .refl d
  | cons move moves ih => exact (reads_perform d move).trans (ih (d.perform move))

/-- Since everything was forgotten the last time, all is as if it had begun then. -/
theorem gathers_performAll (moves : List Move) {before : List Mark} {d : Dialogue}
    (h : Gathers {} (Mark.recent before) d) :
    Gathers {} (Mark.recent (before ++ along marks d moves)) (d.performAll moves) := by
  induction moves generalizing before d with
  | nil =>
    rw [along, List.append_nil]
    exact h
  | cons move moves ih =>
    have next : Gathers {} (Mark.recent (before ++ d.marks move)) (d.perform move) := by
      by_cases hm : move = .reset
      · rw [hm, marks, ← List.append_assoc, Mark.recent_append_forgot]
        exact .of_same rfl rfl
      · rw [Mark.recent_append_of_quiet before (quiet_marks d hm)]
        exact h.trans (gathers_perform d hm)
    rw [along, ← List.append_assoc]
    exact ih next

/-- **Conservation.**  Whatever the moves are since a conversation began, and however its waits
ended:

* What arrived is what was read and what is in the queue, in the same order; and what was posted
  is, up to the order, what was read and what is still in the queue or under way.
* Texts and lines for the log are reported once when they are absorbed, in this order, and a
  message that is forgotten is not.
* Since everything was forgotten the last time, the texts that were handed out and the text that
  is gathered now are all the text that was absorbed.  What is taken now is the whole of the text
  that is gathered, and none of it stays.
* Since then the requests that were handed out and the one that is parked now are those that
  were absorbed, in this order, but for such as were drained while another one was parked. -/
theorem nothing_is_lost (ch : Channel) (j : Journal) (moves : List Move) :
    let start : Dialogue := { channel := ch, journal := j }
    let d := start.performAll moves
    let all := along marks start moves
    let read := all.filterMap Mark.read?
    let recent := Mark.recent all
    let absorbed := recent.filterMap Mark.absorbed?
    let kept := recent.filterMap Mark.kept?
    ch.queue ++ along receives start moves = read ++ d.channel.queue ∧
    ch.pending ++ along posts start moves ~ read ++ d.channel.pending ∧
    d.journal.map TimedEvent.event =
      j.map TimedEvent.event ++ (all.filterMap Mark.absorbed?).flatMap Message.shown ∧
    String.join (recent.filterMap Mark.took?) ++ d.buffer = Message.texts absorbed ∧
    (d.takeBuffer.1 = d.buffer ∧ d.takeBuffer.2.buffer = "") ∧
    recent.filterMap Mark.claimed? ++ d.parked?.toList = kept ∧
    kept.Sublist (Message.requests absorbed) ∧
    ∀ mark ∈ recent, ∀ (m : Message) (kind : InputKind), mark.absorbed? = some m →
      m.request? = some kind → mark.kept? = none → mark = .drained m true := by
  intro start d all read recent absorbed kept
  have reads := reads_performAll moves start
  have gathers : Gathers {} recent d := by
    have begun : Gathers {} (Mark.recent []) start := .of_same rfl rfl
    exact gathers_performAll moves begun
  refine ⟨reads.queue, reads.pending, reads.journal, gathers.text.trans String.empty_append,
    ⟨rfl, rfl⟩, gathers.requests, Mark.kept_sublist recent, ?_⟩
  intro mark _ m kind ha hk lost
  cases mark with
  | heard m' =>
    cases ha
    rw [Mark.kept?, hk] at lost
    cases lost
  | drained m' parked =>
    cases ha
    cases parked with
    | false =>
      rw [Mark.kept?, hk] at lost
      cases lost
    | true => rfl
  | discarded m' => cases ha
  | claimed kind' => cases ha
  | took text => cases ha
  | forgot => cases ha

/-- Of two requests that are drained together the first one is handed out, and the second one is
lost. -/
example :
    along marks { channel := { queue := [.data (.inputRequested .line),
        .data (.inputRequested .char)] } } [.drain, .nextRequest (Duration.ofSeconds 1)] =
      [.drained (.data (.inputRequested .line)) false,
        .drained (.data (.inputRequested .char)) true, .claimed .line] := by
  rfl

end Dialogue
end Playtest
