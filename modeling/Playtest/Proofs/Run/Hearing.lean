/-
# What a wait hears

The waits of `Run/Dialogue.lean` read messages until one comes that they wait for.  This file
keeps the books of such a wait, over the channel alone: `Channel.hear` gives the messages that
arrived meanwhile and the messages that were read, both in order.

Two facts carry everything that is said about runs.  `hear_conserves` is the account of the
queue: what was in it and what arrived is what was read and what is in it.  And the waits of a
dialogue are `hear` (`nextRequest_eq`, `finalOutput_eq`): they give what ended the hearing, and
the text in the buffer grows by the texts that were read.
-/
import Playtest.Run.Dialogue
import Playtest.Run.World

namespace Playtest

/-! ## 1. What messages say -/

namespace Message

/-- The kind of input that a message asks for. -/
def request? : Message → Option InputKind
  | .data (.inputRequested kind) => some kind
  | _ => none

theorem eq_of_request? {m : Message} {kind : InputKind} (h : m.request? = some kind) :
    m = .data (.inputRequested kind) := by
  unfold request? at h
  split at h
  · cases h
    rfl
  · cases h

/-- The text that a message brings.  A line for the log brings none. -/
def text : Message → String
  | .data (.bufferText text) => text
  | _ => ""

/-- The message is not for the log. -/
def isData : Message → Bool
  | .data _ => true
  | .log _ => false

/-- What is reported of a message when it is read. -/
def shown : Message → List Event
  | .data (.bufferText text) => [.output text]
  | .data (.inputRequested _) => []
  | .log line => [.log line]

/-- The kinds of input that messages ask for, in order. -/
def requests (messages : List Message) : List InputKind := messages.filterMap request?

/-- The texts of messages, put together. -/
def texts : List Message → String
  | [] => ""
  | m :: messages => m.text ++ texts messages

@[simp] theorem requests_append (ms ns : List Message) :
    requests (ms ++ ns) = requests ms ++ requests ns :=
  List.filterMap_append

@[simp] theorem texts_append (ms ns : List Message) : texts (ms ++ ns) = texts ms ++ texts ns := by
  induction ms with
  | nil => exact String.empty_append.symm
  | cons m ms ih => rw [List.cons_append, texts, texts, ih, String.append_assoc]

/-- Reading reports texts and lines for the log. -/
theorem of_mem_shown {messages : List Message} {event : Event}
    (h : event ∈ messages.flatMap shown) :
    (∃ text, event = .output text) ∨ ∃ line, event = .log line := by
  obtain ⟨m, -, hm⟩ := List.mem_flatMap.1 h
  cases m with
  | data e =>
    cases e with
    | bufferText text => exact .inl ⟨text, List.mem_singleton.1 hm⟩
    | inputRequested kind => cases hm
  | log line => exact .inr ⟨line, List.mem_singleton.1 hm⟩

/-- Messages for the log bring no text. -/
theorem texts_eq_empty {messages : List Message} (h : ∀ m ∈ messages, m.isData = false) :
    texts messages = "" := by
  induction messages with
  | nil => rfl
  | cons m messages ih =>
    rw [texts, ih fun k hk => h k (List.mem_cons_of_mem m hk)]
    cases m with
    | data event => cases h (.data event) List.mem_cons_self
    | log line => rfl

end Message

/-! ## 2. Arrivals -/

namespace Channel

/-- The messages under way that are due by now. -/
def due (ch : Channel) : List Message :=
  (ch.scheduled.takeWhile fun d => d.due ≤ ch.now).map (·.message)

/-- The messages that arrive in some milliseconds. -/
def dueWithin (ch : Channel) (ms : Nat) : List Message :=
  if ms = 0 then [] else ({ ch with now := ch.now + ms - 1 } : Channel).due

/-- The messages that arrive while the driver waits for one. -/
def dueUntil (ch : Channel) (deadline : Nat) : List Message :=
  match ch.queue, ch.scheduled with
  | [], d :: rest =>
    if max ch.now d.due < deadline then
      d.message :: ({ ch with now := max ch.now d.due, scheduled := rest } : Channel).due
    else []
  | _, _ => []

/-- The messages that arrive at once with emissions: those before the page closes its end. -/
def postedBy (isOpen : Bool) : List Emission → List Message
  | [] => []
  | .now m :: es => if isOpen then m :: postedBy isOpen es else postedBy isOpen es
  | .later _ _ :: es => postedBy isOpen es
  | .close 0 :: es => postedBy false es
  | .close (_ + 1) :: es => postedBy isOpen es

@[simp] theorem queue_arrive (ch : Channel) : ch.arrive.queue = ch.queue ++ ch.due := rfl

@[simp] theorem queue_sleep (ch : Channel) (ms : Nat) :
    (ch.sleep ms).queue = ch.queue ++ ch.dueWithin ms := by
  unfold sleep dueWithin
  split
  · exact (List.append_nil _).symm
  · rfl

theorem queue_emitAll (ch : Channel) (es : List Emission) :
    (ch.emitAll es).queue = ch.queue ++ postedBy ch.isOpen es := by
  induction es generalizing ch with
  | nil => exact (List.append_nil _).symm
  | cons e es ih =>
    have step : ch.emitAll (e :: es) = (ch.emit e).emitAll es := rfl
    rw [step, ih]
    cases e with
    | now m =>
      have still : (ch.emit (.now m)).isOpen = ch.isOpen := isOpen_post ch m
      rw [still]
      cases ho : ch.isOpen with
      | true => simp [emit, post, postedBy, ho]
      | false => simp [emit, post, postedBy, ho]
    | later delay m =>
      have still : (ch.emit (.later delay m)).isOpen = ch.isOpen := isOpen_postLater ch delay m
      rw [still]
      cases ho : ch.isOpen with
      | true => simp [emit, postLater, postedBy, ho]
      | false => simp [emit, postLater, postedBy, ho]
    | close delay =>
      have closes : (ch.emit (.close delay)).isOpen = (ch.isOpen && decide (0 < delay)) :=
        isOpen_close ch delay
      rw [closes]
      cases delay with
      | zero => simp [emit, close, postedBy]
      | succ delay => simp [emit, close, postedBy]

/-- A wait that reads a message takes the first one of the queue, or of what arrives. -/
theorem queue_receive {ch ch' : Channel} {deadline : Nat} {m : Message}
    (h : ch.receive deadline = (.message m, ch')) :
    ch.queue ++ ch.dueUntil deadline = m :: ch'.queue := by
  unfold receive at h
  unfold dueUntil
  split at h
  · next hq =>
    cases h
    simp [hq]
  · next hq =>
    split at h
    · split at h <;> simp at h
    · next hs =>
      dsimp only at h
      split at h
      · next hlt =>
        cases h
        simp [hq, hs, hlt]
      · simp at h

/-- A wait that reads no message finds none, and leaves the queue empty. -/
theorem queue_receive_none {ch ch' : Channel} {deadline : Nat} {ended : Received}
    (h : ch.receive deadline = (ended, ch')) (hm : ∀ m, ended ≠ .message m) :
    ch.queue = [] ∧ ch'.queue = [] := by
  unfold receive at h
  split at h
  · cases h
    exact absurd rfl (hm _)
  · next hq =>
    refine ⟨hq, ?_⟩
    split at h
    · split at h
      · cases h
        exact hq
      · cases h
        exact hq
    · dsimp only at h
      split at h
      · cases h
        exact absurd rfl (hm _)
      · cases h
        exact hq

end Channel

/-! ## 3. Hearing -/

/-- What happens on the channel while the driver reads on. -/
structure Hearing where
  /-- What arrived, in order. -/
  delivered : List Message
  /-- What was read, in order. -/
  read : List Message
  /-- What was reported of it, with the times. -/
  shown : Journal
  /-- The message that was waited for, or why there is none. -/
  ended : Channel.Received
  /-- The channel afterwards. -/
  channel : Channel

/-- The hearing with a message read before it. -/
def Hearing.behind (rest : Hearing) (delivered : List Message) (m : Message) (shown : Journal) :
    Hearing :=
  { rest with
    delivered := delivered ++ rest.delivered
    read := m :: rest.read
    shown := shown ++ rest.shown }

namespace Channel

/-- The message that ended a wait, if one did. -/
def Received.messages : Received → List Message
  | .message m => [m]
  | _ => []

/-- Reads on until a message that is waited for or the deadline. -/
def hear (wanted : Message → Bool) (deadline : Nat) (ch : Channel) : Hearing :=
  match h : ch.receive deadline with
  | (.late, ch') => ⟨[], [], [], .late, ch'⟩
  | (.closed, ch') => ⟨[], [], [], .closed, ch'⟩
  | (.message m, ch') =>
    have := size_receive h
    let shown := m.shown.map (TimedEvent.mk ch'.now)
    if wanted m then ⟨ch.dueUntil deadline, [m], shown, .message m, ch'⟩
    else (hear wanted deadline ch').behind (ch.dueUntil deadline) m shown
termination_by ch.size
decreasing_by exact this

variable {wanted : Message → Bool} {deadline : Nat} {ch ch' : Channel}

/-- A hearing that ends with its first message. -/
theorem hear_of_wanted {m : Message} (h : ch.receive deadline = (.message m, ch'))
    (hw : wanted m = true) :
    ch.hear wanted deadline =
      ⟨ch.dueUntil deadline, [m], m.shown.map (TimedEvent.mk ch'.now), .message m, ch'⟩ := by
  rw [hear]
  split
  · next h' => rw [h] at h'; cases h'
  · next h' => rw [h] at h'; cases h'
  · next h' => rw [h] at h'; cases h'; exact if_pos hw

/-- A hearing that goes on behind its first message. -/
theorem hear_of_unwanted {m : Message} (h : ch.receive deadline = (.message m, ch'))
    (hw : wanted m = false) :
    ch.hear wanted deadline =
      (ch'.hear wanted deadline).behind (ch.dueUntil deadline) m
        (m.shown.map (TimedEvent.mk ch'.now)) := by
  rw [hear]
  split
  · next h' => rw [h] at h'; cases h'
  · next h' => rw [h] at h'; cases h'
  · next h' => rw [h] at h'; cases h'; exact if_neg (by simp [hw])

/-- A hearing without a message. -/
theorem hear_of_none {ended : Received} (h : ch.receive deadline = (ended, ch'))
    (hm : ∀ m, ended ≠ .message m) : ch.hear wanted deadline = ⟨[], [], [], ended, ch'⟩ := by
  rw [hear]
  split
  · next h' => rw [h] at h'; cases h'; rfl
  · next h' => rw [h] at h'; cases h'; rfl
  · next m _ h' => rw [h] at h'; cases h'; exact absurd rfl (hm m)

/-- Induction along a hearing.  What decreases are the messages in the queue and under way. -/
theorem hear_induction (wanted : Message → Bool) (deadline : Nat) {motive : Channel → Prop}
    (last : ∀ ch ch' m, ch.receive deadline = (.message m, ch') → wanted m = true → motive ch)
    (more : ∀ ch ch' m, ch.receive deadline = (.message m, ch') → wanted m = false →
      motive ch' → motive ch)
    (none : ∀ ch ch' ended, ch.receive deadline = (ended, ch') →
      (∀ m, ended ≠ .message m) → motive ch)
    (ch : Channel) : motive ch := by
  induction hs : ch.size using Nat.strongRecOn generalizing ch with
  | _ n ih =>
    subst hs
    rcases hr : ch.receive deadline with ⟨m | _ | _, ch'⟩
    · cases hw : wanted m with
      | true => exact last ch ch' m hr hw
      | false => exact more ch ch' m hr hw (ih _ (size_receive hr) ch' rfl)
    · exact none ch ch' _ hr (by simp)
    · exact none ch ch' _ hr (by simp)

/-- **The account of the queue.**  What was in the queue, and then what arrived, is what was
read, and then what is in the queue. -/
theorem hear_conserves (wanted : Message → Bool) (deadline : Nat) (ch : Channel) :
    ch.queue ++ (ch.hear wanted deadline).delivered =
      (ch.hear wanted deadline).read ++ (ch.hear wanted deadline).channel.queue := by
  induction ch using hear_induction wanted deadline with
  | last ch ch' m h hw =>
    rw [hear_of_wanted h hw]
    exact queue_receive h
  | more ch ch' m h hw ih =>
    rw [hear_of_unwanted h hw]
    calc ch.queue ++ (ch.dueUntil deadline ++ (ch'.hear wanted deadline).delivered)
        = (m :: ch'.queue) ++ (ch'.hear wanted deadline).delivered := by
          rw [← List.append_assoc, queue_receive h]
      _ = m :: ((ch'.hear wanted deadline).read ++
            (ch'.hear wanted deadline).channel.queue) := congrArg (m :: ·) ih
  | none ch ch' ended h hm =>
    obtain ⟨hq, hq'⟩ := queue_receive_none h hm
    simp [hear_of_none h hm, hq, hq']

/-- What is reported of a hearing is what is reported of the messages that it reads. -/
theorem map_event_hear (wanted : Message → Bool) (deadline : Nat) (ch : Channel) :
    (ch.hear wanted deadline).shown.map TimedEvent.event =
      (ch.hear wanted deadline).read.flatMap Message.shown := by
  have first (m : Message) (time : Nat) :
      (m.shown.map (TimedEvent.mk time)).map TimedEvent.event = m.shown := by
    rw [List.map_map]
    exact List.map_id _
  induction ch using hear_induction wanted deadline with
  | last ch ch' m h hw =>
    rw [hear_of_wanted h hw, List.flatMap_singleton]
    exact first m ch'.now
  | more ch ch' m h hw ih =>
    rw [hear_of_unwanted h hw]
    dsimp only [Hearing.behind]
    rw [List.map_append, first, ih, List.flatMap_cons]
  | none ch ch' ended h hm =>
    rw [hear_of_none h hm]
    rfl

/-- What a hearing reads is what it does not wait for, and then the message that ends it. -/
theorem hear_read (wanted : Message → Bool) (deadline : Nat) (ch : Channel) :
    ∃ before, (∀ m ∈ before, wanted m = false) ∧
      (∀ m ∈ (ch.hear wanted deadline).ended.messages, wanted m = true) ∧
      (ch.hear wanted deadline).read = before ++ (ch.hear wanted deadline).ended.messages := by
  induction ch using hear_induction wanted deadline with
  | last ch ch' m h hw =>
    rw [hear_of_wanted h hw]
    exact ⟨[], by simp, by simpa [Received.messages] using hw, rfl⟩
  | more ch ch' m h hw ih =>
    rw [hear_of_unwanted h hw]
    obtain ⟨before, hb, he, hr⟩ := ih
    refine ⟨m :: before, ?_, he, congrArg (m :: ·) hr⟩
    intro k hk
    rcases List.mem_cons.1 hk with rfl | hk
    · exact hw
    · exact hb k hk
  | none ch ch' ended h hm =>
    rw [hear_of_none h hm]
    cases ended with
    | message m => exact absurd rfl (hm m)
    | closed => exact ⟨[], by simp, by simp [Received.messages], rfl⟩
    | late => exact ⟨[], by simp, by simp [Received.messages], rfl⟩

end Channel

/-! ## 4. The waits of a dialogue -/

namespace Dialogue

/-- The dialogue after a hearing, but for a request that ended it. -/
def heard (d : Dialogue) (x : Hearing) : Dialogue :=
  { d with
    channel := x.channel
    buffer := d.buffer ++ Message.texts x.read
    journal := d.journal ++ x.shown }

/-- Absorbing a message reports it and gathers its text. -/
theorem absorb_eq (d : Dialogue) (m : Message) :
    d.absorb m =
      { d with
        buffer := d.buffer ++ m.text
        journal := d.journal ++ m.shown.map (TimedEvent.mk d.channel.now) } := by
  cases m with
  | data event =>
    cases event with
    | bufferText text => rfl
    | inputRequested kind => simp [absorb, Message.text, Message.shown]
  | log line => simp [absorb, record, Message.text, Message.shown]

/-- A hearing behind a message that was absorbed. -/
theorem heard_behind (d : Dialogue) (ch' : Channel) (m : Message) (delivered : List Message)
    (x : Hearing) :
    d.heard (x.behind delivered m (m.shown.map (TimedEvent.mk ch'.now))) =
      (({ d with channel := ch' } : Dialogue).absorb m).heard x := by
  rw [absorb_eq]
  simp [heard, Hearing.behind, Message.texts, String.append_assoc]

/-- How a wait for a request ends. -/
def requestOutcome (limit : Duration) : Channel.Received → Except TestError InputKind
  | .message (.data (.inputRequested kind)) => .ok kind
  | .closed => .error .bridgeClosed
  | _ => .error (.timeout .inputRequest limit)

/-- How a wait for output ends. -/
def outputOutcome (limit : Duration) : Channel.Received → Except TestError Unit
  | .message _ => .ok ()
  | .closed => .error .bridgeClosed
  | .late => .error (.timeout .finalOutput limit)

/-- Parks the request that ended a hearing, if one did. -/
def parking (d : Dialogue) : Channel.Received → Dialogue
  | .message (.data (.inputRequested kind)) => d.park kind
  | _ => d

@[simp] theorem channel_parking (d : Dialogue) (ended : Channel.Received) :
    (d.parking ended).channel = d.channel := by
  unfold parking
  split <;> rfl

@[simp] theorem buffer_parking (d : Dialogue) (ended : Channel.Received) :
    (d.parking ended).buffer = d.buffer := by
  unfold parking
  split <;> rfl

@[simp] theorem journal_parking (d : Dialogue) (ended : Channel.Received) :
    (d.parking ended).journal = d.journal := by
  unfold parking
  split <;> rfl

section
variable {d : Dialogue} {limit : Duration} {deadline : Nat} {ch' : Channel} {m : Message}
  {ended : Channel.Received}

/-- The first message that a wait for a request reads. -/
theorem awaitRequest_of_message (h : d.channel.receive deadline = (.message m, ch')) :
    d.awaitRequest limit deadline =
      match m.request? with
      | some kind => (.ok kind, { d with channel := ch' })
      | none => (({ d with channel := ch' } : Dialogue).absorb m).awaitRequest limit deadline := by
  rw [awaitRequest]
  split <;> next h' => rw [h] at h'; cases h'; try rfl

/-- The first message that a wait for output reads. -/
theorem awaitOutput_of_message (h : d.channel.receive deadline = (.message m, ch')) :
    d.awaitOutput limit deadline =
      if m.isData then (.ok (), ({ d with channel := ch' } : Dialogue).absorbParking m)
      else (({ d with channel := ch' } : Dialogue).absorb m).awaitOutput limit deadline := by
  rw [awaitOutput]
  split <;> next h' => rw [h] at h'; cases h'; try rfl

/-- A wait for a request that reads no message. -/
theorem awaitRequest_of_none (h : d.channel.receive deadline = (ended, ch'))
    (hm : ∀ m, ended ≠ .message m) :
    d.awaitRequest limit deadline = (requestOutcome limit ended, { d with channel := ch' }) := by
  rw [awaitRequest]
  split <;> next h' => rw [h] at h'; cases h'; first | rfl | exact absurd rfl (hm _)

/-- A wait for output that reads no message. -/
theorem awaitOutput_of_none (h : d.channel.receive deadline = (ended, ch'))
    (hm : ∀ m, ended ≠ .message m) :
    d.awaitOutput limit deadline = (outputOutcome limit ended, { d with channel := ch' }) := by
  rw [awaitOutput]
  split <;> next h' => rw [h] at h'; cases h'; first | rfl | exact absurd rfl (hm _)

theorem heard_nothing (d : Dialogue) (ended : Channel.Received) (ch' : Channel) :
    d.heard ⟨[], [], [], ended, ch'⟩ = { d with channel := ch' } := by
  simp [heard, Message.texts]

/-- A hearing that reads one message absorbs it. -/
theorem heard_one (d : Dialogue) (ch' : Channel) (m : Message) (delivered : List Message) :
    d.heard ⟨delivered, [m], m.shown.map (TimedEvent.mk ch'.now), .message m, ch'⟩ =
      ({ d with channel := ch' } : Dialogue).absorb m := by
  rw [absorb_eq]
  simp [heard, Message.texts]

@[simp] theorem channel_absorb (d : Dialogue) (m : Message) : (d.absorb m).channel = d.channel := by
  rw [absorb_eq]

end

/-- **Waiting for a request is hearing up to a request.** -/
theorem awaitRequest_eq (limit : Duration) (deadline : Nat) (d : Dialogue) :
    d.awaitRequest limit deadline =
      (requestOutcome limit (d.channel.hear (·.request?.isSome) deadline).ended,
        d.heard (d.channel.hear (·.request?.isSome) deadline)) := by
  induction hc : d.channel using Channel.hear_induction (·.request?.isSome) deadline
    generalizing d with
  | last ch ch' m h hw =>
    subst hc
    obtain ⟨kind, hk⟩ := Option.isSome_iff_exists.1 hw
    rw [Channel.hear_of_wanted h hw, awaitRequest_of_message h, heard_one, hk]
    rw [Message.eq_of_request? hk]
    rfl
  | more ch ch' m h hw ih =>
    subst hc
    have hk : m.request? = none := by simpa using hw
    rw [Channel.hear_of_unwanted h hw, awaitRequest_of_message h, hk, heard_behind]
    exact ih _ (channel_absorb _ m)
  | none ch ch' ended h hm =>
    subst hc
    rw [Channel.hear_of_none h hm, awaitRequest_of_none h hm, heard_nothing]

/-- **Waiting for output is hearing up to the first data.** -/
theorem awaitOutput_eq (limit : Duration) (deadline : Nat) (d : Dialogue) :
    d.awaitOutput limit deadline =
      (outputOutcome limit (d.channel.hear Message.isData deadline).ended,
        (d.heard (d.channel.hear Message.isData deadline)).parking
          (d.channel.hear Message.isData deadline).ended) := by
  induction hc : d.channel using Channel.hear_induction Message.isData deadline
    generalizing d with
  | last ch ch' m h hw =>
    subst hc
    rw [Channel.hear_of_wanted h hw, awaitOutput_of_message h, if_pos hw, heard_one]
    cases m with
    | data event => cases event <;> rfl
    | log line => cases hw
  | more ch ch' m h hw ih =>
    subst hc
    rw [Channel.hear_of_unwanted h hw, awaitOutput_of_message h, if_neg (by simp [hw]),
      heard_behind]
    exact ih _ (channel_absorb _ m)
  | none ch ch' ended h hm =>
    subst hc
    rw [Channel.hear_of_none h hm, awaitOutput_of_none h hm, heard_nothing]
    cases ended with
    | message m => exact absurd rfl (hm m)
    | closed => rfl
    | late => rfl

/-- What a wait hears.  A request that is parked ends it at once. -/
def hearing (wanted : Message → Bool) (limit : Duration) (d : Dialogue) : Hearing :=
  match d.parked? with
  | some kind => ⟨[], [], [], .message (.data (.inputRequested kind)), d.channel⟩
  | none => d.channel.hear wanted (d.deadline limit)

section
variable {d : Dialogue} {wanted : Message → Bool} {limit : Duration} {kind : InputKind}

theorem hearing_of_parked (h : d.parked? = some kind) :
    d.hearing wanted limit =
      ⟨[], [], [], .message (.data (.inputRequested kind)), d.channel⟩ := by
  rw [hearing, h]

theorem hearing_of_free (h : d.parked? = none) :
    d.hearing wanted limit = d.channel.hear wanted (d.deadline limit) := by
  rw [hearing, h]

end

/-- The account of the queue, for a wait. -/
theorem hearing_conserves (wanted : Message → Bool) (limit : Duration) (d : Dialogue) :
    d.channel.queue ++ (d.hearing wanted limit).delivered =
      (d.hearing wanted limit).read ++ (d.hearing wanted limit).channel.queue := by
  cases h : d.parked? with
  | some kind =>
    rw [hearing_of_parked h]
    exact List.append_nil _
  | none =>
    rw [hearing_of_free h]
    exact Channel.hear_conserves wanted (d.deadline limit) d.channel

theorem map_event_hearing (wanted : Message → Bool) (limit : Duration) (d : Dialogue) :
    (d.hearing wanted limit).shown.map TimedEvent.event =
      (d.hearing wanted limit).read.flatMap Message.shown := by
  cases h : d.parked? with
  | some kind =>
    rw [hearing_of_parked h]
    rfl
  | none =>
    rw [hearing_of_free h]
    exact Channel.map_event_hear wanted (d.deadline limit) d.channel

theorem nextRequest_eq (limit : Duration) (d : Dialogue) :
    d.nextRequest limit =
      (requestOutcome limit (d.hearing (·.request?.isSome) limit).ended,
        { d.heard (d.hearing (·.request?.isSome) limit) with parked? := none }) := by
  rw [nextRequest]
  cases h : d.parked? with
  | some kind =>
    rw [hearing_of_parked h]
    simp [requestOutcome, heard, Message.texts]
  | none =>
    rw [hearing_of_free h]
    obtain ⟨channel, buffer, parked, journal⟩ := d
    cases h
    exact awaitRequest_eq limit _ _

theorem finalOutput_eq (limit : Duration) (d : Dialogue) :
    d.finalOutput limit =
      (outputOutcome limit (d.hearing Message.isData limit).ended,
        (d.heard (d.hearing Message.isData limit)).parking
          (d.hearing Message.isData limit).ended) := by
  rw [finalOutput]
  cases h : d.parked? with
  | some kind =>
    obtain ⟨channel, buffer, parked, journal⟩ := d
    cases h
    simp [hearing, outputOutcome, parking, park, heard, Message.texts]
  | none =>
    rw [hearing_of_free h]
    exact awaitOutput_eq limit (d.deadline limit) d

/-- A wait for output that fails has read no text. -/
theorem texts_of_silence {d : Dialogue} {limit : Duration} {e : TestError}
    (h : (d.finalOutput limit).1 = .error e) :
    Message.texts (d.hearing Message.isData limit).read = "" := by
  rw [finalOutput_eq] at h
  cases hp : d.parked? with
  | some kind =>
    rw [hearing_of_parked hp] at h
    cases h
  | none =>
    rw [hearing_of_free hp] at h ⊢
    obtain ⟨before, hb, -, hr⟩ :=
      Channel.hear_read Message.isData (d.deadline limit) d.channel
    have quiet := Message.texts_eq_empty hb
    rw [hr]
    rcases hended : (d.channel.hear Message.isData (d.deadline limit)).ended with m | _ | _
    · rw [hended] at h
      cases h
    · exact (congrArg Message.texts (List.append_nil before)).trans quiet
    · exact (congrArg Message.texts (List.append_nil before)).trans quiet

/-! ## 5. What never waits -/

theorem foldl_absorbParking (messages : List Message) (d : Dialogue) :
    messages.foldl absorbParking d =
      { d with
        buffer := d.buffer ++ Message.texts messages
        parked? := d.parked? <|> (Message.requests messages).head?
        journal := d.journal ++
          (messages.flatMap Message.shown).map (TimedEvent.mk d.channel.now) } := by
  induction messages generalizing d with
  | nil => simp [Message.texts, Message.requests]
  | cons m messages ih =>
    rw [List.foldl_cons, ih]
    rcases hk : m.request? with _ | kind
    · have : d.absorbParking m = d.absorb m := by
        cases m with
        | data event => cases event <;> first | rfl | cases hk
        | log line => rfl
      rw [this, absorb_eq]
      simp [Message.texts, Message.requests, hk, String.append_assoc]
    · rw [Message.eq_of_request? hk]
      cases hp : d.parked? <;>
        simp [absorbParking, park, Message.requests, Message.texts, Message.text, Message.shown,
          Message.request?, hp]

/-- Draining absorbs what has arrived, and parks the first request of it. -/
theorem drain_eq (d : Dialogue) :
    d.drain =
      { d with
        channel := { d.channel with queue := [] }
        buffer := d.buffer ++ Message.texts d.channel.queue
        parked? := d.parked? <|> (Message.requests d.channel.queue).head?
        journal := d.journal ++
          (d.channel.queue.flatMap Message.shown).map (TimedEvent.mk d.channel.now) } := by
  rw [drain, foldl_absorbParking]

end Dialogue
end Playtest
