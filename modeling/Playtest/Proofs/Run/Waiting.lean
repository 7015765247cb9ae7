/-
# How waits end

A wait reads messages in the order in which they arrive: first what is in the queue, and then what
is under way, each message at its time.  It ends with the first message that it waits for, if this
one has arrived already or arrives before the time is up.  If there is no such message, it ends
when no message can arrive any more, as the page has closed its end and nothing is under way, and
otherwise when the time is up.

This file says for every state of the channel which of these it is, when it is, and what is left
then.  `Waits` has the four cases, and both waits of a dialogue keep to them (`waits_end`).  The
time is counted from the beginning of a wait: whatever is read meanwhile, it does not begin anew.

A hearing passes by the messages that are not waited for, those in the queue (`amounts_queued`)
and those under way (`amounts_arriving`), and behind them each case is a single step.
-/
import Playtest.Proofs.Run.Hearing

namespace Playtest

/-! ## 1. Arrivals -/

namespace Channel

/-- The time at which the last of some deliveries has arrived.  A delivery arrives when it is due,
but not before the one in front of it. -/
def arrived (now : Nat) : List Delivery → Nat
  | [] => now
  | d :: deliveries => arrived (max now d.due) deliveries

/-- What is reported of messages that are read now. -/
def reported (now : Nat) (messages : List Message) : Journal :=
  (messages.flatMap Message.shown).map (TimedEvent.mk now)

/-- What is reported of deliveries that are read when they arrive. -/
def reports (now : Nat) : List Delivery → Journal
  | [] => []
  | d :: deliveries =>
    reported (max now d.due) [d.message] ++ reports (max now d.due) deliveries

theorem reported_one (now : Nat) (m : Message) :
    reported now [m] = m.shown.map (TimedEvent.mk now) := by
  rw [reported, List.flatMap_singleton]

theorem reported_append (now : Nat) (ms ns : List Message) :
    reported now (ms ++ ns) = reported now ms ++ reported now ns := by
  rw [reported, List.flatMap_append, List.map_append]
  rfl

theorem reports_one (now : Nat) (d : Delivery) :
    reports now [d] = reported (max now d.due) [d.message] := List.append_nil _

theorem reports_append (now : Nat) (ds es : List Delivery) :
    reports now (ds ++ es) = reports now ds ++ reports (arrived now ds) es := by
  induction ds generalizing now with
  | nil => rfl
  | cons d ds ih =>
    rw [List.cons_append, reports, reports, ih, List.append_assoc]
    rfl

theorem arrived_append (now : Nat) (ds es : List Delivery) :
    arrived now (ds ++ es) = arrived (arrived now ds) es := by
  induction ds generalizing now with
  | nil => rfl
  | cons d ds ih => exact ih _

theorem le_arrived (now : Nat) (ds : List Delivery) : now ≤ arrived now ds := by
  induction ds generalizing now with
  | nil => exact Nat.le_refl now
  | cons d ds ih => exact Nat.le_trans (Nat.le_max_left now d.due) (ih _)

/-- Deliveries that are due in time have arrived in time. -/
theorem arrived_lt {now deadline : Nat} {ds : List Delivery} (hn : now < deadline)
    (h : ∀ d ∈ ds, max now d.due < deadline) : arrived now ds < deadline := by
  induction ds generalizing now with
  | nil => exact hn
  | cons d ds ih =>
    have first : max now d.due < deadline := h d List.mem_cons_self
    refine ih first fun e he => ?_
    have later : max now e.due < deadline := h e (List.mem_cons_of_mem d he)
    omega

/-- In a schedule in the order of time, a delivery arrives when it is due, unless that has
passed. -/
theorem arrived_of_ordered {now : Nat} {before : List Delivery} {d : Delivery}
    (h : ∀ b ∈ before, b.due ≤ d.due) : arrived now (before ++ [d]) = max now d.due := by
  induction before generalizing now with
  | nil => rfl
  | cons b before ih =>
    have first : b.due ≤ d.due := h b List.mem_cons_self
    have rest : arrived (max now b.due) (before ++ [d]) = max (max now b.due) d.due :=
      ih fun e he => h e (List.mem_cons_of_mem b he)
    rw [List.cons_append, arrived, rest]
    omega

/-- A wait that finds nothing in the queue lets arrive what is due. -/
theorem receive_arrive {ch : Channel} {deadline : Nat} (hq : ch.queue = [])
    (ht : ch.now < deadline) : ch.arrive.receive deadline = ch.receive deadline := by
  obtain ⟨now, queue, scheduled, closes?⟩ := ch
  cases hq
  rcases scheduled with _ | ⟨d, rest⟩
  · rfl
  · by_cases hd : d.due ≤ now
    · have inTime : now < deadline := ht
      simp [receive, arrive, hd, inTime]
    · simp [arrive, hd]

/-- A wait with nothing in the queue reads the first delivery when it arrives. -/
theorem receive_arriving {now deadline : Nat} {d : Delivery} (hd : max now d.due < deadline)
    (rest : List Delivery) (closes? : Option Nat) :
    (⟨now, [], d :: rest, closes?⟩ : Channel).receive deadline =
      (.message d.message, (⟨max now d.due, [], rest, closes?⟩ : Channel).arrive) :=
  if_pos hd

theorem closing?_eq_some_iff {ch : Channel} {deadline time : Nat} :
    ch.closing? deadline = some time ↔
      ch.closes? = some time ∧ (time ≤ ch.now ∨ time < deadline) := by
  rw [closing?, Option.filter_eq_some_iff, decide_eq_true_iff]

theorem closing?_eq_none_iff {ch : Channel} {deadline : Nat} :
    ch.closing? deadline = none ↔ ∀ time ∈ ch.closes?, ch.now < time ∧ deadline ≤ time := by
  simp [closing?, Option.filter_eq_none_iff]

/-- A wait with nothing to come ends when the page closes its end. -/
theorem receive_closing {now time deadline : Nat} (ht : time ≤ now ∨ time < deadline) :
    (⟨now, [], [], some time⟩ : Channel).receive deadline =
      (.closed, ⟨max now time, [], [], some time⟩) := by
  have closing : (⟨now, [], [], some time⟩ : Channel).closing? deadline = some time :=
    closing?_eq_some_iff.2 ⟨rfl, ht⟩
  rw [receive, closing]

/-- A wait with nothing to come ends with its time if the page's end is open until then. -/
theorem receive_idle {now deadline : Nat} {closes? : Option Nat}
    (ht : ∀ time ∈ closes?, now < time ∧ deadline ≤ time) :
    (⟨now, [], [], closes?⟩ : Channel).receive deadline =
      (.late, ⟨max now deadline, [], [], closes?⟩) := by
  have stays : (⟨now, [], [], closes?⟩ : Channel).closing? deadline = none :=
    closing?_eq_none_iff.2 ht
  rw [receive, stays]

/-- A wait does not go on past its deadline. -/
theorem now_receive_le {ch ch' : Channel} {deadline : Nat} {ended : Received}
    (h : ch.receive deadline = (ended, ch')) : ch'.now ≤ max ch.now deadline := by
  unfold receive at h
  split at h
  · cases h
    exact Nat.le_max_left _ _
  · split at h
    · split at h
      · next time closing =>
        cases h
        obtain ⟨-, inTime⟩ := closing?_eq_some_iff.1 closing
        show max ch.now time ≤ max ch.now deadline
        omega
      · cases h
        exact Nat.le_refl _
    · next d rest _ =>
      dsimp only at h
      split at h <;> cases h
      · have inTime : max ch.now d.due < deadline := ‹_›
        exact Nat.le_of_lt (Nat.lt_of_lt_of_le inTime (Nat.le_max_right _ _))
      · exact Nat.le_refl _

end Channel

/-! ## 2. Passing by what is not waited for -/

/-- What a hearing amounts to, whatever arrived behind the message that ended it. -/
structure Hearing.Amounts (x : Hearing) (read : List Message) (shown : Journal)
    (ended : Channel.Received) (channel : Channel) : Prop where
  read : x.read = read
  shown : x.shown = shown
  ended : x.ended = ended
  channel : x.channel = channel

namespace Channel

section
variable {wanted : Message → Bool} {deadline now : Nat} {closes? : Option Nat}
  {read : List Message} {shown : Journal} {ended : Received} {channel : Channel}

theorem amounts_one {ch ch' : Channel} {m : Message}
    (h : ch.receive deadline = (.message m, ch')) (hw : wanted m = true) :
    (ch.hear wanted deadline).Amounts [m] (reported ch'.now [m]) (.message m) ch' := by
  rw [hear_of_wanted h hw, reported_one]
  exact ⟨rfl, rfl, rfl, rfl⟩

theorem amounts_none {ch ch' : Channel} (h : ch.receive deadline = (ended, ch'))
    (hm : ∀ m, ended ≠ .message m) : (ch.hear wanted deadline).Amounts [] [] ended ch' := by
  rw [hear_of_none h hm]
  exact ⟨rfl, rfl, rfl, rfl⟩

theorem amounts_more {ch ch' : Channel} {m : Message}
    (h : ch.receive deadline = (.message m, ch')) (hw : wanted m = false)
    (more : (ch'.hear wanted deadline).Amounts read shown ended channel) :
    (ch.hear wanted deadline).Amounts (m :: read) (reported ch'.now [m] ++ shown) ended
      channel := by
  rw [hear_of_unwanted h hw, reported_one]
  exact ⟨congrArg (m :: ·) more.read, congrArg (_ ++ ·) more.shown, more.ended, more.channel⟩

/-- To hear before what is due has arrived is the same as afterwards. -/
theorem amounts_arrive {ch : Channel} (hq : ch.queue = []) (ht : ch.now < deadline)
    (h : (ch.hear wanted deadline).Amounts read shown ended channel) :
    (ch.arrive.hear wanted deadline).Amounts read shown ended channel := by
  have same := receive_arrive hq ht
  rcases hr : ch.receive deadline with ⟨result, ch'⟩
  rw [hr] at same
  rcases result with m | _ | _
  · cases hw : wanted m with
    | true =>
      rw [hear_of_wanted hr hw] at h
      rw [hear_of_wanted same hw]
      exact ⟨h.read, h.shown, h.ended, h.channel⟩
    | false =>
      rw [hear_of_unwanted hr hw] at h
      rw [hear_of_unwanted same hw]
      exact ⟨h.read, h.shown, h.ended, h.channel⟩
  · rw [hear_of_none hr (by simp)] at h
    rw [hear_of_none same (by simp)]
    exact h
  · rw [hear_of_none hr (by simp)] at h
    rw [hear_of_none same (by simp)]
    exact h

/-- **Messages in the queue are passed by** if they are not waited for. -/
theorem amounts_queued {before rest : List Message} {scheduled : List Delivery}
    (hb : ∀ b ∈ before, wanted b = false)
    (h : ((⟨now, rest, scheduled, closes?⟩ : Channel).hear wanted deadline).Amounts read shown
      ended channel) :
    ((⟨now, before ++ rest, scheduled, closes?⟩ : Channel).hear wanted deadline).Amounts
      (before ++ read) (reported now before ++ shown) ended channel := by
  induction before with
  | nil => exact h
  | cons b before ih =>
    have first : (⟨now, b :: before ++ rest, scheduled, closes?⟩ : Channel).receive deadline =
        (.message b, ⟨now, before ++ rest, scheduled, closes?⟩) := rfl
    have more := ih fun c hc => hb c (List.mem_cons_of_mem b hc)
    have whole := amounts_more first (hb b List.mem_cons_self) more
    rw [← List.append_assoc, ← reported_append] at whole
    exact whole

/-- **Messages under way are passed by** when they arrive, if they are not waited for. -/
theorem amounts_arriving {before rest : List Delivery}
    (hb : ∀ b ∈ before, wanted b.message = false) (ht : ∀ b ∈ before, max now b.due < deadline)
    (h : ((⟨arrived now before, [], rest, closes?⟩ : Channel).hear wanted deadline).Amounts read
      shown ended channel) :
    ((⟨now, [], before ++ rest, closes?⟩ : Channel).hear wanted deadline).Amounts
      (before.map Delivery.message ++ read) (reports now before ++ shown) ended channel := by
  induction before generalizing now with
  | nil => exact h
  | cons b before ih =>
    have first : max now b.due < deadline := ht b List.mem_cons_self
    have later : ∀ c ∈ before, max (max now b.due) c.due < deadline := by
      intro c hc
      have inTime : max now c.due < deadline := ht c (List.mem_cons_of_mem b hc)
      omega
    have more := ih (fun c hc => hb c (List.mem_cons_of_mem b hc)) later h
    -- what is due with the first one arrives with it, and is read none the less in its turn
    have behind := amounts_arrive rfl first more
    have whole := amounts_more (receive_arriving first (before ++ rest) closes?)
      (hb b List.mem_cons_self) behind
    rw [← List.append_assoc] at whole
    exact whole

end

/-! ## 3. The ways to end -/

section
variable {wanted : Message → Bool} {deadline now : Nat} {closes? : Option Nat}
  {queue : List Message}

/-- The message that is waited for is in the queue. -/
theorem hear_of_queued {before after : List Message} {m : Message} {scheduled : List Delivery}
    (hb : ∀ b ∈ before, wanted b = false) (hm : wanted m = true) :
    ((⟨now, before ++ m :: after, scheduled, closes?⟩ : Channel).hear wanted deadline).Amounts
      (before ++ [m]) (reported now (before ++ [m])) (.message m)
      ⟨now, after, scheduled, closes?⟩ := by
  have last : (⟨now, m :: after, scheduled, closes?⟩ : Channel).receive deadline =
      (.message m, ⟨now, after, scheduled, closes?⟩) := rfl
  rw [reported_append]
  exact amounts_queued hb (amounts_one last hm)

/-- The message that is waited for arrives in time. -/
theorem hear_of_arriving {before after : List Delivery} {x : Delivery}
    (hq : ∀ b ∈ queue, wanted b = false) (hb : ∀ b ∈ before, wanted b.message = false)
    (hx : wanted x.message = true) (ht : ∀ b ∈ before ++ [x], max now b.due < deadline) :
    ((⟨now, queue, before ++ x :: after, closes?⟩ : Channel).hear wanted deadline).Amounts
      (queue ++ (before ++ [x]).map Delivery.message)
      (reported now queue ++ reports now (before ++ [x])) (.message x.message)
      (⟨arrived now (before ++ [x]), [], after, closes?⟩ : Channel).arrive := by
  have inTime : max now x.due < deadline := ht x (by simp)
  have earlier : ∀ b ∈ before, max now b.due < deadline := fun b hm => ht b (by simp [hm])
  have last : max (arrived now before) x.due < deadline := by
    have there : arrived now before < deadline := arrived_lt (by omega) earlier
    omega
  have passed := amounts_arriving hb earlier (amounts_one (receive_arriving last after closes?) hx)
  have whole := amounts_queued hq passed
  rw [List.append_nil] at whole
  rw [List.map_append, arrived_append, reports_append, reports_one]
  exact whole

/-- No message can arrive any more. -/
theorem hear_of_closed {scheduled : List Delivery} {time : Nat}
    (hq : ∀ b ∈ queue, wanted b = false) (hs : ∀ b ∈ scheduled, wanted b.message = false)
    (ht : ∀ b ∈ scheduled, max now b.due < deadline) (hc : time ≤ now ∨ time < deadline) :
    ((⟨now, queue, scheduled, some time⟩ : Channel).hear wanted deadline).Amounts
      (queue ++ scheduled.map Delivery.message) (reported now queue ++ reports now scheduled)
      .closed ⟨max (arrived now scheduled) time, [], [], some time⟩ := by
  have last : (⟨arrived now scheduled, [], [], some time⟩ : Channel).receive deadline =
      (.closed, ⟨max (arrived now scheduled) time, [], [], some time⟩) := by
    have since : now ≤ arrived now scheduled := le_arrived now scheduled
    exact receive_closing (by omega)
  have whole := amounts_queued hq (amounts_arriving hs ht (amounts_none last (by simp)))
  simpa using whole

/-- The time is up. -/
theorem hear_of_late {before after : List Delivery} (hn : now ≤ deadline)
    (hq : ∀ b ∈ queue, wanted b = false) (hb : ∀ b ∈ before, wanted b.message = false)
    (ht : ∀ b ∈ before, max now b.due < deadline)
    (ha : ∀ x ∈ after.head?, deadline ≤ max now x.due)
    (ho : after = [] → ∀ time ∈ closes?, now < time ∧ deadline ≤ time) :
    ((⟨now, queue, before ++ after, closes?⟩ : Channel).hear wanted deadline).Amounts
      (queue ++ before.map Delivery.message) (reported now queue ++ reports now before) .late
      ⟨deadline, [], after, closes?⟩ := by
  have there : arrived now before ≤ deadline := by
    have := arrived_lt (Nat.lt_succ_of_le hn) fun b hm => Nat.lt_succ_of_lt (ht b hm)
    omega
  have last : (⟨arrived now before, [], after, closes?⟩ : Channel).receive deadline =
      (.late, ⟨deadline, [], after, closes?⟩) := by
    rcases after with _ | ⟨x, after⟩
    · have stays : ∀ time ∈ closes?, arrived now before < time ∧ deadline ≤ time := by
        intro time hm
        obtain ⟨later, behind⟩ := ho rfl time hm
        -- a wait without any time has nothing arrive
        rcases Nat.lt_or_eq_of_le hn with hlt | rfl
        · have := arrived_lt hlt ht
          omega
        · omega
      rw [receive_idle stays, Nat.max_eq_right there]
    · have late : ¬max (arrived now before) x.due < deadline := by
        have first : deadline ≤ max now x.due := ha x rfl
        have since : now ≤ arrived now before := le_arrived now before
        omega
      simp [receive, late, there]
  have whole := amounts_queued hq (amounts_arriving hb ht (amounts_none last (by simp)))
  simpa using whole

end

/-- Hearing does not go on past its deadline, whatever is read. -/
theorem now_hear_le (wanted : Message → Bool) (deadline : Nat) (ch : Channel) :
    (ch.hear wanted deadline).channel.now ≤ max ch.now deadline := by
  induction ch using hear_induction wanted deadline with
  | last ch ch' m h hw =>
    rw [hear_of_wanted h hw]
    exact now_receive_le h
  | more ch ch' m h hw ih =>
    have first : ch'.now ≤ max ch.now deadline := now_receive_le h
    rw [hear_of_unwanted h hw]
    exact Nat.le_trans ih (Nat.max_le.2 ⟨first, Nat.le_max_right _ _⟩)
  | none ch ch' ended h hm =>
    rw [hear_of_none h hm]
    exact now_receive_le h

end Channel

/-! ## 4. The waits of a dialogue -/

/-- Data ends a wait for output. -/
def Message.data? (m : Message) : Option Unit := if m.isData then some () else none

namespace Dialogue

open Channel (arrived reported reports)

/-- How a wait ends that begins with no request parked.  It waits for messages that have an answer,
and what it parks of such a message is said by `slot`.  Whatever it reads is reported at the time
at which it is read.  The time of the wait is up at the deadline. -/
structure Waits {α : Type} (answer? : Message → Option α) (slot : Message → Option InputKind)
    (awaited : Awaited) (limit : Duration) (deadline : Nat) (d : Dialogue)
    (wait : Except TestError α × Dialogue) : Prop where
  /-- The first message of the queue that is waited for ends the wait at once, and what is behind
  it stays in the queue. -/
  queued : ∀ before m after a, d.channel.queue = before ++ m :: after →
    (∀ b ∈ before, answer? b = none) → answer? m = some a →
    wait = (.ok a,
      { channel := { d.channel with queue := after }
        buffer := d.buffer ++ Message.texts (before ++ [m])
        parked? := slot m
        journal := d.journal ++ reported d.channel.now (before ++ [m]) })
  /-- If there is none, the first one under way ends the wait when it arrives, if it arrives
  before the time is up.  What arrives with it is in the queue then, and the rest is under way. -/
  arriving : (∀ b ∈ d.channel.queue, answer? b = none) →
    ∀ before x after a, d.channel.scheduled = before ++ x :: after →
    (∀ b ∈ before, answer? b.message = none) → answer? x.message = some a →
    (∀ b ∈ before ++ [x], max d.channel.now b.due < deadline) →
    wait = (.ok a,
      { channel := ({ d.channel with
          now := arrived d.channel.now (before ++ [x])
          queue := []
          scheduled := after } : Channel).arrive
        buffer := d.buffer ++
          Message.texts (d.channel.queue ++ (before ++ [x]).map Delivery.message)
        parked? := slot x.message
        journal := d.journal ++ reported d.channel.now d.channel.queue ++
          reports d.channel.now (before ++ [x]) })
  /-- If none arrives, and the page has closed its end or closes it before the time is up, and all
  that is under way arrives before the time is up, the wait ends when the last of it has arrived
  and the end is closed. -/
  closed : (∀ b ∈ d.channel.queue, answer? b = none) →
    (∀ b ∈ d.channel.scheduled, answer? b.message = none) →
    ∀ time, d.channel.closes? = some time → (time ≤ d.channel.now ∨ time < deadline) →
    (∀ b ∈ d.channel.scheduled, max d.channel.now b.due < deadline) →
    wait = (.error .bridgeClosed,
      { channel := { d.channel with
          now := max (arrived d.channel.now d.channel.scheduled) time
          queue := []
          scheduled := [] }
        buffer := d.buffer ++
          Message.texts (d.channel.queue ++ d.channel.scheduled.map Delivery.message)
        parked? := none
        journal := d.journal ++ reported d.channel.now d.channel.queue ++
          reports d.channel.now d.channel.scheduled })
  /-- If more may come then, but none before the time is up, the wait ends with its time. -/
  late : (∀ b ∈ d.channel.queue, answer? b = none) →
    ∀ before after, d.channel.scheduled = before ++ after →
    (∀ b ∈ before, answer? b.message = none) →
    (∀ b ∈ before, max d.channel.now b.due < deadline) →
    (∀ x ∈ after.head?, deadline ≤ max d.channel.now x.due) →
    (after = [] → ∀ time ∈ d.channel.closes?, d.channel.now < time ∧ deadline ≤ time) →
    wait = (.error (.timeout awaited limit),
      { channel := { d.channel with
          now := deadline
          queue := []
          scheduled := after }
        buffer := d.buffer ++ Message.texts (d.channel.queue ++ before.map Delivery.message)
        parked? := none
        journal := d.journal ++ reported d.channel.now d.channel.queue ++
          reports d.channel.now before })
  /-- The wait does not go on past its time, whatever is read. -/
  inTime : wait.2.channel.now ≤ deadline

section
variable {α : Type} {answer? : Message → Option α} {slot : Message → Option InputKind}
  {awaited : Awaited} {limit : Duration} {d : Dialogue} {wait : Except TestError α × Dialogue}

/-- A wait that ends as its hearing does waits as it should. -/
theorem waits_of_hear (outcome : Channel.Received → Except TestError α)
    (kept : Channel.Received → Option InputKind)
    (hw : wait =
      let x := d.channel.hear (fun m => (answer? m).isSome) (d.deadline limit)
      (outcome x.ended, { d.heard x with parked? := kept x.ended }))
    (answered : ∀ m a, answer? m = some a → outcome (.message m) = .ok a)
    (slotted : ∀ m, kept (.message m) = slot m)
    (closed : outcome .closed = .error .bridgeClosed ∧ kept .closed = none)
    (late : outcome .late = .error (.timeout awaited limit) ∧ kept .late = none) :
    Waits answer? slot awaited limit (d.deadline limit) d wait := by
  have unwanted {m : Message} (h : answer? m = none) : (answer? m).isSome = false := by
    rw [h]
    rfl
  have wanted {m : Message} {a : α} (h : answer? m = some a) : (answer? m).isSome = true := by
    rw [h]
    rfl
  have ends {read : List Message} {shown : Journal} {ended : Channel.Received}
      {channel : Channel}
      (h : (d.channel.hear (fun m => (answer? m).isSome) (d.deadline limit)).Amounts read shown
        ended channel) :
      wait = (outcome ended,
        { channel := channel
          buffer := d.buffer ++ Message.texts read
          parked? := kept ended
          journal := d.journal ++ shown }) := by
    rw [hw]
    dsimp only [heard]
    rw [h.read, h.shown, h.ended, h.channel]
  obtain ⟨⟨now, queue, scheduled, closes?⟩, buffer, parked?, journal⟩ := d
  refine ⟨?_, ?_, ?_, ?_, ?_⟩
  · intro before m after a hq hb hm
    cases hq
    rw [ends (Channel.hear_of_queued (fun b h => unwanted (hb b h)) (wanted hm)),
      answered m a hm, slotted]
  · intro hq before x after a hs hb hx ht
    cases hs
    rw [ends (Channel.hear_of_arriving (fun b h => unwanted (hq b h))
      (fun b h => unwanted (hb b h)) (wanted hx) ht), answered _ a hx, slotted, List.append_assoc]
  · intro hq hs time hc inTime ht
    cases hc
    rw [ends (Channel.hear_of_closed (fun b h => unwanted (hq b h))
      (fun b h => unwanted (hs b h)) ht inTime), closed.1, closed.2, List.append_assoc]
  · intro hq before after hs hb ht ha ho
    cases hs
    rw [ends (Channel.hear_of_late (Nat.le_add_right _ _) (fun b h => unwanted (hq b h))
      (fun b h => unwanted (hb b h)) ht ha ho), late.1, late.2, List.append_assoc]
  · rw [hw]
    exact Nat.le_trans (Channel.now_hear_le _ _ _)
      (Nat.max_le.2 ⟨Nat.le_add_right _ _, Nat.le_refl _⟩)

/-- A request that ends a wait for output is parked where none is. -/
theorem parking_of_free (h : d.parked? = none) (ended : Channel.Received) :
    d.parking ended =
      { d with parked? := ended.messages.head?.bind Message.request? } := by
  obtain ⟨channel, buffer, parked?, journal⟩ := d
  cases h
  rcases ended with m | _ | _
  · cases m with
    | data event => cases event <;> rfl
    | log line => rfl
  · rfl
  · rfl

/-- A wait for a request waits for the first request. -/
theorem waits_nextRequest (limit : Duration) (h : d.parked? = none) :
    Waits Message.request? (fun _ => none) .inputRequest limit (d.deadline limit) d
      (d.nextRequest limit) := by
  refine waits_of_hear (requestOutcome limit) (fun _ => none) ?_ ?_ (fun _ => rfl)
    ⟨rfl, rfl⟩ ⟨rfl, rfl⟩
  · rw [nextRequest_eq, hearing_of_free h]
  · intro m kind hm
    rw [Message.eq_of_request? hm]
    rfl

/-- A wait for output waits for the first data, and parks it if it is a request. -/
theorem waits_finalOutput (limit : Duration) (h : d.parked? = none) :
    Waits Message.data? Message.request? .finalOutput limit (d.deadline limit) d
      (d.finalOutput limit) := by
  have same : (fun m : Message => m.data?.isSome) = Message.isData := by
    funext m
    cases m <;> rfl
  refine waits_of_hear (outputOutcome limit)
    (fun ended => ended.messages.head?.bind Message.request?) ?_ (fun _ _ _ => rfl)
    (fun _ => rfl) ⟨rfl, rfl⟩ ⟨rfl, rfl⟩
  rw [same, finalOutput_eq, hearing_of_free h]
  have free : (d.heard (d.channel.hear Message.isData (d.deadline limit))).parked? = none := h
  exact congrArg (Prod.mk _) (parking_of_free free _)

end

/-- The time of a wait is up at the first millisecond that is no earlier. -/
theorem deadline_le_iff (d : Dialogue) (limit : Duration) (time : Nat) :
    d.deadline limit ≤ time ↔ d.channel.now * 1000000 + limit.nanos ≤ time * 1000000 := by
  unfold deadline Duration.ticks
  omega

/-- **How waits end.**  If a request is parked, a wait for a request claims it and a wait for output
leaves it, at once and with nothing read.  Otherwise the wait for a request waits for the first
request, and the wait for output for the first text or request and parks a request; and both end
as `Waits` says.  A wait of some milliseconds is up just so many milliseconds later, and any other
one at the first millisecond that is no earlier.  Where the schedule is in the order of time, what
ends a wait has arrived when it was due, or had arrived before. -/
theorem waits_end (limit : Duration) (d : Dialogue) :
    (∀ kind, d.parked? = some kind →
      d.nextRequest limit = (.ok kind, { d with parked? := none }) ∧
        d.finalOutput limit = (.ok (), d)) ∧
    (d.parked? = none → ∃ deadline,
      (∀ ms, limit.nanos = ms * 1000000 → deadline = d.channel.now + ms) ∧
      (∀ time, deadline ≤ time ↔ d.channel.now * 1000000 + limit.nanos ≤ time * 1000000) ∧
      Waits Message.request? (fun _ => none) .inputRequest limit deadline d
        (d.nextRequest limit) ∧
      Waits Message.data? Message.request? .finalOutput limit deadline d
        (d.finalOutput limit)) ∧
    ((d.channel.scheduled.Pairwise fun a b => a.due ≤ b.due) →
      ∀ before x after, d.channel.scheduled = before ++ x :: after →
        arrived d.channel.now (before ++ [x]) = max d.channel.now x.due) := by
  refine ⟨?_, ?_, ?_⟩
  · intro kind h
    rw [nextRequest, finalOutput, h]
    exact ⟨rfl, rfl⟩
  · intro h
    refine ⟨d.deadline limit, ?_, deadline_le_iff d limit, waits_nextRequest limit h,
      waits_finalOutput limit h⟩
    intro ms hms
    have whole : limit = .ofMillis ms := congrArg Duration.mk hms
    rw [whole, deadline, Duration.ticks_ofMillis]
  · intro ordered before x after hs
    rw [hs] at ordered
    refine Channel.arrived_of_ordered fun b hb => ?_
    exact (List.pairwise_append.1 ordered).2.2 b hb x List.mem_cons_self

/-- A page that closes its end during a wait ends it when what is under way has arrived. -/
example :
    (({ channel := { scheduled := [⟨3, .log "Bye"⟩], closes? := some 2 } } :
        Dialogue).nextRequest (Duration.ofMillis 10)).1 = .error .bridgeClosed := by
  cbv

/-- What arrives at the very end of a wait is not read by it. -/
example :
    (({ channel := { scheduled := [⟨3, .data (.bufferText "One")⟩,
        ⟨10, .data (.inputRequested .line)⟩] } } : Dialogue).nextRequest (Duration.ofMillis 10)).1 =
      .error (.timeout .inputRequest (Duration.ofMillis 10)) := by
  cbv

end Dialogue
end Playtest
