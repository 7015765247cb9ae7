/-
# A performance and its past

A performance that begins late, with a journal that is written in already and errors that are
counted already, has a past.  `Performance.behind` puts a past before a performance: the clock
and all that is under way is set forward, and what was written down, counted and collected
before stands in front.

Nothing that a performance does depends on its past.  Every step gives the same result behind a
past as without it, and leaves what it leaves without it, behind the same past.  That is said
once for each step, from the channel (`receive_delayed`) over the waits (`nextRequest_behind`)
to the tests of a run (`Run.all_behind`).
-/
import Playtest.Proofs.Run.Chronicle
import Playtest.Proofs.Run.Sequence

namespace Playtest

/-! ## 1. Later by some milliseconds -/

/-- The delivery some milliseconds later. -/
def Delivery.delayed (ms : Nat) (d : Delivery) : Delivery := { d with due := d.due + ms }

/-- The event some milliseconds later. -/
def TimedEvent.delayed (ms : Nat) (e : TimedEvent) : TimedEvent := { e with time := e.time + ms }

/-- The journal some milliseconds later. -/
def Journal.delayed (ms : Nat) (j : Journal) : Journal := List.map (TimedEvent.delayed ms) j

theorem Journal.delayed_append (ms : Nat) (j k : Journal) :
    delayed ms (j ++ k) = delayed ms j ++ delayed ms k :=
  List.map_append

/-- Events of one time are later together. -/
theorem Journal.delayed_map (ms time : Nat) (events : List Event) :
    delayed ms (events.map (TimedEvent.mk time)) = events.map (TimedEvent.mk (time + ms)) := by
  rw [delayed, List.map_map]
  rfl

namespace Channel

/-- The channel with its clock set forward. -/
def delayed (ms : Nat) (ch : Channel) : Channel :=
  { ch with
    now := ch.now + ms
    scheduled := ch.scheduled.map (Delivery.delayed ms)
    closes? := ch.closes?.map (· + ms) }

variable (ms : Nat)

@[simp] theorem isOpen_delayed (ch : Channel) : (ch.delayed ms).isOpen = ch.isOpen := by
  rcases h : ch.closes? with _ | time <;> simp [isOpen, delayed, h]

theorem insert_delayed (d : Delivery) (ds : List Delivery) :
    insert (d.delayed ms) (ds.map (Delivery.delayed ms)) =
      (insert d ds).map (Delivery.delayed ms) := by
  induction ds with
  | nil => rfl
  | cons e ds ih =>
    have same : (e.delayed ms).due ≤ (d.delayed ms).due ↔ e.due ≤ d.due := Nat.add_le_add_iff_right
    rw [List.map_cons, insert, insert]
    by_cases h : e.due ≤ d.due
    · rw [if_pos (same.2 h), if_pos h, ih]
      rfl
    · rw [if_neg (mt same.1 h), if_neg h]
      rfl

theorem emit_delayed (ch : Channel) (e : Emission) :
    (ch.delayed ms).emit e = (ch.emit e).delayed ms := by
  cases e with
  | now m =>
    rw [emit, emit, post, post, isOpen_delayed]
    split <;> rfl
  | later delay m =>
    have late : insert ⟨ch.now + ms + delay, m⟩ (ch.scheduled.map (Delivery.delayed ms)) =
        (insert ⟨ch.now + delay, m⟩ ch.scheduled).map (Delivery.delayed ms) := by
      rw [← insert_delayed, Delivery.delayed, Nat.add_right_comm]
    rw [emit, emit, postLater, postLater, isOpen_delayed]
    split
    · simp [delayed, late]
    · rfl
  | close delay =>
    have time : ch.now + ms + delay = ch.now + delay + ms := Nat.add_right_comm _ _ _
    rcases h : ch.closes? with _ | t
    · simp [emit, close, delayed, h, time]
    · simp [emit, close, delayed, h, time, Nat.add_min_add_right]

theorem emitAll_delayed (ch : Channel) (es : List Emission) :
    (ch.delayed ms).emitAll es = (ch.emitAll es).delayed ms := by
  induction es generalizing ch with
  | nil => rfl
  | cons e es ih =>
    have step (ch : Channel) : ch.emitAll (e :: es) = (ch.emit e).emitAll es := rfl
    rw [step, step, emit_delayed, ih]

/-- The same deliveries are due. -/
theorem takeWhile_delayed (now : Nat) (ds : List Delivery) :
    (ds.map (Delivery.delayed ms)).takeWhile (fun d => d.due ≤ now + ms) =
      (ds.takeWhile fun d => d.due ≤ now).map (Delivery.delayed ms) := by
  rw [List.takeWhile_map]
  simp [Function.comp_def, Delivery.delayed]

theorem dropWhile_delayed (now : Nat) (ds : List Delivery) :
    (ds.map (Delivery.delayed ms)).dropWhile (fun d => d.due ≤ now + ms) =
      (ds.dropWhile fun d => d.due ≤ now).map (Delivery.delayed ms) := by
  rw [List.dropWhile_map]
  simp [Function.comp_def, Delivery.delayed]

theorem due_delayed (ch : Channel) : (ch.delayed ms).due = ch.due := by
  have same := congrArg (List.map Delivery.message) (takeWhile_delayed ms ch.now ch.scheduled)
  rw [List.map_map] at same
  exact same

theorem arrive_delayed (ch : Channel) : (ch.delayed ms).arrive = ch.arrive.delayed ms := by
  have arrived := congrArg (ch.queue ++ ·) (due_delayed ms ch)
  have left := dropWhile_delayed ms ch.now ch.scheduled
  exact congrFun (congr (congrArg (Channel.mk (ch.now + ms)) arrived) left) _

theorem sleep_delayed (ch : Channel) (time : Nat) :
    (ch.delayed ms).sleep time = (ch.sleep time).delayed ms := by
  unfold sleep
  by_cases h : time = 0
  · rw [if_pos h, if_pos h]
  · have before : ({ ch.delayed ms with now := (ch.delayed ms).now + time - 1 } : Channel) =
        ({ ch with now := ch.now + time - 1 } : Channel).delayed ms := by
      have : ch.now + ms + time - 1 = ch.now + time - 1 + ms := by omega
      simp [delayed, this]
    rw [if_neg h, if_neg h, before, arrive_delayed]
    have after : ch.now + ms + time = ch.now + time + ms := by omega
    simp [delayed, after]

theorem closing?_delayed (ch : Channel) (deadline : Nat) :
    (ch.delayed ms).closing? (deadline + ms) = (ch.closing? deadline).map (· + ms) := by
  rw [closing?, closing?, delayed, Option.filter_map]
  simp [Function.comp_def]

/-- **A wait is the same wait later.** -/
theorem receive_delayed (ch : Channel) (deadline : Nat) :
    (ch.delayed ms).receive (deadline + ms) =
      ((ch.receive deadline).1, (ch.receive deadline).2.delayed ms) := by
  obtain ⟨now, queue, scheduled, closes?⟩ := ch
  have latest (time : Nat) : max (now + ms) (time + ms) = max now time + ms := by omega
  cases queue with
  | cons m rest => rfl
  | nil =>
    cases scheduled with
    | nil =>
      have closes := closing?_delayed ms ⟨now, [], [], closes?⟩ deadline
      simp only [delayed, List.map_nil] at closes
      rcases h : (⟨now, [], [], closes?⟩ : Channel).closing? deadline with _ | time
      · rw [h] at closes
        rw [receive, receive, h]
        simp [closes, delayed, latest]
      · rw [h] at closes
        rw [receive, receive, h]
        simp [closes, delayed, latest]
    | cons d rest =>
      have arrives := arrive_delayed ms ⟨max now d.due, [], rest, closes?⟩
      by_cases h : max now d.due < deadline
      · simpa [receive, delayed, Delivery.delayed, latest, h] using arrives
      · simp [receive, delayed, Delivery.delayed, latest, h]

theorem dueUntil_delayed (ch : Channel) (deadline : Nat) :
    (ch.delayed ms).dueUntil (deadline + ms) = ch.dueUntil deadline := by
  obtain ⟨now, queue, scheduled, closes?⟩ := ch
  have latest (time : Nat) : max (now + ms) (time + ms) = max now time + ms := by omega
  cases queue with
  | cons m rest => rfl
  | nil =>
    cases scheduled with
    | nil => rfl
    | cons d rest =>
      have arrives := due_delayed ms ⟨max now d.due, [], rest, closes?⟩
      by_cases h : max now d.due < deadline
      · simpa [dueUntil, delayed, Delivery.delayed, latest, h] using arrives
      · simp [dueUntil, delayed, Delivery.delayed, latest, h]

end Channel

/-- The hearing some milliseconds later. -/
def Hearing.delayed (ms : Nat) (x : Hearing) : Hearing :=
  { x with shown := x.shown.delayed ms, channel := x.channel.delayed ms }

theorem Hearing.delayed_behind (ms : Nat) (x : Hearing) (delivered : List Message) (m : Message)
    (shown : Journal) :
    (x.behind delivered m shown).delayed ms =
      (x.delayed ms).behind delivered m (shown.delayed ms) := by
  simp only [delayed, behind, Journal.delayed_append]

/-- **What is heard is heard later.** -/
theorem Channel.hear_delayed (wanted : Message → Bool) (ms deadline : Nat) (ch : Channel) :
    (ch.delayed ms).hear wanted (deadline + ms) = (ch.hear wanted deadline).delayed ms := by
  induction ch using hear_induction wanted deadline with
  | last ch ch' m h hw =>
    have h' : (ch.delayed ms).receive (deadline + ms) = (.message m, ch'.delayed ms) := by
      rw [receive_delayed, h]
    rw [hear_of_wanted h hw, hear_of_wanted h' hw, dueUntil_delayed]
    simp only [Hearing.delayed, Journal.delayed_map]
    rfl
  | more ch ch' m h hw ih =>
    have h' : (ch.delayed ms).receive (deadline + ms) = (.message m, ch'.delayed ms) := by
      rw [receive_delayed, h]
    rw [hear_of_unwanted h hw, hear_of_unwanted h' hw, ih, dueUntil_delayed,
      Hearing.delayed_behind, Journal.delayed_map]
    rfl
  | none ch ch' ended h hm =>
    have h' : (ch.delayed ms).receive (deadline + ms) = (ended, ch'.delayed ms) := by
      rw [receive_delayed, h]
    rw [hear_of_none h hm, hear_of_none h' hm]
    rfl

/-! ## 2. Pasts -/

/-- What was before a performance. -/
structure Past where
  /-- The milliseconds that it took. -/
  duration : Nat
  journal : Journal
  errors : Nat
  failures : List CheckFailure

namespace Dialogue

/-- The dialogue behind a past. -/
def behind (past : Past) (d : Dialogue) : Dialogue :=
  { d with
    channel := d.channel.delayed past.duration
    journal := past.journal ++ d.journal.delayed past.duration }

variable (past : Past)

theorem record_behind (d : Dialogue) (event : Event) :
    (d.behind past).record event = (d.record event).behind past := by
  simp only [record, behind, Journal.delayed_append, List.append_assoc]
  rfl

theorem hearing_behind (wanted : Message → Bool) (limit : Duration) (d : Dialogue) :
    (d.behind past).hearing wanted limit = (d.hearing wanted limit).delayed past.duration := by
  cases h : d.parked? with
  | some kind =>
    rw [hearing_of_parked h, hearing_of_parked (d := d.behind past) h]
    rfl
  | none =>
    have late : (d.behind past).deadline limit = d.deadline limit + past.duration :=
      Nat.add_right_comm _ _ _
    rw [hearing_of_free h, hearing_of_free (d := d.behind past) h, late]
    exact Channel.hear_delayed wanted past.duration (d.deadline limit) d.channel

theorem heard_delayed (d : Dialogue) (x : Hearing) :
    (d.behind past).heard (x.delayed past.duration) = (d.heard x).behind past := by
  simp only [heard, behind, Hearing.delayed, Journal.delayed_append, List.append_assoc]

theorem parking_behind (d : Dialogue) (ended : Channel.Received) :
    (d.behind past).parking ended = (d.parking ended).behind past := by
  unfold parking
  split <;> rfl

theorem nextRequest_behind (limit : Duration) (d : Dialogue) :
    (d.behind past).nextRequest limit =
      ((d.nextRequest limit).1, (d.nextRequest limit).2.behind past) := by
  rw [nextRequest_eq, nextRequest_eq, hearing_behind, heard_delayed]
  rfl

theorem finalOutput_behind (limit : Duration) (d : Dialogue) :
    (d.behind past).finalOutput limit =
      ((d.finalOutput limit).1, (d.finalOutput limit).2.behind past) := by
  rw [finalOutput_eq, finalOutput_eq, hearing_behind, heard_delayed, parking_behind]
  rfl

theorem drain_behind (d : Dialogue) : (d.behind past).drain = d.drain.behind past := by
  rw [drain_eq, drain_eq]
  simp only [behind, Journal.delayed_append, Journal.delayed_map, List.append_assoc]
  rfl

end Dialogue

/-! ## 3. Performances -/

namespace Performance

variable {σ : Type}

/-- The performance behind a past. -/
def behind (past : Past) (p : Performance σ) : Performance σ :=
  { p with
    dialogue := p.dialogue.behind past
    errors := past.errors + p.errors
    failures := past.failures ++ p.failures }

section
variable (past : Past) (setup : Setup σ)

theorem record_behind (p : Performance σ) (event : Event) :
    (p.behind past).record event = (p.record event).behind past := by
  rw [record, record]
  simp only [behind, Dialogue.record_behind]

theorem answered_behind (p : Performance σ) (answer : Answer × σ) :
    (p.behind past).answered answer =
      ((p.answered answer).1, (p.answered answer).2.behind past) := by
  simp only [answered, behind, Dialogue.behind, Channel.emitAll_delayed, Channel.sleep_delayed]

theorem openPage_behind (url : String) (p : Performance σ) :
    (p.behind past).openPage setup url =
      ((p.openPage setup url).1, (p.openPage setup url).2.behind past) := by
  rw [openPage, openPage, record_behind, answered_behind]
  rfl

theorem send_behind (command : Command) (p : Performance σ) :
    (p.behind past).send setup command =
      ((p.send setup command).1, (p.send setup command).2.behind past) := by
  rw [send, send, record_behind, answered_behind]
  rfl

/-- Messages that arrive while the world changes arrive later. -/
theorem arrive_behind (w : σ) (p : Performance σ) :
    ({ p.behind past with
        world := w
        dialogue := { (p.behind past).dialogue with
          channel := (p.behind past).dialogue.channel.arrive } } : Performance σ) =
      ({ p with
        world := w
        dialogue := { p.dialogue with channel := p.dialogue.channel.arrive } } :
          Performance σ).behind past := by
  simp only [behind, Dialogue.behind, Channel.arrive_delayed]

theorem capture_behind (c : Capture) (p : Performance σ) :
    (p.behind past).capture c setup = (p.capture c setup).behind past := by
  have begun : (p.behind past).record (.rendered c.format) =
      (p.record (.rendered c.format)).behind past := record_behind past p _
  rw [capture, capture, begun]
  generalize p.record (.rendered c.format) = q
  have world : (q.behind past).world = q.world := rfl
  rw [world]
  rcases setup.world.render c.format q.world with ⟨e | bytes, w⟩
  · exact record_behind past ({ q with world := w } : Performance σ) _
  · rcases hs : setup.world.save c.path bytes w with ⟨e | u, w'⟩
    · simp only [hs]
      exact (congrArg (record · _) (arrive_behind past w' q)).trans (record_behind past _ _)
    · simp only [hs]
      exact (congrArg (record · _) (arrive_behind past w' q)).trans (record_behind past _ _)

theorem captureIfWanted_behind (p : Performance σ) :
    (p.behind past).captureIfWanted setup = (p.captureIfWanted setup).behind past := by
  unfold captureIfWanted
  cases setup.capture? with
  | none => rfl
  | some c => exact capture_behind past setup c p

theorem judge_behind (held : List Held) (p : Performance σ) :
    (p.behind past).judge held = (p.judge held).behind past := by
  have noted (failures : List CheckFailure) (time : Nat) :
      failures.map (fun failure => (⟨time + past.duration, .checkFailed failure⟩ : TimedEvent)) =
        Journal.delayed past.duration
          (failures.map fun failure => ⟨time, .checkFailed failure⟩) := by
    rw [Journal.delayed, List.map_map]
    rfl
  rw [judge, judge, foldl_make, foldl_make]
  simp only [behind, Dialogue.behind, Journal.delayed_append, List.append_assoc, Nat.add_assoc,
    ← noted]
  rfl

theorem flush_behind (held : List Held) (p : Performance σ) :
    (p.behind past).flush setup held = (p.flush setup held).behind past := by
  have buffer : (p.behind past).dialogue.buffer = p.dialogue.buffer := rfl
  rw [flush_eq, flush_eq, judge_behind, captureIfWanted_behind, buffer]
  split <;> rfl

theorem waited_behind {α : Type} (p : Performance σ) (result : Except TestError α)
    (d : Dialogue) :
    (p.behind past).waited setup (result, d.behind past) =
      ((p.waited setup (result, d)).1, (p.waited setup (result, d)).2.behind past) := by
  rcases result with e | a
  · cases e with
    | timeout awaited limit =>
      exact congrArg (Prod.mk _)
        (captureIfWanted_behind past setup ({ p with dialogue := d } : Performance σ))
    | protocolViolation expected requested => rfl
    | unknownTest name => rfl
    | includeCycle chain => rfl
    | bridgeClosed => rfl
    | browser error => rfl
  · rfl

/-- **An input behind a past.** -/
theorem giveInput_behind (input : Input) (held : List Held) (p : Performance σ) :
    (p.behind past).giveInput setup input held =
      ((p.giveInput setup input held).1, (p.giveInput setup input held).2.behind past) := by
  have next : (p.behind past).dialogue.nextRequest setup.limit =
      ((p.dialogue.nextRequest setup.limit).1,
        (p.dialogue.nextRequest setup.limit).2.behind past) :=
    Dialogue.nextRequest_behind past setup.limit p.dialogue
  have asked : (p.behind past).asked setup = (p.asked setup).behind past := by
    rw [Performance.asked, next]
    rfl
  rcases ho : (p.dialogue.nextRequest setup.limit).1 with e | requested
  · have ho' : ((p.behind past).dialogue.nextRequest setup.limit).1 = .error e := by rw [next, ho]
    rw [giveInput_of_error input held ho, giveInput_of_error input held ho', next, waited_behind]
  · have ho' : ((p.behind past).dialogue.nextRequest setup.limit).1 = .ok requested := by
      rw [next, ho]
    rw [giveInput_of_ok input held ho, giveInput_of_ok input held ho', asked, flush_behind]
    split
    · rfl
    · rw [send_behind]

/-! ## 4. Scripts -/

theorem recite_behind (items : List Expansion.Item) (held : List Held) (p : Performance σ) :
    (p.behind past).recite setup items held =
      ((p.recite setup items held).1, (p.recite setup items held).2.behind past) := by
  induction items generalizing held p with
  | nil => rfl
  | cons item items ih =>
    cases item with
    | check owner c => exact ih _ p
    | passed x =>
      rw [recite, recite, record_behind]
      exact ih held _
    | input i =>
      rw [recite, recite, giveInput_behind]
      rcases p.giveInput setup i held with ⟨e | u, p'⟩
      · rfl
      · exact ih [] p'

theorem enact_behind (x : Expansion) (held : List Held) (p : Performance σ) :
    (p.behind past).enact setup x held =
      ((p.enact setup x held).1, (p.enact setup x held).2.behind past) := by
  rw [enact, enact, recite_behind]
  rcases p.recite setup x.items held with ⟨e | left, p'⟩ <;> rfl

theorem finish_behind (held : List Held) (p : Performance σ) :
    (p.behind past).finish setup held =
      ((p.finish setup held).1, (p.finish setup held).2.behind past) := by
  have drained : (p.behind past).drained = p.drained.behind past := by
    simp only [Performance.drained, behind, Dialogue.drain_behind]
  by_cases hh : held = []
  · rw [hh]
    rfl
  · have final : (p.behind past).drained.dialogue.finalOutput setup.limit =
        ((p.drained.dialogue.finalOutput setup.limit).1,
          (p.drained.dialogue.finalOutput setup.limit).2.behind past) := by
      rw [drained]
      exact Dialogue.finalOutput_behind past setup.limit p.drained.dialogue
    have buffer : (p.behind past).drained.dialogue.buffer = p.drained.dialogue.buffer := by
      rw [drained]
      rfl
    by_cases hb : p.drained.dialogue.buffer = ""
    · rcases ho : (p.drained.dialogue.finalOutput setup.limit).1 with e | u
      · have ho' : ((p.behind past).drained.dialogue.finalOutput setup.limit).1 = .error e := by
          rw [final, ho]
        rw [finish_of_error hh hb ho, finish_of_error hh (buffer.trans hb) ho', final, drained,
          waited_behind]
      · have ho' : ((p.behind past).drained.dialogue.finalOutput setup.limit).1 = .ok () := by
          rw [final, ho]
        have printed : (p.behind past).drained.printed setup =
            (p.drained.printed setup).behind past := by
          rw [Performance.printed, final, drained]
          rfl
        rw [finish_of_ok hh hb ho, finish_of_ok hh (buffer.trans hb) ho', printed, flush_behind]
    · have hb' : (p.behind past).drained.dialogue.buffer ≠ "" := buffer ▸ hb
      rw [finish_of_text hh hb, finish_of_text hh hb', drained, flush_behind]

end
end Performance

/-! ## 5. Tests -/

namespace Run

variable {σ : Type} (past : Past) (setup : Setup σ) (file : TestFile) (url : String)

theorem begun_behind (name : String) (p : Performance σ) :
    begun name (p.behind past) = (begun name p).behind past := by
  rw [begun, begun, Performance.record_behind]
  rfl

theorem opened_behind (name : String) (p : Performance σ) :
    opened setup url name (p.behind past) = (opened setup url name p).behind past := by
  rw [opened, opened, begun_behind, Performance.openPage_behind]

/-- **A test behind a past.** -/
theorem one_behind (name : String) (p : Performance σ) :
    one setup file url name (p.behind past) =
      ((one setup file url name p).1, (one setup file url name p).2.behind past) := by
  have answer : openAnswer setup url (p.behind past) = openAnswer setup url p := rfl
  rw [one_eq_enact, one_eq_enact, opened_behind, answer]
  rcases (openAnswer setup url p).result with e | u
  · rfl
  · dsimp only
    rw [Performance.enact_behind]
    rcases (opened setup url name p).enact setup (file.expansion name) [] with ⟨e | left, q⟩
    · rfl
    · exact Performance.finish_behind past setup left q

/-- **Tests behind a past.** -/
theorem all_behind (names : List String) (p : Performance σ) :
    all setup file url names (p.behind past) =
      ((all setup file url names p).1, (all setup file url names p).2.behind past) := by
  have result (name : String) (p : Performance σ) :
      (one setup file url name (p.behind past)).1 = (one setup file url name p).1 := by
    rw [one_behind]
  induction names, p using all_induction setup file url with
  | nil p => rfl
  | ok name names p hr ih =>
    rw [all_of_ok setup file url names hr, all_of_ok setup file url names ((result _ _).trans hr),
      one_behind]
    exact ih
  | fatal name names p e hr hf =>
    rw [all_of_fatal setup file url names hr hf,
      all_of_fatal setup file url names ((result _ _).trans hr) hf, one_behind]
  | goesOn name names p e hr hf ih =>
    have counts (q : Performance σ) :
        counted name e (q.behind past) = (counted name e q).behind past :=
      Performance.record_behind past ({ q with errors := q.errors + 1 } : Performance σ) _
    rw [all_of_counted setup file url names hr hf,
      all_of_counted setup file url names ((result _ _).trans hr) hf, one_behind, counts, ih]

end Run
end Playtest
