/-
# Texts in other pieces

The page may send a text in one message or in many.  `Recut` relates two lists in which the same
texts stand at the same places, cut into pieces in any way; all else is the same.  It is used of
what a page emits, of what is under way and has arrived, and of the journal.

This file proves that channels do not see the cuts.  Whatever the page emits and however the clock
moves, the queues stay the same but for the cuts, and a wait for a request hears the same: it ends
in the same way and at the same time, and the texts that it reads are the same when they are put
together (`hear_recut`).  The reason is that a request is what a wait looks for, and texts only
stand on the way to it.
-/
import Playtest.Proofs.Run.Effects

namespace Playtest

/-! ## 1. Lists with texts in them -/

section
variable {α β : Type}

/-- The same lists, but for the cuts of their texts.  A text stands at a place, and at a place that
is not `loose` at least one piece of it is left. -/
inductive Recut (text : β → String → α) (loose : β → Prop) : List α → List α → Prop where
  | nil : Recut text loose [] []
  | same {xs ys} (x : α) (rest : Recut text loose xs ys) : Recut text loose (x :: xs) (x :: ys)
  | texts {xs ys} (place : β) {as bs : List String} (joined : String.join as = String.join bs)
    (some : ¬loose place → as ≠ [] ∧ bs ≠ []) (rest : Recut text loose xs ys) :
    Recut text loose (as.map (text place) ++ xs) (bs.map (text place) ++ ys)

namespace Recut

variable {text : β → String → α} {loose : β → Prop} {xs ys xs' ys' : List α}

theorem refl (xs : List α) : Recut text loose xs xs := by
  induction xs with
  | nil => exact .nil
  | cons x xs ih => exact .same x ih

theorem append (h : Recut text loose xs ys) (h' : Recut text loose xs' ys') :
    Recut text loose (xs ++ xs') (ys ++ ys') := by
  induction h with
  | nil => exact h'
  | same x rest ih => exact .same x ih
  | texts place joined some rest ih =>
    rw [List.append_assoc, List.append_assoc]
    exact .texts place joined some ih

/-- The pieces of one text. -/
theorem pieces (place : β) {as bs : List String} (joined : String.join as = String.join bs)
    (some : ¬loose place → as ≠ [] ∧ bs ≠ []) :
    Recut text loose (as.map (text place)) (bs.map (text place)) := by
  have pieces : Recut text loose (as.map (text place) ++ []) (bs.map (text place) ++ []) :=
    .texts place joined some .nil
  rwa [List.append_nil, List.append_nil] at pieces

/-- A function that takes a text to a text does not see the cuts. -/
theorem flatMap {α' β' : Type} {text' : β' → String → α'} {loose' : β' → Prop} (f : α → List α')
    (at' : β → β') (hf : ∀ place s, f (text place s) = [text' (at' place) s])
    (hl : ∀ place, loose place → loose' (at' place)) (h : Recut text loose xs ys) :
    Recut text' loose' (xs.flatMap f) (ys.flatMap f) := by
  have cut (place : β) (as : List String) :
      (as.map (text place)).flatMap f = as.map (text' (at' place)) := by
    induction as with
    | nil => rfl
    | cons a as ih => rw [List.map_cons, List.flatMap_cons, hf, ih]; rfl
  induction h with
  | nil => exact .nil
  | same x rest ih =>
    rw [List.flatMap_cons, List.flatMap_cons]
    exact (refl (f x)).append ih
  | texts place joined some rest ih =>
    rw [List.flatMap_append, List.flatMap_append, cut, cut]
    exact .texts (at' place) joined (fun tight => some fun l => tight (hl place l)) ih

end Recut

end

/-- Messages that have arrived.  It makes no difference whether an empty text is among them. -/
abbrev Message.Recut : List Message → List Message → Prop :=
  Playtest.Recut (fun (_ : Unit) s => .data (.bufferText s)) fun _ => True

/-- Messages under way.  As long as one is, the bridge is open, so a text does not vanish. -/
abbrev Delivery.Recut : List Delivery → List Delivery → Prop :=
  Playtest.Recut (fun due s => ⟨due, .data (.bufferText s)⟩) fun _ => False

/-- What is written down: the outputs with their times. -/
abbrev Journal.Recut : Journal → Journal → Prop :=
  Playtest.Recut (fun time s => ⟨time, .output s⟩) fun _ => True

/-- A text that a page emits, at once or some time later. -/
def Emission.text : Option Nat → String → Emission
  | none, s => .now (.data (.bufferText s))
  | some delay, s => .later delay (.data (.bufferText s))

/-- What a page emits.  A text that comes later is under way meanwhile, and does not vanish. -/
abbrev Emission.Recut : List Emission → List Emission → Prop :=
  Playtest.Recut Emission.text (· = none)

/-! ## 2. Messages -/

section
variable {xs ys : List Message}

theorem Message.texts_map (as : List String) (xs : List Message) :
    texts (as.map (fun s => .data (.bufferText s)) ++ xs) = String.join as ++ texts xs := by
  induction as with
  | nil => simp
  | cons a as ih =>
    rw [List.map_cons, List.cons_append, texts, ih, String.join_cons, String.append_assoc]
    rfl

/-- The texts are the same when they are put together. -/
theorem Message.Recut.texts_eq (h : Message.Recut xs ys) : texts xs = texts ys := by
  induction h with
  | nil => rfl
  | same m rest ih => rw [texts, texts, ih]
  | texts place joined some rest ih => rw [texts_map, texts_map, joined, ih]

/-- The requests are the same. -/
theorem Message.Recut.requests_eq (h : Message.Recut xs ys) : requests xs = requests ys := by
  have none (as : List String) :
      requests (as.map fun s => .data (.bufferText s)) = [] := by
    induction as with
    | nil => rfl
    | cons a as ih => exact ih
  induction h with
  | nil => rfl
  | @same xs ys m rest ih =>
    have cons (ms : List Message) : requests (m :: ms) = requests [m] ++ requests ms :=
      requests_append [m] ms
    rw [cons xs, cons ys, ih]
  | texts place joined some rest ih =>
    rw [requests_append, requests_append, none, none, ih]

/-- What is reported of messages that are read at one time is the same. -/
theorem Message.Recut.shown (h : Message.Recut xs ys) (time : Nat) :
    Journal.Recut ((xs.flatMap Message.shown).map (TimedEvent.mk time))
      ((ys.flatMap Message.shown).map (TimedEvent.mk time)) := by
  rw [List.map_flatMap, List.map_flatMap]
  exact h.flatMap _ (fun _ => time) (fun _ _ => rfl) fun _ _ => trivial

end

/-! ## 3. Channels -/

section
variable {xs ys : List Delivery}

/-- What is due by a time is the same, and so is what is due later. -/
theorem Delivery.Recut.split (h : Delivery.Recut xs ys) (time : Nat) :
    Delivery.Recut (xs.takeWhile fun d => d.due ≤ time) (ys.takeWhile fun d => d.due ≤ time) ∧
      Delivery.Recut (xs.dropWhile fun d => d.due ≤ time) (ys.dropWhile fun d => d.due ≤ time) := by
  induction h with
  | nil => exact ⟨.nil, .nil⟩
  | same d rest ih =>
    by_cases hd : d.due ≤ time
    · simp only [List.takeWhile_cons, List.dropWhile_cons, hd, decide_true, if_true]
      exact ⟨.same d ih.1, ih.2⟩
    · simp only [List.takeWhile_cons, List.dropWhile_cons, hd, decide_false]
      exact ⟨.nil, .same d rest⟩
  | @texts xs ys due as bs joined some rest ih =>
    by_cases hd : due ≤ time
    · have all (as : List String) :
          ∀ d ∈ as.map fun s => (⟨due, .data (.bufferText s)⟩ : Delivery),
            decide (d.due ≤ time) = true := by
        intro d hm
        obtain ⟨a, -, rfl⟩ := List.mem_map.1 hm
        simpa using hd
      rw [List.takeWhile_append_of_pos (all as), List.takeWhile_append_of_pos (all bs),
        List.dropWhile_append_of_pos (all as), List.dropWhile_append_of_pos (all bs)]
      exact ⟨.texts due joined some ih.1, ih.2⟩
    · obtain ⟨ha, hb⟩ := some id
      obtain ⟨a, as, rfl⟩ := List.exists_cons_of_ne_nil ha
      obtain ⟨b, bs, rfl⟩ := List.exists_cons_of_ne_nil hb
      have whole : Delivery.Recut _ _ := .texts due joined some rest
      simp only [List.map_cons, List.cons_append] at whole ⊢
      simp only [List.takeWhile_cons, List.dropWhile_cons, hd, decide_false]
      exact ⟨.nil, whole⟩

/-- Deliveries bring the same messages. -/
theorem Delivery.Recut.messages (h : Delivery.Recut xs ys) :
    Message.Recut (xs.map (·.message)) (ys.map (·.message)) := by
  have single (ds : List Delivery) : ds.map (·.message) = ds.flatMap fun d => [d.message] :=
    List.map_eq_flatMap
  rw [single, single]
  exact h.flatMap _ (fun _ => ()) (fun _ _ => rfl) fun _ _ => trivial

/-- Something is under way on both sides, due at the same time, or on neither side. -/
theorem Delivery.Recut.first (h : Delivery.Recut xs ys) :
    xs = [] ∧ ys = [] ∨
      ∃ d e xs' ys', xs = d :: xs' ∧ ys = e :: ys' ∧ d.due = e.due := by
  cases h with
  | nil => exact .inl ⟨rfl, rfl⟩
  | same d rest => exact .inr ⟨d, d, _, _, rfl, rfl, rfl⟩
  | texts time joined some rest =>
    obtain ⟨ha, hb⟩ := some id
    obtain ⟨a, as, rfl⟩ := List.exists_cons_of_ne_nil ha
    obtain ⟨b, bs, rfl⟩ := List.exists_cons_of_ne_nil hb
    exact .inr ⟨_, _, _, _, rfl, rfl, rfl⟩

end

namespace Channel

/-- The same channels, but for the cuts. -/
structure Recut (a b : Channel) : Prop where
  now : a.now = b.now
  queue : Message.Recut a.queue b.queue
  scheduled : Delivery.Recut a.scheduled b.scheduled
  closes : a.closes? = b.closes?

variable {a b : Channel}

theorem Recut.isOpen (h : Recut a b) : a.isOpen = b.isOpen := by
  rw [Channel.isOpen, Channel.isOpen, h.now, h.closes]

theorem Recut.at (h : Recut a b) (time : Nat) :
    Recut { a with now := time } { b with now := time } :=
  { h with now := rfl }

theorem Recut.arrive (h : Recut a b) : Recut a.arrive b.arrive := by
  obtain ⟨due, later⟩ := h.scheduled.split a.now
  rw [Channel.arrive, Channel.arrive, ← h.now]
  exact ⟨rfl, h.queue.append due.messages, later, h.closes⟩

theorem Recut.sleep (h : Recut a b) (ms : Nat) : Recut (a.sleep ms) (b.sleep ms) := by
  rw [Channel.sleep, Channel.sleep, ← h.now]
  split
  · exact h
  · exact ((h.at _).arrive).at _

section
variable (d : Delivery) (ds : List Delivery)

theorem insert_eq : insert d ds =
    (ds.takeWhile fun e => e.due ≤ d.due) ++ d :: ds.dropWhile fun e => e.due ≤ d.due := by
  induction ds with
  | nil => rfl
  | cons e ds ih =>
    rw [insert]
    by_cases h : e.due ≤ d.due
    · simp [h, ih]
    · simp [h]

/-- A delivery is put behind all that is due no later. -/
theorem takeWhile_insert :
    ((insert d ds).takeWhile fun e => e.due ≤ d.due) =
      (ds.takeWhile fun e => e.due ≤ d.due) ++ [d] := by
  induction ds with
  | nil => simp [insert]
  | cons e ds ih =>
    rw [insert]
    by_cases h : e.due ≤ d.due
    · simp [h, ih]
    · simp [h]

theorem dropWhile_insert :
    ((insert d ds).dropWhile fun e => e.due ≤ d.due) = ds.dropWhile fun e => e.due ≤ d.due := by
  induction ds with
  | nil => simp [insert]
  | cons e ds ih =>
    rw [insert]
    by_cases h : e.due ≤ d.due
    · simp [h, ih]
    · simp [h]

end

/-- Pieces that arrive at once come behind what is in the queue. -/
theorem emitAll_now (as : List String) (ch : Channel) :
    ch.emitAll (as.map (Emission.text none)) =
      if ch.isOpen then
        { ch with queue := ch.queue ++ as.map fun s => .data (.bufferText s) }
      else ch := by
  induction as generalizing ch with
  | nil => simp [emitAll]
  | cons a as ih =>
    have step : ch.emitAll ((a :: as).map (Emission.text none)) =
        (ch.post (.data (.bufferText a))).emitAll (as.map (Emission.text none)) := rfl
    rw [step, ih, isOpen_post, post]
    cases ch.isOpen <;> simp

/-- Pieces that come later come one behind the other. -/
theorem emitAll_later (delay : Nat) (as : List String) (ch : Channel) :
    ch.emitAll (as.map (Emission.text (some delay))) =
      if ch.isOpen then
        { ch with
          scheduled := (ch.scheduled.takeWhile fun d => d.due ≤ ch.now + delay) ++
            ((as.map fun s => ⟨ch.now + delay, .data (.bufferText s)⟩) ++
              ch.scheduled.dropWhile fun d => d.due ≤ ch.now + delay) }
      else ch := by
  induction as generalizing ch with
  | nil => simp [emitAll]
  | cons a as ih =>
    have step : ch.emitAll ((a :: as).map (Emission.text (some delay))) =
        (ch.postLater delay (.data (.bufferText a))).emitAll
          (as.map (Emission.text (some delay))) := rfl
    rw [step, ih, isOpen_postLater, postLater]
    cases ch.isOpen with
    | false => simp
    | true =>
      have before := takeWhile_insert ⟨ch.now + delay, .data (.bufferText a)⟩ ch.scheduled
      have behind := dropWhile_insert ⟨ch.now + delay, .data (.bufferText a)⟩ ch.scheduled
      dsimp only at before behind
      simp [before, behind]

theorem Recut.post (h : Recut a b) (m : Message) : Recut (a.post m) (b.post m) := by
  rw [Channel.post, Channel.post, ← h.isOpen]
  split
  · exact ⟨h.now, h.queue.append (.refl [m]), h.scheduled, h.closes⟩
  · exact h

theorem Recut.postLater (h : Recut a b) (delay : Nat) (m : Message) :
    Recut (a.postLater delay m) (b.postLater delay m) := by
  obtain ⟨before, behind⟩ := h.scheduled.split (a.now + delay)
  rw [Channel.postLater, Channel.postLater, ← h.isOpen, ← h.now, insert_eq, insert_eq]
  split
  · exact ⟨rfl, h.queue, before.append (.same _ behind), h.closes⟩
  · exact h

theorem Recut.close (h : Recut a b) (delay : Nat) : Recut (a.close delay) (b.close delay) := by
  refine { h with closes := ?_ }
  rw [Channel.close, Channel.close, h.now, h.closes]

/-- **Emissions keep channels the same**, but for the cuts. -/
theorem Recut.emitAll {es fs : List Emission} (h : Recut a b) (he : Emission.Recut es fs) :
    Recut (a.emitAll es) (b.emitAll fs) := by
  have append (ch : Channel) (es fs : List Emission) :
      ch.emitAll (es ++ fs) = (ch.emitAll es).emitAll fs := List.foldl_append
  induction he generalizing a b with
  | nil => exact h
  | same e rest ih =>
    cases e with
    | now m => exact ih (h.post m)
    | later delay m => exact ih (h.postLater delay m)
    | close delay => exact ih (h.close delay)
  | texts place joined some rest ih =>
    rw [append, append]
    refine ih ?_
    cases place with
    | none =>
      rw [emitAll_now, emitAll_now, ← h.isOpen]
      split
      · have pieces : Message.Recut _ _ := .pieces () joined fun tight => absurd trivial tight
        exact ⟨h.now, h.queue.append pieces, h.scheduled, h.closes⟩
      · exact h
    | some delay =>
      obtain ⟨before, behind⟩ := h.scheduled.split (a.now + delay)
      rw [emitAll_later, emitAll_later, ← h.isOpen, ← h.now]
      split
      · have later : Delivery.Recut _ _ :=
          .texts (a.now + delay) joined (fun _ => some (by simp)) behind
        exact ⟨rfl, h.queue, before.append later, h.closes⟩
      · exact h

end Channel

/-! ## 4. Waits for a request -/

/-- The same hearings, but for the cuts. -/
structure Hearing.Recut (x y : Hearing) : Prop where
  ended : x.ended = y.ended
  texts : Message.texts x.read = Message.texts y.read
  shown : Journal.Recut x.shown y.shown
  channel : x.channel.Recut y.channel

theorem Channel.Recut.refl (ch : Channel) : ch.Recut ch :=
  ⟨rfl, .refl _, .refl _, rfl⟩

theorem Hearing.Recut.refl (x : Hearing) : x.Recut x :=
  ⟨rfl, rfl, .refl _, .refl _⟩

namespace Channel

variable {deadline : Nat}

/-- A wait with an empty queue lets the clock go to the first delivery, and then reads it. -/
theorem receive_awake {now : Nat} {d : Delivery} (later : List Delivery) (closes? : Option Nat)
    (ht : max now d.due < deadline) :
    (⟨now, [], d :: later, closes?⟩ : Channel).receive deadline =
      (⟨max now d.due, [], d :: later, closes?⟩ : Channel).arrive.receive deadline := by
  have due : d.due ≤ max now d.due := Nat.le_max_right _ _
  simp only [receive, arrive, ht, due, if_true, decide_true, List.takeWhile_cons,
    List.dropWhile_cons, List.map_cons, List.nil_append]

/-- What the clock comes to is not under way any more. -/
theorem length_awake (now : Nat) (d : Delivery) (later : List Delivery) (closes? : Option Nat) :
    (⟨max now d.due, [], d :: later, closes?⟩ : Channel).arrive.scheduled.length <
      (d :: later).length := by
  have due : d.due ≤ max now d.due := Nat.le_max_right _ _
  have first : ((d :: later).dropWhile fun x => x.due ≤ max now d.due) =
      later.dropWhile fun x => x.due ≤ max now d.due :=
    List.dropWhile_cons_of_pos (decide_eq_true due)
  have rest : (later.dropWhile fun x => x.due ≤ max now d.due).length ≤ later.length :=
    (List.dropWhile_sublist _).length_le
  rw [arrive, first]
  exact Nat.lt_succ_of_le rest

/-- What a hearing reads depends on what is received. -/
theorem hear_congr {ch ch' : Channel} (wanted : Message → Bool)
    (h : ch.receive deadline = ch'.receive deadline) :
    (ch.hear wanted deadline).ended = (ch'.hear wanted deadline).ended ∧
      (ch.hear wanted deadline).read = (ch'.hear wanted deadline).read ∧
      (ch.hear wanted deadline).shown = (ch'.hear wanted deadline).shown ∧
      (ch.hear wanted deadline).channel = (ch'.hear wanted deadline).channel := by
  rcases hr : ch'.receive deadline with ⟨m | _ | _, next⟩
  · cases hw : wanted m with
    | true =>
      rw [hear_of_wanted (h.trans hr) hw, hear_of_wanted hr hw]
      exact ⟨rfl, rfl, rfl, rfl⟩
    | false =>
      rw [hear_of_unwanted (h.trans hr) hw, hear_of_unwanted hr hw]
      exact ⟨rfl, rfl, rfl, rfl⟩
  · rw [hear_of_none (h.trans hr) (by simp), hear_of_none hr (by simp)]
    exact ⟨rfl, rfl, rfl, rfl⟩
  · rw [hear_of_none (h.trans hr) (by simp), hear_of_none hr (by simp)]
    exact ⟨rfl, rfl, rfl, rfl⟩

/-- Channels that receive the same have the same cuts in their hearings. -/
theorem recut_of_receive {a a' b b' : Channel} {wanted : Message → Bool}
    (ha : a.receive deadline = a'.receive deadline) (hb : b.receive deadline = b'.receive deadline)
    (h : (a'.hear wanted deadline).Recut (b'.hear wanted deadline)) :
    (a.hear wanted deadline).Recut (b.hear wanted deadline) := by
  obtain ⟨ended, read, shown, channel⟩ := hear_congr wanted ha
  obtain ⟨ended', read', shown', channel'⟩ := hear_congr wanted hb
  constructor
  · rw [ended, ended', h.ended]
  · rw [read, read', h.texts]
  · rw [shown, shown']
    exact h.shown
  · rw [channel, channel']
    exact h.channel

/-- A wait that hears nothing more hears nothing more on either side. -/
theorem recut_of_late {now : Nat} {d e : Delivery} {later later' : List Delivery}
    {closes? : Option Nat}
    (wanted : Message → Bool) (hs : Delivery.Recut (d :: later) (e :: later'))
    (hd : d.due = e.due) (ht : ¬max now d.due < deadline) :
    ((⟨now, [], d :: later, closes?⟩ : Channel).hear wanted deadline).Recut
      ((⟨now, [], e :: later', closes?⟩ : Channel).hear wanted deadline) := by
  have late : (⟨now, [], d :: later, closes?⟩ : Channel).receive deadline =
      (.late, ⟨max now deadline, [], d :: later, closes?⟩) := by
    simp [receive, ht]
  have late' : (⟨now, [], e :: later', closes?⟩ : Channel).receive deadline =
      (.late, ⟨max now deadline, [], e :: later', closes?⟩) := by
    simp [receive, ← hd, ht]
  rw [hear_of_none late (by simp), hear_of_none late' (by simp)]
  exact ⟨rfl, rfl, .nil, rfl, .nil, hs, rfl⟩

/-- The pieces of a text are read on the way to a request. -/
theorem hear_texts (deadline : Nat) (as : List String) (ch : Channel) :
    let x := ({ ch with queue := (as.map fun s => .data (.bufferText s)) ++ ch.queue } :
      Channel).hear (·.request?.isSome) deadline
    let y := ch.hear (·.request?.isSome) deadline
    x.ended = y.ended ∧ Message.texts x.read = String.join as ++ Message.texts y.read ∧
      x.shown = (as.map fun s => ⟨ch.now, .output s⟩) ++ y.shown ∧ x.channel = y.channel := by
  induction as with
  | nil => simp
  | cons a as ih =>
    obtain ⟨ended, texts, shown, channel⟩ := ih
    have first : ({ ch with
        queue := ((a :: as).map fun s => .data (.bufferText s)) ++ ch.queue } :
          Channel).receive deadline =
        (.message (.data (.bufferText a)),
          { ch with queue := (as.map fun s => .data (.bufferText s)) ++ ch.queue }) := rfl
    rw [hear_of_unwanted first rfl]
    refine ⟨ended, ?_, ?_, channel⟩
    · show a ++ Message.texts _ = _
      rw [texts, String.join_cons, String.append_assoc]
    · exact congrArg (⟨ch.now, .output a⟩ :: ·) shown

/-- **A wait for a request does not hear the cuts.** -/
theorem hear_recut {a b : Channel} (h : a.Recut b) :
    Hearing.Recut (a.hear (·.request?.isSome) deadline) (b.hear (·.request?.isSome) deadline) := by
  -- when the queues are read, the clock goes on and something that was under way is not any more
  induction hn : a.scheduled.length using Nat.strongRecOn generalizing a b with
  | _ n outer =>
    subst hn
    obtain ⟨now, queue, scheduled, closes?⟩ := a
    obtain ⟨now', queue', scheduled', closes?'⟩ := b
    obtain ⟨rfl, hq, hs, rfl⟩ := h
    dsimp only at outer hq hs
    induction hq with
    | nil =>
      rcases hs.first with ⟨rfl, rfl⟩ | ⟨d, e, later, later', rfl, rfl, hd⟩
      · exact .refl _
      · by_cases ht : max now d.due < deadline
        · have start : (⟨max now d.due, [], d :: later, closes?⟩ : Channel).Recut
              ⟨max now e.due, [], e :: later', closes?⟩ := ⟨by rw [hd], .nil, hs, rfl⟩
          have awake := outer _ (length_awake now d later closes?) start.arrive rfl
          exact recut_of_receive (receive_awake later closes? ht)
            (receive_awake later' closes? (hd ▸ ht)) awake
        · exact recut_of_late _ hs hd ht
    | @same xs ys m rest ih =>
      have first (ms : List Message) (ds : List Delivery) :
          (⟨now, m :: ms, ds, closes?⟩ : Channel).receive deadline =
            (.message m, ⟨now, ms, ds, closes?⟩) := rfl
      cases hw : m.request?.isSome with
      | true =>
        rw [hear_of_wanted (first xs scheduled) hw, hear_of_wanted (first ys scheduled') hw]
        exact ⟨rfl, rfl, .refl _, rfl, rest, hs, rfl⟩
      | false =>
        rw [hear_of_unwanted (first xs scheduled) hw, hear_of_unwanted (first ys scheduled') hw]
        exact ⟨ih.ended, congrArg (m.text ++ ·) ih.texts, (Playtest.Recut.refl _).append ih.shown,
          ih.channel⟩
    | @texts xs ys place as bs joined some rest ih =>
      obtain ⟨ended, texts, shown, channel⟩ :=
        hear_texts deadline as ⟨now, xs, scheduled, closes?⟩
      obtain ⟨ended', texts', shown', channel'⟩ :=
        hear_texts deadline bs ⟨now, ys, scheduled', closes?⟩
      constructor
      · rw [ended, ended', ih.ended]
      · rw [texts, texts', joined, ih.texts]
      · rw [shown, shown']
        exact .texts now joined (fun tight => absurd trivial tight) ih.shown
      · rw [channel, channel']
        exact ih.channel

end Channel
end Playtest
