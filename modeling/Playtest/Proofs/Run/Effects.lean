/-
# What each step of a performance does

A performance reads messages only in its waits.  All its other steps (a call of the page, a
rendering, a note in the journal) let messages arrive and leave the rest of the conversation
alone; making checks counts those that do not hold.  This file says so once for each step, and
the proofs about whole tests use these statements in place of the definitions.

`Arrives p delivered p'` is the common form: from `p` to `p'` the messages `delivered` join the
queue, and nothing is read, gathered, counted or said.
-/
import Playtest.Proofs.Run.Hearing
import Playtest.Run.Performance

namespace Playtest

/-! ## 1. What is said -/

/-- The event is part of the conversation with the game, or says that a check failed. -/
def Event.isSaid : Event → Bool
  | .output _ => true
  | .log _ => true
  | .checkFailed _ => true
  | .sent _ => true
  | _ => false

/-- The event is neither a step of the run nor a check that failed: what the game says, what is
said to it, and what is noted about renderings and malformed lines. -/
def Event.isPlain : Event → Bool
  | .output _ => true
  | .log _ => true
  | .saved _ => true
  | .sent _ => true
  | .rendered _ => true
  | .warned _ => true
  | _ => false

/-- What is said in a journal, in order. -/
def Journal.said (journal : Journal) : List Event :=
  (journal.map TimedEvent.event).filter Event.isSaid

theorem Journal.said_append (j k : Journal) : said (j ++ k) = said j ++ said k := by
  simp [said]

/-- All that is reported of messages is said. -/
theorem Message.isSaid_shown (messages : List Message) :
    ∀ event ∈ messages.flatMap shown, event.isSaid = true := by
  intro event he
  rcases of_mem_shown he with ⟨text, rfl⟩ | ⟨line, rfl⟩
  · rfl
  · rfl

theorem Journal.said_flatMap_shown (messages : List Message) (time : Nat) :
    said ((messages.flatMap Message.shown).map (TimedEvent.mk time)) =
      messages.flatMap Message.shown := by
  rw [said, List.map_map]
  exact (congrArg _ (List.map_id _)).trans (List.filter_eq_self.2 (Message.isSaid_shown messages))

/-- A wait says what it reads. -/
theorem Dialogue.said_hearing (wanted : Message → Bool) (limit : Duration) (d : Dialogue) :
    Journal.said (d.hearing wanted limit).shown =
      (d.hearing wanted limit).read.flatMap Message.shown := by
  rw [Journal.said, map_event_hearing]
  exact List.filter_eq_self.2 (Message.isSaid_shown _)

/-! ## 2. Steps that read nothing -/

/-- From `p` to `p'` messages arrive, and that is all of the conversation. -/
structure Arrives {σ : Type} (p : Performance σ) (delivered : List Message)
    (p' : Performance σ) : Prop where
  queue : p'.dialogue.channel.queue = p.dialogue.channel.queue ++ delivered
  buffer : p'.dialogue.buffer = p.dialogue.buffer
  parked : p'.dialogue.parked? = p.dialogue.parked?
  errors : p'.errors = p.errors
  failures : p'.failures = p.failures
  said : p'.dialogue.journal.said = p.dialogue.journal.said

namespace Arrives

variable {σ : Type} {p p' p'' : Performance σ}

theorem refl (p : Performance σ) : Arrives p [] p :=
  ⟨(List.append_nil _).symm, rfl, rfl, rfl, rfl, rfl⟩

theorem trans {ms ns : List Message} (h : Arrives p ms p') (h' : Arrives p' ns p'') :
    Arrives p (ms ++ ns) p'' where
  queue := by rw [h'.queue, h.queue, List.append_assoc]
  buffer := h'.buffer.trans h.buffer
  parked := h'.parked.trans h.parked
  errors := h'.errors.trans h.errors
  failures := h'.failures.trans h.failures
  said := h'.said.trans h.said

end Arrives

namespace Performance

variable {σ : Type}

theorem arrives_record (p : Performance σ) {event : Event} (h : event.isSaid = false) :
    Arrives p [] (p.record event) where
  queue := (List.append_nil _).symm
  buffer := rfl
  parked := rfl
  errors := rfl
  failures := rfl
  said := by
    have hs : (p.record event).dialogue.journal =
        p.dialogue.journal ++ [⟨p.dialogue.channel.now, event⟩] := rfl
    rw [hs, Journal.said_append]
    simp [Journal.said, h]

theorem said_record (p : Performance σ) {event : Event} (h : event.isSaid = true) :
    (p.record event).dialogue.journal.said = p.dialogue.journal.said ++ [event] := by
  have hs : (p.record event).dialogue.journal =
      p.dialogue.journal ++ [⟨p.dialogue.channel.now, event⟩] := rfl
  rw [hs, Journal.said_append]
  simp [Journal.said, h]

/-- The messages that arrive with the answer to a call. -/
def broughtBy (answer : Answer) (ch : Channel) : List Message :=
  Channel.postedBy ch.isOpen answer.emissions ++
    (ch.emitAll answer.emissions).dueWithin answer.takes

theorem arrives_answered (p : Performance σ) (answer : Answer × σ) :
    Arrives p (broughtBy answer.1 p.dialogue.channel) (p.answered answer).2 where
  queue := by
    rw [answered, Channel.queue_sleep, Channel.queue_emitAll, broughtBy, List.append_assoc]
  buffer := rfl
  parked := rfl
  errors := rfl
  failures := rfl
  said := rfl

/-- The messages that arrive while the page is rendered: those due by then, if there is a
rendering to write to a file. -/
def broughtByCapture (setup : Setup σ) (p : Performance σ) : List Message :=
  match setup.capture? with
  | none => []
  | some c =>
    match (setup.world.render c.format p.world).1 with
    | .error _ => []
    | .ok _ => p.dialogue.channel.due

/-- A rendering that fails leaves a warning. -/
theorem capture_of_error {setup : Setup σ} {c : Capture} {p : Performance σ} {e : BrowserError}
    {w : σ} (hr : setup.world.render c.format p.world = (.error e, w)) :
    ∃ event : Event, event.isSaid = false ∧ event.isPlain = true ∧
      p.capture c setup =
        ({ p.record (.rendered c.format) with world := w } : Performance σ).record event := by
  refine ⟨.warned ("could not render diagnostic " ++ c.format.extension ++ ": " ++ e.message),
    rfl, rfl, ?_⟩
  simp [capture, record, hr]

/-- A rendering is written to its file, and meanwhile messages arrive. -/
theorem capture_of_ok {setup : Setup σ} {c : Capture} {p : Performance σ} {bytes : String} {w : σ}
    (hr : setup.world.render c.format p.world = (.ok bytes, w)) :
    ∃ (event : Event) (w' : σ), event.isSaid = false ∧ event.isPlain = true ∧
      p.capture c setup =
        ({ p.record (.rendered c.format) with
            world := w'
            dialogue := { (p.record (.rendered c.format)).dialogue with
              channel := p.dialogue.channel.arrive } } : Performance σ).record event := by
  rcases hs : setup.world.save c.path bytes w with ⟨e | u, w'⟩
  · refine ⟨.warned ("could not write " ++ c.path ++ ": " ++ e.text), w', rfl, rfl, ?_⟩
    simp [capture, record, Dialogue.record, hr, hs]
  · refine ⟨.saved c.path, w', rfl, rfl, ?_⟩
    simp [capture, record, Dialogue.record, hr, hs]

theorem arrives_capture {setup : Setup σ} {c : Capture} (hc : setup.capture? = some c)
    (p : Performance σ) : Arrives p (p.broughtByCapture setup) (p.capture c setup) := by
  have begun : Arrives p [] (p.record (.rendered c.format)) := arrives_record p rfl
  rcases hr : setup.world.render c.format p.world with ⟨e | bytes, w⟩
  · obtain ⟨event, hs, -, h⟩ := capture_of_error hr
    have none : p.broughtByCapture setup = [] := by simp [broughtByCapture, hc, hr]
    have failed : Arrives (p.record (.rendered c.format)) []
        { p.record (.rendered c.format) with world := w } :=
      ⟨(List.append_nil _).symm, rfl, rfl, rfl, rfl, rfl⟩
    rw [h, none]
    exact begun.trans (failed.trans (arrives_record _ hs))
  · obtain ⟨event, w', hs, -, h⟩ := capture_of_ok hr
    have due : p.broughtByCapture setup = [] ++ (p.dialogue.channel.due ++ []) := by
      simp [broughtByCapture, hc, hr]
    have written : Arrives (p.record (.rendered c.format)) p.dialogue.channel.due
        { p.record (.rendered c.format) with
          world := w'
          dialogue := { (p.record (.rendered c.format)).dialogue with
            channel := p.dialogue.channel.arrive } } :=
      ⟨rfl, rfl, rfl, rfl, rfl, rfl⟩
    rw [h, due]
    exact begun.trans (written.trans (arrives_record _ hs))

theorem arrives_captureIfWanted (setup : Setup σ) (p : Performance σ) :
    Arrives p (p.broughtByCapture setup) (p.captureIfWanted setup) := by
  unfold captureIfWanted
  cases hc : setup.capture? with
  | none =>
    rw [broughtByCapture, hc]
    exact Arrives.refl p
  | some c => exact arrives_capture hc p

/-! ## 3. Waits -/

/-- The messages that arrive behind a wait: those of the rendering if its time was up. -/
def broughtByEnd {α : Type} (setup : Setup σ) (result : Except TestError α) (p : Performance σ) :
    List Message :=
  match result with
  | .error (.timeout _ _) => p.broughtByCapture setup
  | _ => []

theorem waited_fst {α : Type} (setup : Setup σ) (p : Performance σ)
    (outcome : Except TestError α × Dialogue) : (p.waited setup outcome).1 = outcome.1 := by
  obtain ⟨result, d⟩ := outcome
  rcases result with e | a
  · cases e <;> rfl
  · rfl

theorem waited_of_ok {α : Type} {setup : Setup σ} {p : Performance σ}
    {outcome : Except TestError α × Dialogue} {a : α} (h : outcome.1 = .ok a) :
    p.waited setup outcome = (.ok a, { p with dialogue := outcome.2 }) := by
  obtain ⟨result, d⟩ := outcome
  cases h
  rfl

theorem waited_of_error {α : Type} {setup : Setup σ} {p : Performance σ}
    {outcome : Except TestError α × Dialogue} {e : TestError} (h : outcome.1 = .error e) :
    p.waited setup outcome = (.error e, (p.waited setup outcome).2) :=
  Prod.ext ((waited_fst setup p outcome).trans h) rfl

theorem arrives_waited {α : Type} (setup : Setup σ) (p : Performance σ)
    (outcome : Except TestError α × Dialogue) :
    Arrives { p with dialogue := outcome.2 }
      (broughtByEnd setup outcome.1 { p with dialogue := outcome.2 })
      (p.waited setup outcome).2 := by
  obtain ⟨result, d⟩ := outcome
  rcases result with e | a
  · cases e with
    | timeout awaited limit => exact arrives_captureIfWanted setup { p with dialogue := d }
    | protocolViolation expected requested => exact Arrives.refl _
    | unknownTest name => exact Arrives.refl _
    | includeCycle chain => exact Arrives.refl _
    | bridgeClosed => exact Arrives.refl _
    | browser error => exact Arrives.refl _
  · exact Arrives.refl _

end Performance

/-! ## 4. Checks -/

/-- A check that was made, with the text it was made on. -/
structure Made where
  held : Held
  output : String
  deriving DecidableEq, Repr

namespace Made

/-- The check holds of the text. -/
def holds (made : Made) : Bool := made.held.check.passes made.output

/-- The failures of the checks that do not hold, in order. -/
def failed (made : List Made) : List CheckFailure :=
  (made.filter fun m => !m.holds).map fun m => .ofCheck m.held.owner m.held.check

/-- The checks on one text. -/
def on (output : String) (held : List Held) : List Made := held.map fun h => ⟨h, output⟩

@[simp] theorem map_held_on (output : String) (held : List Held) :
    (on output held).map Made.held = held := by
  induction held with
  | nil => rfl
  | cons h held ih => exact congrArg (h :: ·) ih

@[simp] theorem failed_nil : failed [] = [] := rfl

@[simp] theorem failed_append (ms ns : List Made) : failed (ms ++ ns) = failed ms ++ failed ns := by
  simp [failed]

/-- No check fails if and only if all of them hold. -/
theorem failed_eq_nil_iff {made : List Made} : failed made = [] ↔ ∀ m ∈ made, m.holds = true := by
  simp [failed]

end Made

namespace Performance

variable {σ : Type}

theorem foldl_make (output : String) (held : List Held) (p : Performance σ) :
    held.foldl (make output) p =
      { p with
        errors := p.errors + (Made.failed (Made.on output held)).length
        failures := p.failures ++ Made.failed (Made.on output held)
        dialogue := { p.dialogue with
          journal := p.dialogue.journal ++
            (Made.failed (Made.on output held)).map fun failure =>
              ⟨p.dialogue.channel.now, .checkFailed failure⟩ } } := by
  induction held generalizing p with
  | nil => simp [Made.on, Made.failed]
  | cons h held ih =>
    rw [List.foldl_cons, ih]
    by_cases hp : h.check.passes output = true
    · simp [make, hp, Made.on, Made.failed, Made.holds]
    · simp [make, hp, Made.on, Made.failed, Made.holds, record, Dialogue.record]
      omega

/-- The messages that arrive while checks are made: those of the rendering if one fails. -/
def broughtByFlush (setup : Setup σ) (held : List Held) (p : Performance σ) : List Message :=
  if held.all fun h => h.check.passes p.dialogue.buffer then [] else p.broughtByCapture setup

/-- From `p` to `p'` checks are made, the gathered text is used up and messages arrive. -/
structure Judges (p : Performance σ) (delivered : List Message) (made : List Made)
    (p' : Performance σ) : Prop where
  queue : p'.dialogue.channel.queue = p.dialogue.channel.queue ++ delivered
  buffer : p'.dialogue.buffer = ""
  parked : p'.dialogue.parked? = p.dialogue.parked?
  errors : p'.errors = p.errors + (Made.failed made).length
  failures : p'.failures = p.failures ++ Made.failed made
  said : p'.dialogue.journal.said =
    p.dialogue.journal.said ++ (Made.failed made).map .checkFailed

/-- What arrives behind the checks comes on top. -/
theorem Judges.andArrives {p p' p'' : Performance σ} {ms ns : List Message} {made : List Made}
    (h : Judges p ms made p') (h' : Arrives p' ns p'') : Judges p (ms ++ ns) made p'' where
  queue := by rw [h'.queue, h.queue, List.append_assoc]
  buffer := h'.buffer.trans h.buffer
  parked := h'.parked.trans h.parked
  errors := h'.errors.trans h.errors
  failures := h'.failures.trans h.failures
  said := h'.said.trans h.said

theorem said_failures (time : Nat) (failures : List CheckFailure) :
    Journal.said (failures.map fun failure => ⟨time, .checkFailed failure⟩) =
      failures.map .checkFailed := by
  induction failures with
  | nil => rfl
  | cons failure failures ih => exact congrArg (Event.checkFailed failure :: ·) ih

/-- Takes the gathered text and makes the checks on it. -/
def judge (held : List Held) (p : Performance σ) : Performance σ :=
  held.foldl (make p.dialogue.buffer)
    { p with dialogue := { p.dialogue with buffer := "" } }

theorem judges_judge (held : List Held) (p : Performance σ) :
    Judges p [] (Made.on p.dialogue.buffer held) (p.judge held) := by
  rw [judge, foldl_make]
  refine ⟨(List.append_nil _).symm, rfl, rfl, rfl, rfl, ?_⟩
  rw [Journal.said_append, said_failures]

theorem flush_eq (setup : Setup σ) (held : List Held) (p : Performance σ) :
    p.flush setup held =
      if held.all fun h => h.check.passes p.dialogue.buffer then p.judge held
      else (p.judge held).captureIfWanted setup := rfl

/-- **Making checks.**  Each check that is held is made once, on the text gathered so far. -/
theorem judges_flush (setup : Setup σ) (held : List Held) (p : Performance σ) :
    Judges p (p.broughtByFlush setup held) (Made.on p.dialogue.buffer held)
      (p.flush setup held) := by
  have judged := judges_judge held p
  rw [flush_eq, broughtByFlush]
  split
  · exact judged
  · have captured := arrives_captureIfWanted setup (p.judge held)
    have same : (p.judge held).broughtByCapture setup = p.broughtByCapture setup := by
      rw [judge, foldl_make]
      rfl
    rw [← same]
    exact judged.andArrives captured

end Performance

/-! ## 5. Stretches of a run -/

/-- The books of a stretch of a run from `p` to `p'`: the messages that arrived, the messages
that were read, the checks that were made and what was said, each in order. -/
structure Course {σ : Type} (p : Performance σ) (delivered read : List Message)
    (made : List Made) (said : List Event) (p' : Performance σ) : Prop where
  queue : p.dialogue.channel.queue ++ delivered = read ++ p'.dialogue.channel.queue
  errors : p'.errors = p.errors + (Made.failed made).length
  failures : p'.failures = p.failures ++ Made.failed made
  said : p'.dialogue.journal.said = p.dialogue.journal.said ++ said

section
variable {σ : Type} {p p' p'' : Performance σ} {delivered delivered' read read' : List Message}
  {made made' : List Made} {said said' : List Event}

theorem Course.refl (p : Performance σ) : Course p [] [] [] [] p :=
  ⟨List.append_nil _, rfl, (List.append_nil _).symm, (List.append_nil _).symm⟩

/-- Books of stretches add up. -/
theorem Course.trans (h : Course p delivered read made said p')
    (h' : Course p' delivered' read' made' said' p'') :
    Course p (delivered ++ delivered') (read ++ read') (made ++ made') (said ++ said') p'' where
  queue := by
    rw [← List.append_assoc, h.queue, List.append_assoc, h'.queue, List.append_assoc]
  errors := by
    rw [h'.errors, h.errors, Made.failed_append, List.length_append]
    omega
  failures := by rw [h'.failures, h.failures, Made.failed_append, List.append_assoc]
  said := by rw [h'.said, h.said, List.append_assoc]

theorem Arrives.course (h : Arrives p delivered p') : Course p delivered [] [] [] p' :=
  ⟨h.queue.symm, h.errors, h.failures.trans (List.append_nil _).symm,
    h.said.trans (List.append_nil _).symm⟩

theorem Performance.Judges.course (h : Judges p delivered made p') :
    Course p delivered [] made ((Made.failed made).map .checkFailed) p' :=
  ⟨h.queue.symm, h.errors, h.failures, h.said⟩

/-- A wait reads what it hears and says it. -/
theorem Course.ofHearing (wanted : Message → Bool) (limit : Duration) (p : Performance σ)
    {d : Dialogue} (hq : d.channel = (p.dialogue.hearing wanted limit).channel)
    (hj : d.journal = p.dialogue.journal ++ (p.dialogue.hearing wanted limit).shown) :
    Course p (p.dialogue.hearing wanted limit).delivered (p.dialogue.hearing wanted limit).read []
      ((p.dialogue.hearing wanted limit).read.flatMap Message.shown)
      { p with dialogue := d } where
  queue := by
    rw [hq]
    exact p.dialogue.hearing_conserves wanted limit
  errors := rfl
  failures := (List.append_nil _).symm
  said := by
    rw [hj, Journal.said_append, p.dialogue.said_hearing]

end
end Playtest
