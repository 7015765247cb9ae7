/-
# Renderings observe

A rendering of the page is made when a check fails and when a wait has come to nothing.  This file
compares a run that makes renderings with the same run that makes none.

* `inStep_unobserved`: nothing else is different, neither the result nor what is reported, if no
  message is due at the very instant at which a rendering is written.
* `shoots_run` has the renderings of a run, one by one: each of them stands behind the checks that
  failed at its moment, or at the end of a wait whose time was up, and there are no others.

`renderings_observe` says both.

The condition is needed.  While a rendering is written, what is due arrives, and so it is among the
messages that the next test forgets; without the rendering the next test hears it
(`rendering_lets_text_pass`).
-/
import Playtest.Proofs.Run.Simulation
import Playtest.Rehearsal.ScriptedPage

namespace Playtest

/-! ## 1. Renderings of a moment -/

/-- A rendering does not matter to the page: it answers as it would without the rendering, and
`same` goes on to hold. -/
structure World.Unobtrusive {σ : Type} (W : World σ) (same : σ → σ → Prop) : Prop where
  openPage {s t} (url : String) : same s t →
    (W.openPage url s).1 = (W.openPage url t).1 ∧ same (W.openPage url s).2 (W.openPage url t).2
  send {s t} (command : Command) : same s t →
    (W.send command s).1 = (W.send command t).1 ∧ same (W.send command s).2 (W.send command t).2
  render {s t} (format : CaptureFormat) : same s t → same (W.render format s).2 t
  save {s t} (path bytes : String) : same s t → same (W.save path bytes s).2 t

/-- What is written down of one rendering. -/
def Capture.shot {σ : Type} (c : Capture) (W : World σ) (w : σ) : List Event :=
  .rendered c.format ::
    match W.render c.format w with
    | (.error _, _) => []
    | (.ok bytes, w) =>
      match (W.save c.path bytes w).1 with
      | .ok () => [.saved c.path]
      | .error _ => []

namespace Moment

variable {σ : Type}

/-- No message is due while a rendering of this moment is written. -/
def Still (setup : Setup σ) (m : Moment σ) : Prop :=
  m.renders setup = true → (m.passed setup).broughtByCapture setup = []

instance (setup : Setup σ) (m : Moment σ) : Decidable (m.Still setup) :=
  inferInstanceAs (Decidable (_ → _))

/-- The checks that fail at a moment. -/
def failures : Moment σ → List CheckFailure
  | .waits _ _ => []
  | .judges held p => Made.failed (Made.on p.dialogue.buffer held)

/-- What is written down at a moment: the checks that fail, and then the rendering. -/
def shots (setup : Setup σ) (c : Capture) (m : Moment σ) : List Event :=
  m.failures.map .checkFailed ++
    if m.renders setup then c.shot setup.world (m.passed setup).world else []

end Moment

/-! ## 2. The run without renderings -/

/-- The event is neither written by a rendering nor a note for the log. -/
def Event.isReported : Event → Bool
  | .rendered _ => false
  | .saved _ => false
  | .warned _ => false
  | _ => true

/-- What a journal reports, with the times. -/
def Journal.reported (journal : Journal) : Journal := journal.filter (·.event.isReported)

@[simp] theorem Journal.reported_append (j k : Journal) :
    (j ++ k).reported = j.reported ++ k.reported :=
  List.filter_append ..

/-- What is not due does not arrive. -/
theorem Channel.arrive_of_due {ch : Channel} (h : ch.due = []) : ch.arrive = ch := by
  have none : (ch.scheduled.takeWhile fun d => d.due ≤ ch.now) = [] := List.map_eq_nil_iff.1 h
  have all := List.takeWhile_append_dropWhile (p := fun d => decide (d.due ≤ ch.now))
    (l := ch.scheduled)
  rw [none, List.nil_append] at all
  rw [arrive, none, all]
  simp

namespace Performance

variable {σ : Type}

/-- Two performances that differ at most in what renderings have left. -/
structure Alike (same : σ → σ → Prop) (p q : Performance σ) : Prop where
  channel : p.dialogue.channel = q.dialogue.channel
  buffer : p.dialogue.buffer = q.dialogue.buffer
  parked : p.dialogue.parked? = q.dialogue.parked?
  journal : p.dialogue.journal.reported = q.dialogue.journal.reported
  world : same p.world q.world
  errors : p.errors = q.errors
  failures : p.failures = q.failures

namespace Alike

variable {same : σ → σ → Prop} {p q : Performance σ}

theorem record (h : Alike same p q) (event : Event) :
    Alike same (p.record event) (q.record event) :=
  { h with
    journal := by
      have noted : (p.record event).dialogue.journal.reported =
          p.dialogue.journal.reported ++
            Journal.reported [⟨p.dialogue.channel.now, event⟩] :=
        Journal.reported_append _ _
      rw [noted, h.journal, h.channel]
      exact (Journal.reported_append _ _).symm }

/-- A note that is not reported makes no difference. -/
theorem note (h : Alike same p q) {event : Event} (hn : event.isReported = false) :
    Alike same (p.record event) q :=
  { h with
    journal := by
      have noted : (p.record event).dialogue.journal.reported =
          p.dialogue.journal.reported ++
            Journal.reported [⟨p.dialogue.channel.now, event⟩] :=
        Journal.reported_append _ _
      rw [noted, h.journal]
      simp [Journal.reported, hn] }

/-- **A rendering makes no difference**, if nothing is due while it is written. -/
theorem captureIfWanted (h : Alike same p q) {setup : Setup σ}
    (hw : setup.world.Unobtrusive same) (still : p.broughtByCapture setup = []) :
    Alike same (p.captureIfWanted setup) q := by
  unfold Performance.captureIfWanted
  unfold broughtByCapture at still
  cases hc : setup.capture? with
  | none => exact h
  | some c =>
    have begun : Alike same (p.record (.rendered c.format)) q := h.note rfl
    have world := hw.render c.format h.world
    rw [hc] at still
    dsimp only at still ⊢
    rcases hr : setup.world.render c.format p.world with ⟨e | bytes, w⟩
    · rw [hr] at world
      have failed : Alike same { p.record (.rendered c.format) with world := w } q :=
        { begun with world := world }
      rw [capture_of_unrendered hr]
      exact failed.note rfl
    · rw [hr] at world still
      have arrived : p.dialogue.channel.arrive = q.dialogue.channel :=
        (Channel.arrive_of_due still).trans h.channel
      have written : Alike same
          { p.record (.rendered c.format) with
            world := (setup.world.save c.path bytes w).2
            dialogue := { (p.record (.rendered c.format)).dialogue with
              channel := p.dialogue.channel.arrive } } q :=
        { begun with channel := arrived, world := hw.save c.path bytes world }
      rw [capture_of_rendered hr]
      refine written.note ?_
      rcases (setup.world.save c.path bytes w).1 with e | u <;> rfl

/-- Answers that are the same are taken in alike. -/
theorem answered (h : Alike same p q) {x y : Answer × σ} (ha : x.1 = y.1) (hs : same x.2 y.2) :
    Agree (Alike same) (p.answered x) (q.answered y) where
  result := congrArg Answer.result ha
  related :=
    { h with
      channel := by
        show (p.dialogue.channel.emitAll x.1.emissions).sleep x.1.takes =
          (q.dialogue.channel.emitAll y.1.emissions).sleep y.1.takes
        rw [h.channel, ha]
      world := hs }

/-- Waits hear the same. -/
theorem hearing (h : Alike same p q) (wanted : Message → Bool) (limit : Duration) :
    p.dialogue.hearing wanted limit = q.dialogue.hearing wanted limit := by
  rw [Dialogue.hearing, Dialogue.hearing, Dialogue.deadline, Dialogue.deadline, h.parked, h.channel]

theorem journal_append (h : Alike same p q) (notes : Journal) :
    (p.dialogue.journal ++ notes).reported = (q.dialogue.journal ++ notes).reported := by
  rw [Journal.reported_append, Journal.reported_append, h.journal]

theorem asked (h : Alike same p q) {S T : Setup σ} (hl : S.limit = T.limit) :
    Alike same (p.asked S) (q.asked T) := by
  rw [Performance.asked, Performance.asked, Dialogue.nextRequest_eq, Dialogue.nextRequest_eq,
    h.hearing, hl]
  exact { h with
    channel := rfl
    buffer := congrArg (· ++ _) h.buffer
    parked := rfl
    journal := h.journal_append _ }

theorem printed (h : Alike same p q) {S T : Setup σ} (hl : S.limit = T.limit) :
    Alike same (p.printed S) (q.printed T) := by
  have parked (ended : Channel.Received) (x : Hearing) :
      ((p.dialogue.heard x).parking ended).parked? =
        ((q.dialogue.heard x).parking ended).parked? := by
    have slot : (p.dialogue.heard x).parked? = (q.dialogue.heard x).parked? := h.parked
    unfold Dialogue.parking
    split
    · rw [Dialogue.park, Dialogue.park, slot]
    · exact slot
  rw [Performance.printed, Performance.printed, Dialogue.finalOutput_eq, Dialogue.finalOutput_eq,
    h.hearing, hl]
  exact { h with
    channel := by
      dsimp only
      rw [Dialogue.channel_parking, Dialogue.channel_parking]
      rfl
    buffer := by
      dsimp only
      rw [Dialogue.buffer_parking, Dialogue.buffer_parking]
      exact congrArg (· ++ _) h.buffer
    parked := parked _ _
    journal := by
      dsimp only
      rw [Dialogue.journal_parking, Dialogue.journal_parking]
      exact h.journal_append _ }

theorem drained (h : Alike same p q) : Alike same p.drained q.drained := by
  rw [Performance.drained, Performance.drained, Dialogue.drain_eq, Dialogue.drain_eq, h.channel]
  exact { h with
    channel := rfl
    buffer := congrArg (· ++ _) h.buffer
    parked := congrArg (· <|> _) h.parked
    journal := h.journal_append _ }

theorem judge (h : Alike same p q) (held : List Held) :
    Alike same (p.judge held) (q.judge held) := by
  rw [Performance.judge, Performance.judge, foldl_make, foldl_make, h.buffer]
  exact { h with
    buffer := rfl
    journal := by
      rw [h.channel]
      exact h.journal_append _
    errors := congrArg (· + _) h.errors
    failures := congrArg (· ++ _) h.failures }

/-- A moment at which nothing is due is alike with its rendering and without. -/
theorem observed {setup : Setup σ} {m : Moment σ} (h : Alike same (m.passed setup) q)
    (hw : setup.world.Unobtrusive same) (still : m.Still setup) :
    Alike same (m.observed setup) q := by
  rw [Moment.observed]
  split
  · next hm => exact h.captureIfWanted hw (still hm)
  · exact h

end Alike

/-- Without renderings a wait ends where it is. -/
theorem waited_unobserved {α : Type} {setup : Setup σ} (hc : setup.capture? = none)
    (p : Performance σ) (outcome : Except TestError α × Dialogue) :
    (p.waited setup outcome).2 = { p with dialogue := outcome.2 } := by
  rw [waited_snd, captureIfWanted, hc]
  exact ite_self _

theorem flush_unobserved {setup : Setup σ} (hc : setup.capture? = none) (held : List Held)
    (p : Performance σ) : p.flush setup held = p.judge held := by
  rw [flush_eq, captureIfWanted, hc]
  exact ite_self _

/-- A run with renderings and one without keep step, as long as no message is due while a rendering
is written. -/
theorem inStep_unobserved {S T : Setup σ} {same : σ → σ → Prop} (hw : S.world.Unobtrusive same)
    (hs : T = { S with capture? := none }) : InStep S T (Moment.Still S) (Alike same) where
  errors h := h.errors
  failures h := h.failures
  buffer h := h.buffer
  record event h := h.record event
  counted h := { h with errors := congrArg (· + 1) h.errors }
  reset h :=
    { h with
      channel := congrArg (fun ch : Channel => { ch with queue := [] }) h.channel
      buffer := rfl
      parked := rfl }
  drained h := h.drained
  openPage url h := by
    obtain ⟨answer, world⟩ := hw.openPage url h.world
    subst hs
    exact (h.record (.opened url)).answered answer world
  send command h := by
    obtain ⟨answer, world⟩ := hw.send command h.world
    subst hs
    exact (h.record (.sent command)).answered answer world
  asks h still := by
    have silent : T.capture? = none := by rw [hs]
    have limit : S.limit = T.limit := by rw [hs]
    constructor
    · rw [waited_fst, waited_fst, Dialogue.nextRequest_eq, Dialogue.nextRequest_eq, h.hearing,
        limit]
    · rw [waited_unobserved silent, waited_request]
      exact Alike.observed (h.asked limit) hw still
  prints h still := by
    have silent : T.capture? = none := by rw [hs]
    have limit : S.limit = T.limit := by rw [hs]
    constructor
    · rw [waited_fst, waited_fst, Dialogue.finalOutput_eq, Dialogue.finalOutput_eq, h.hearing,
        limit]
    · rw [waited_unobserved silent, waited_output]
      exact Alike.observed (h.printed limit) hw still
  flush h still := by
    have silent : T.capture? = none := by rw [hs]
    rw [flush_unobserved silent, flush_observed]
    exact Alike.observed (h.judge _) hw still

end Performance

/-! ## 3. The renderings of a run -/

/-- The event is a check that failed, or comes of a rendering. -/
def Event.isShot : Event → Bool
  | .checkFailed _ => true
  | .rendered _ => true
  | .saved _ => true
  | _ => false

/-- The checks that failed and the renderings of a journal, in order. -/
def Journal.shots (journal : Journal) : List Event :=
  (journal.map TimedEvent.event).filter Event.isShot

@[simp] theorem Journal.shots_append (j k : Journal) : (j ++ k).shots = j.shots ++ k.shots := by
  simp [shots]

/-- Nothing that is reported of messages is a shot. -/
theorem Journal.shots_shown {journal : Journal} {messages : List Message}
    (h : journal.map TimedEvent.event = messages.flatMap Message.shown) : journal.shots = [] := by
  rw [shots, h, List.filter_eq_nil_iff]
  intro event he
  rcases Message.of_mem_shown he with ⟨text, rfl⟩ | ⟨line, rfl⟩ <;> simp [Event.isShot]

/-- From `p` to `p'` these shots are written down. -/
def Shoots {σ : Type} (p : Performance σ) (shots : List Event) (p' : Performance σ) : Prop :=
  p'.dialogue.journal.shots = p.dialogue.journal.shots ++ shots

section
variable {σ : Type} {p p' p'' : Performance σ} {shots shots' : List Event}

theorem Shoots.trans (h : Shoots p shots p') (h' : Shoots p' shots' p'') :
    Shoots p (shots ++ shots') p'' := by
  rw [Shoots, h', h, List.append_assoc]

/-- A step that writes something else, or nothing, shoots nothing. -/
theorem Shoots.of_notes {notes : Journal}
    (h : p'.dialogue.journal = p.dialogue.journal ++ notes) (hn : notes.shots = []) :
    Shoots p [] p' := by
  rw [Shoots, h, Journal.shots_append, hn]

theorem Shoots.of_same (h : p'.dialogue.journal = p.dialogue.journal) : Shoots p [] p' :=
  .of_notes (h.trans (List.append_nil _).symm) rfl

/-- A stretch without shots, before another one. -/
theorem Shoots.behind (h' : Shoots p' shots p'') (h : Shoots p [] p') : Shoots p shots p'' :=
  h.trans h'

/-- A stretch without shots, behind another one. -/
theorem Shoots.before (h : Shoots p shots p') (h' : Shoots p' [] p'') : Shoots p shots p'' := by
  have := h.trans h'
  rwa [List.append_nil] at this

end

namespace Performance

variable {σ : Type} {setup : Setup σ} {c : Capture}

theorem shoots_record (p : Performance σ) (event : Event) :
    Shoots p ([event].filter Event.isShot) (p.record event) :=
  Journal.shots_append _ _

theorem shoots_asked (setup : Setup σ) (p : Performance σ) : Shoots p [] (p.asked setup) := by
  have heard : (p.asked setup).dialogue.journal =
      p.dialogue.journal ++ (p.hears setup).shown := by
    rw [asked, Dialogue.nextRequest_eq]
    rfl
  exact .of_notes heard (Journal.shots_shown (Dialogue.map_event_hearing _ _ _))

theorem shoots_printed (setup : Setup σ) (p : Performance σ) : Shoots p [] (p.printed setup) := by
  have heard : (p.printed setup).dialogue.journal =
      p.dialogue.journal ++ (p.dialogue.hearing Message.isData setup.limit).shown := by
    rw [printed, Dialogue.finalOutput_eq]
    exact Dialogue.journal_parking _ _
  exact .of_notes heard (Journal.shots_shown (Dialogue.map_event_hearing _ _ _))

theorem shoots_drained (p : Performance σ) : Shoots p [] p.drained := by
  have heard : p.drained.dialogue.journal = p.dialogue.journal ++
      (p.dialogue.channel.queue.flatMap Message.shown).map
        (TimedEvent.mk p.dialogue.channel.now) := by
    rw [drained, Dialogue.drain_eq]
  have shown : ((p.dialogue.channel.queue.flatMap Message.shown).map
      (TimedEvent.mk p.dialogue.channel.now)).map TimedEvent.event =
        p.dialogue.channel.queue.flatMap Message.shown := by
    rw [List.map_map]
    exact List.map_id _
  exact .of_notes heard (Journal.shots_shown shown)

/-- Checks that fail are written down. -/
theorem shoots_judge (held : List Held) (p : Performance σ) :
    Shoots p ((Made.failed (Made.on p.dialogue.buffer held)).map .checkFailed) (p.judge held) := by
  have written (time : Nat) (failures : List CheckFailure) :
      Journal.shots (failures.map fun failure => ⟨time, .checkFailed failure⟩) =
        failures.map .checkFailed := by
    induction failures with
    | nil => rfl
    | cons failure failures ih => exact congrArg (Event.checkFailed failure :: ·) ih
  rw [judge, foldl_make]
  exact (Journal.shots_append _ _).trans (congrArg (_ ++ ·) (written _ _))

/-- **A rendering** is told, and it is told where it was saved if it was made and written. -/
theorem shoots_captureIfWanted (hc : setup.capture? = some c) (p : Performance σ) :
    Shoots p (c.shot setup.world p.world) (p.captureIfWanted setup) := by
  have begun : Shoots p [.rendered c.format] (p.record (.rendered c.format)) :=
    shoots_record p (.rendered c.format)
  rw [captureIfWanted, hc]
  dsimp only
  rcases hr : setup.world.render c.format p.world with ⟨e | bytes, w⟩
  · rw [capture_of_unrendered hr, Capture.shot, hr]
    exact begun.before (.trans (.of_same rfl) (shoots_record _ _))
  · have told (result : Except IoError Unit) : [c.over result].filter Event.isShot =
        match result with
        | .ok () => [.saved c.path]
        | .error _ => [] := by
      cases result <;> rfl
    rw [capture_of_rendered hr, Capture.shot, hr]
    dsimp only
    rw [← told]
    exact begun.trans ((shoots_record _ _).behind (.of_same rfl))

/-- **A moment** writes down the checks that fail, and then its rendering. -/
theorem shoots_observed (hc : setup.capture? = some c) (m : Moment σ) :
    Shoots m.performance (m.shots setup c) (m.observed setup) := by
  have passed : Shoots m.performance (m.failures.map .checkFailed) (m.passed setup) := by
    cases m with
    | waits awaited p =>
      cases awaited with
      | inputRequest => exact shoots_asked setup p
      | finalOutput => exact shoots_printed setup p
    | judges held p => exact shoots_judge held p
  rw [Moment.observed, Moment.shots]
  split
  · exact passed.trans (shoots_captureIfWanted hc _)
  · exact passed.trans (.of_same rfl)

theorem shoots_answered (p : Performance σ) (answer : Answer × σ) :
    Shoots p [] (p.answered answer).2 :=
  .of_same rfl

/-- The shots of an input are those of its moments. -/
theorem shoots_giveInput (hc : setup.capture? = some c) (input : Input) (held : List Held)
    (p : Performance σ) :
    Shoots p ((p.inputMoments setup held).flatMap (Moment.shots setup c))
      (p.giveInput setup input held).2 := by
  have asked := shoots_observed hc (.waits .inputRequest p)
  rw [inputMoments, List.flatMap_cons]
  rcases ho : (p.dialogue.nextRequest setup.limit).1 with e | requested
  · rw [giveInput_of_error input held ho, waited_request]
    exact asked.trans (.of_same rfl)
  · have flushed := shoots_observed hc (.judges held (p.asked setup))
    have quiet : (Moment.waits .inputRequest p).observed setup = p.asked setup := by
      rw [← waited_request, waited_of_ok ho]
      rfl
    rw [quiet] at asked
    rw [giveInput_of_ok input held ho, flush_observed, List.flatMap_singleton]
    dsimp only
    split
    · exact asked.trans flushed
    · exact (asked.trans flushed).before
        (.trans (shoots_record _ _) (shoots_answered _ _))

theorem shoots_recite (hc : setup.capture? = some c) (items : List Expansion.Item)
    (held : List Held) (p : Performance σ) :
    Shoots p ((p.moments setup items held).flatMap (Moment.shots setup c))
      (p.recite setup items held).2 := by
  induction items generalizing held p with
  | nil => exact .of_same rfl
  | cons item items ih =>
    cases item with
    | check owner check => exact ih _ p
    | passed x => exact (ih held _).behind (shoots_record p _)
    | input i =>
      have first := shoots_giveInput hc i held p
      rw [recite, moments, List.flatMap_append]
      rcases hg : p.giveInput setup i held with ⟨e | u, p'⟩
      · rw [hg] at first
        exact first.trans (.of_same rfl)
      · rw [hg] at first
        exact first.trans (ih [] p')

/-- The shots of the end of a test are those of its moments. -/
theorem shoots_finish (hc : setup.capture? = some c) (held : List Held) (p : Performance σ) :
    Shoots p ((p.finalMoments setup held).flatMap (Moment.shots setup c))
      (p.finish setup held).2 := by
  rw [finalMoments]
  by_cases hh : held = []
  · rw [if_pos hh, hh]
    exact .of_same rfl
  rw [if_neg hh]
  by_cases hb : p.drained.dialogue.buffer = ""
  · have printed := (shoots_observed hc (.waits .finalOutput p.drained)).behind (shoots_drained p)
    rw [if_pos hb, List.flatMap_cons]
    rcases ho : (p.drained.dialogue.finalOutput setup.limit).1 with e | u
    · rw [finish_of_error hh hb ho, waited_output]
      exact printed.trans (.of_same rfl)
    · have flushed := shoots_observed hc (.judges held (p.drained.printed setup))
      have quiet : (Moment.waits .finalOutput p.drained).observed setup =
          p.drained.printed setup := by
        rw [← waited_output, waited_of_ok ho]
        rfl
      rw [quiet] at printed
      rw [finish_of_ok hh hb ho, flush_observed, List.flatMap_singleton]
      exact printed.trans flushed
  · rw [if_neg hb, finish_of_text hh hb, flush_observed, List.flatMap_singleton]
    exact (shoots_observed hc (.judges held p.drained)).behind (shoots_drained p)

end Performance

namespace Run

open Performance

variable {σ : Type} {setup : Setup σ} {c : Capture} (file : TestFile) (url : String)

/-- The shots of a test are those of its moments. -/
theorem shoots_one (hc : setup.capture? = some c) (name : String) (p : Performance σ) :
    Shoots p ((momentsOf setup file url name p).flatMap (Moment.shots setup c))
      (one setup file url name p).2 := by
  have opened : Shoots p [] (opened setup url name p) :=
    (shoots_record p (.started name)).trans
      (.trans (.of_same rfl) (.trans (shoots_record _ (.opened url)) (shoots_answered _ _)))
  rw [one_eq_enact, momentsOf]
  rcases (openAnswer setup url p).result with e | u
  · exact opened
  · have recited := (shoots_recite hc (file.expansion name).items []
      (Run.opened setup url name p)).behind opened
    rw [← enact_snd] at recited
    dsimp only
    rw [List.flatMap_append]
    rcases he : (Run.opened setup url name p).enact setup (file.expansion name) []
      with ⟨e | held, q⟩
    · rw [he] at recited
      exact recited.trans (.of_same rfl)
    · rw [he] at recited
      exact recited.trans (shoots_finish hc held q)

theorem shoots_all (hc : setup.capture? = some c) (names : List String) (p : Performance σ) :
    Shoots p ((moments setup file url names p).flatMap (Moment.shots setup c))
      (all setup file url names p).2 := by
  induction names, p using all_induction setup file url with
  | nil p => exact .of_same rfl
  | ok name names p ho ih =>
    rw [moments, stages_of_ok setup file url names ho, List.flatMap_cons, List.flatMap_append,
      all_of_ok setup file url names ho]
    exact (shoots_one file url hc name p).trans ih
  | fatal name names p e ho hf =>
    rw [moments, stages_of_fatal setup file url names ho hf, List.flatMap_cons,
      List.flatMap_append, all_of_fatal setup file url names ho hf]
    exact (shoots_one file url hc name p).trans (.of_same rfl)
  | goesOn name names p e ho hf ih =>
    have counted : Shoots (one setup file url name p).2 []
        (counted name e (one setup file url name p).2) :=
      .trans (.of_same rfl) (shoots_record _ _)
    rw [moments, stages_of_counted setup file url names ho hf, List.flatMap_cons,
      List.flatMap_append, all_of_counted setup file url names ho hf]
    exact (shoots_one file url hc name p).trans (ih.behind counted)

/-- **The renderings of a run** are those of its moments, in order. -/
theorem shoots_run (hc : setup.capture? = some c) (tests : List String) (p : Performance σ) :
    Shoots p ((runMoments setup file url tests p).flatMap (Moment.shots setup c))
      (run setup file url tests p).2 := by
  have whole := (shoots_all file url hc (selection file tests)
    (announced url (selection file tests) p)).behind (shoots_record p _)
  rcases h : all setup file url (selection file tests) (announced url (selection file tests) p)
    with ⟨e | aborted, q⟩
  · rw [h] at whole
    rw [run_of_error h]
    exact whole
  · rw [h] at whole
    rw [run_of_ok h]
    exact whole

/-- **Renderings observe.**  Let a run be made with renderings and without, and let the page answer
the same whether it was rendered or not.  If no message is due while a rendering is written, then
the two runs have the same result, and they report the same at the same times.

The checks that fail and the renderings of a run are those of its moments.  The page is rendered
once behind the checks that are made on one text, if one of them fails, once behind a wait whose
time was up, and at no other moment; and a rendering is reported as saved if and only if it was made
and written. -/
theorem renderings_observe (W : World σ) (limit : Duration) (c : Capture) (tests : List String)
    (p : Performance σ) :
    let S : Setup σ := ⟨W, limit, some c⟩
    let T : Setup σ := ⟨W, limit, none⟩
    let x := run S file url tests p
    let y := run T file url tests p
    (∀ same, W.Unobtrusive same → same p.world p.world →
      (∀ m ∈ runMoments S file url tests p, m.Still S) →
        x.1 = y.1 ∧ x.2.dialogue.journal.reported = y.2.dialogue.journal.reported) ∧
    x.2.dialogue.journal.shots =
      p.dialogue.journal.shots ++
        (runMoments S file url tests p).flatMap (Moment.shots S c) := by
  intro S T x y
  refine ⟨?_, shoots_run file url rfl tests p⟩
  intro same unobtrusive hp still
  have alike : Alike same p p := ⟨rfl, rfl, rfl, rfl, hp, rfl, rfl⟩
  have agree := (inStep_unobserved (S := S) unobtrusive rfl).run tests alike still
  exact ⟨agree.result, agree.related.journal⟩

/-! ## 4. A text that is due while a rendering is written -/

/-- Two states of a scripted page from which it goes on in the same way. -/
def SamePage (s t : ScriptedPage) : Prop :=
  s.pages = t.pages ∧ s.loads = t.loads ∧ s.turn = t.turn

/-- Renderings of a scripted page do not matter to it. -/
theorem unobtrusive_scriptedPage : ScriptedPage.world.Unobtrusive SamePage where
  openPage {s t} url h := by
    obtain ⟨pages, loads, turn, disk, error⟩ := s
    obtain ⟨rfl, rfl, rfl⟩ := h
    exact ⟨rfl, rfl, rfl, rfl⟩
  send {s t} command h := by
    obtain ⟨pages, loads, turn, disk, error⟩ := s
    obtain ⟨rfl, rfl, rfl⟩ := h
    exact ⟨rfl, rfl, rfl, rfl⟩
  render {s t} format h := by
    have page : (ScriptedPage.world.render format s).2 = s := by
      simp only [ScriptedPage.world]
      split <;> rfl
    rw [page]
    exact h
  save {s t} path bytes h := by
    simp only [ScriptedPage.world]
    split <;> exact h

/-- The first test gives a line, and the second one looks for a greeting. -/
def lineThenGreeting : TestFile :=
  ⟨[.testStart "one", .directive (.input ⟨.line, "look"⟩),
    .testStart "two", .directive (.check ⟨"Hello", false⟩)]⟩

/-- A page that greets a second after it is loaded first, and is silent when it is loaded again. -/
def lateGreeting : ScriptedPage where
  pages := [[[.emit (.later 1000 (.data (.bufferText "Hello")))]], [[]]]
  disk := ⟨"", []⟩

/-- The setup of a scripted page, with renderings or without. -/
def scripted (capture? : Option Capture) : Setup ScriptedPage :=
  { ScriptedPage.setup with capture? := capture? }

/-- The first test waits for a request until its time is up. -/
def unasked : TestError := .timeout .inputRequest (Duration.ofSeconds 1)

/-- The second test waits for output until its time is up. -/
def unheard : TestError := .timeout .finalOutput (Duration.ofSeconds 1)

/-- The greeting is due at the very end of the wait for a request.  With renderings it arrives
while the page is rendered, the second test forgets it, and both tests end early.  Without them it
arrives in the second test, which passes. -/
theorem rendering_lets_text_pass :
    ScriptedPage.world.Unobtrusive SamePage ∧ SamePage lateGreeting lateGreeting ∧
      (run (scripted (some ⟨.png, "p"⟩)) lineThenGreeting "" [] ⟨{}, lateGreeting, 0, []⟩).1 =
        .ok ⟨2, 2, [], [⟨"one", unasked.message⟩, ⟨"two", unheard.message⟩]⟩ ∧
      (run (scripted none) lineThenGreeting "" [] ⟨{}, lateGreeting, 0, []⟩).1 =
        .ok ⟨2, 1, [], [⟨"one", unasked.message⟩]⟩ := by
  refine ⟨unobtrusive_scriptedPage, ⟨rfl, rfl, rfl⟩, ?_, ?_⟩
  · let S := scripted (some ⟨.png, "p"⟩)
    let p := announced "" ["one", "two"] ⟨{}, lateGreeting, 0, []⟩
    let q := counted "one" unasked (one S lineThenGreeting "" "one" p).2
    let r := counted "two" unheard (one S lineThenGreeting "" "two" q).2
    have first : (one S lineThenGreeting "" "one" p).1 = .error unasked := by
      subst S p
      with_unfolding_all rfl
    have second : (one S lineThenGreeting "" "two" q).1 = .error unheard := by
      subst S p q
      with_unfolding_all rfl
    have errors : r.errors = 2 := by decide +kernel
    have failures : r.failures = [] := by decide +kernel
    have tests : all S lineThenGreeting "" ["one", "two"] p =
        (.ok [⟨"one", unasked.message⟩, ⟨"two", unheard.message⟩], r) := by
      rw [all_of_counted S lineThenGreeting "" _ first rfl,
        all_of_counted S lineThenGreeting "" _ second rfl]
      rfl
    rw [run_of_ok tests, errors, failures]
    rfl
  · let S := scripted none
    let p := announced "" ["one", "two"] ⟨{}, lateGreeting, 0, []⟩
    let q := counted "one" unasked (one S lineThenGreeting "" "one" p).2
    have first : (one S lineThenGreeting "" "one" p).1 = .error unasked := by
      subst S p
      with_unfolding_all rfl
    have second : (one S lineThenGreeting "" "two" q).1 = .ok () := by
      subst S p q
      with_unfolding_all rfl
    have errors : (one S lineThenGreeting "" "two" q).2.errors = 1 := by decide +kernel
    have failures : (one S lineThenGreeting "" "two" q).2.failures = [] := by decide +kernel
    have tests : all S lineThenGreeting "" ["one", "two"] p =
        (.ok [⟨"one", unasked.message⟩], (one S lineThenGreeting "" "two" q).2) := by
      rw [all_of_counted S lineThenGreeting "" _ first rfl,
        all_of_ok S lineThenGreeting "" _ second]
      rfl
    rw [run_of_ok tests, errors, failures]
    rfl

/-- A test that looks for a yes. -/
def yes : TestFile := ⟨[.testStart "yes", .directive (.check ⟨"y", false⟩)]⟩

/-- A page that says no. -/
def no : ScriptedPage where
  pages := [[[.emit (.now (.data (.bufferText "n")))]]]
  disk := ⟨"", []⟩

/-- The test is its one check. -/
theorem expansion_yes : yes.expansion "yes" = ⟨[.check "yes" ⟨"y", false⟩], .complete⟩ := by
  have declared : yes.contains "yes" = true := by decide
  have body : yes.bodyLines "yes" = [.directive (.check ⟨"y", false⟩)] := rfl
  rw [TestFile.expansion, if_pos declared, body, TestFile.expand, TestFile.expand]
  rfl

/-- On this page the check fails and leaves a rendering, and nothing else is different. -/
theorem renderings_of_no :
    let S := scripted (some ⟨.png, "p"⟩)
    let T := scripted none
    let p : Performance ScriptedPage := ⟨{}, no, 0, []⟩
    (run S yes "" [] p).1 = (run T yes "" [] p).1 ∧
      (run S yes "" [] p).2.dialogue.journal.reported =
        (run T yes "" [] p).2.dialogue.journal.reported ∧
      (run S yes "" [] p).2.dialogue.journal.shots =
        [.checkFailed ⟨"yes", "y", false⟩, .rendered .png, .saved "p"] := by
  intro S T p
  obtain ⟨observe, shots⟩ := renderings_observe yes "" ScriptedPage.world
    (Duration.ofSeconds 1) ⟨.png, "p"⟩ [] p
  have moments : runMoments S yes "" [] p =
      momentsOf S yes "" "yes" (announced "" ["yes"] p) ++ [] := by
    subst S p
    with_unfolding_all rfl
  have still : (runMoments S yes "" [] p).all (fun m => decide (m.Still S)) = true := by
    rw [moments, momentsOf, expansion_yes]
    subst S p
    with_unfolding_all rfl
  obtain ⟨result, reported⟩ := observe SamePage unobtrusive_scriptedPage ⟨rfl, rfl, rfl⟩
    fun m hm => of_decide_eq_true (List.all_eq_true.1 still m hm)
  refine ⟨result, reported, shots.trans ?_⟩
  change [] ++ (runMoments S yes "" [] p).flatMap (Moment.shots S ⟨.png, "p"⟩) = _
  rw [moments, momentsOf, expansion_yes]
  subst S p
  with_unfolding_all rfl

end Run
end Playtest
