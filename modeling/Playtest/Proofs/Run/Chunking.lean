/-
# Cuts do not matter to runs

The game prints text, and how the page cuts it into messages is up to the page.  This file compares
two runs on pages that do the same but for the cuts of their texts (`World.Recuts`).

Of a text that is cut, a run reports other outputs.  Everything else is the same, and so is the
output when it is put together (`cuts_do_not_matter`).  The reason is that a wait for a request
reads all texts that come before it, that what has arrived is drained as a whole, and that checks
are made on the text that has been gathered.

Only one step of a run ends with a single message: the wait for output at the end of a test.  It
takes what comes first, and then the checks are made.  So the moments at which it begins must be
`Unblocked`: a request is parked then, and there is nothing to wait for.
-/
import Mathlib.Data.List.Permutation
import Playtest.Proofs.Run.Recut
import Playtest.Proofs.Run.Simulation
import Playtest.Rehearsal.ScriptedPage

namespace Playtest

/-! ## 1. Pages that cut in another way -/

/-- The same answers, but for the cuts. -/
structure Answer.Recut (x y : Answer) : Prop where
  emissions : Emission.Recut x.emissions y.emissions
  result : x.result = y.result
  takes : x.takes = y.takes

/-- Worlds that do the same but for the cuts, as long as `same` relates their states. -/
structure World.Recuts {σ τ : Type} (W : World σ) (V : World τ) (same : σ → τ → Prop) : Prop where
  openPage {s t} (url : String) : same s t →
    (W.openPage url s).1.Recut (V.openPage url t).1 ∧
      same (W.openPage url s).2 (V.openPage url t).2
  send {s t} (command : Command) : same s t →
    (W.send command s).1.Recut (V.send command t).1 ∧
      same (W.send command s).2 (V.send command t).2
  render {s t} (format : CaptureFormat) : same s t →
    (W.render format s).1 = (V.render format t).1 ∧
      same (W.render format s).2 (V.render format t).2
  save {s t} (path bytes : String) : same s t →
    (W.save path bytes s).1 = (V.save path bytes t).1 ∧
      same (W.save path bytes s).2 (V.save path bytes t).2

/-- A wait for output that begins now ends at once, because a request is parked. -/
def Moment.Unblocked {σ : Type} : Moment σ → Prop
  | .waits .finalOutput p => p.dialogue.parked?.isSome = true
  | _ => True

instance {σ : Type} (m : Moment σ) : Decidable m.Unblocked :=
  match m with
  | .waits .finalOutput p => inferInstanceAs (Decidable (p.dialogue.parked?.isSome = true))
  | .waits .inputRequest _ => inferInstanceAs (Decidable True)
  | .judges _ _ => inferInstanceAs (Decidable True)

/-! ## 2. What is reported -/

/-- The text of an output. -/
def Event.output? : Event → Option String
  | .output text => some text
  | _ => none

/-- What a journal has besides outputs, with the times. -/
def Journal.besidesOutput (journal : Journal) : Journal :=
  journal.filter (·.event.output?.isNone)

/-- The outputs of a journal, put together. -/
def Journal.output (journal : Journal) : String :=
  String.join (journal.filterMap (·.event.output?))

namespace Journal.Recut

variable {j k : Journal}

/-- Besides outputs, the journals are the same. -/
theorem besidesOutput (h : Journal.Recut j k) : j.besidesOutput = k.besidesOutput := by
  have none (time : Nat) (as : List String) :
      Journal.besidesOutput (as.map fun s => ⟨time, .output s⟩) = [] := by
    simp [Journal.besidesOutput, Event.output?]
  have append (j k : Journal) :
      Journal.besidesOutput (j ++ k) = j.besidesOutput ++ k.besidesOutput := List.filter_append ..
  induction h with
  | nil => rfl
  | @same xs ys x rest ih =>
    have cons (j : Journal) :
        Journal.besidesOutput (x :: j) = Journal.besidesOutput [x] ++ j.besidesOutput :=
      append [x] j
    rw [cons xs, cons ys, ih]
  | texts time joined some rest ih => rw [append, append, none, none, ih]

/-- The outputs are the same when they are put together. -/
theorem output (h : Journal.Recut j k) : j.output = k.output := by
  have pieces (time : Nat) (as : List String) :
      Journal.output (as.map fun s => ⟨time, .output s⟩) = String.join as := by
    simp [Journal.output, List.filterMap_map, Event.output?]
  have append (j k : Journal) : Journal.output (j ++ k) = j.output ++ k.output := by
    rw [Journal.output, List.filterMap_append, String.join_append]
    rfl
  induction h with
  | nil => rfl
  | @same xs ys x rest ih =>
    have cons (j : Journal) : Journal.output (x :: j) = Journal.output [x] ++ j.output :=
      append [x] j
    rw [cons xs, cons ys, ih]
  | texts time joined some rest ih => rw [append, append, pieces, pieces, joined, ih]

end Journal.Recut

/-! ## 3. Performances -/

section
variable {σ τ : Type} {same : σ → τ → Prop}

/-- The same performances, but for the cuts. -/
structure Performance.Recut (same : σ → τ → Prop) (p : Performance σ) (q : Performance τ) :
    Prop where
  channel : p.dialogue.channel.Recut q.dialogue.channel
  buffer : p.dialogue.buffer = q.dialogue.buffer
  parked : p.dialogue.parked? = q.dialogue.parked?
  journal : Journal.Recut p.dialogue.journal q.dialogue.journal
  world : same p.world q.world
  errors : p.errors = q.errors
  failures : p.failures = q.failures

namespace Performance.Recut

variable {p : Performance σ} {q : Performance τ} {S : Setup σ} {T : Setup τ}

/-- The same notes at the same time keep the journals the same. -/
theorem noted (h : Recut same p q) (events : List Event) :
    Journal.Recut (p.dialogue.journal ++ events.map (TimedEvent.mk p.dialogue.channel.now))
      (q.dialogue.journal ++ events.map (TimedEvent.mk q.dialogue.channel.now)) := by
  rw [h.channel.now]
  exact h.journal.append (.refl _)

theorem record (h : Recut same p q) (event : Event) :
    Recut same (p.record event) (q.record event) :=
  { h with journal := h.noted [event] }

/-- Answers that are the same but for the cuts are taken in alike. -/
theorem answered (h : Recut same p q) {x : Answer × σ} {y : Answer × τ} (ha : x.1.Recut y.1)
    (hs : same x.2 y.2) : Agree (Recut same) (p.answered x) (q.answered y) where
  result := ha.result
  related :=
    { h with
      channel := by
        show ((p.dialogue.channel.emitAll x.1.emissions).sleep x.1.takes).Recut
          ((q.dialogue.channel.emitAll y.1.emissions).sleep y.1.takes)
        rw [ha.takes]
        exact (h.channel.emitAll ha.emissions).sleep y.1.takes
      world := hs }

/-- A wait for a request hears the same. -/
theorem hearing (h : Recut same p q) (limit : Duration) :
    (p.dialogue.hearing (·.request?.isSome) limit).Recut
      (q.dialogue.hearing (·.request?.isSome) limit) := by
  cases hp : p.dialogue.parked? with
  | some kind =>
    rw [Dialogue.hearing_of_parked hp, Dialogue.hearing_of_parked (h.parked.symm.trans hp)]
    exact ⟨rfl, rfl, .nil, h.channel⟩
  | none =>
    rw [Dialogue.hearing_of_free hp, Dialogue.hearing_of_free (h.parked.symm.trans hp),
      Dialogue.deadline, Dialogue.deadline, h.channel.now]
    exact Channel.hear_recut h.channel

theorem nextRequest (h : Recut same p q) (limit : Duration) :
    (p.dialogue.nextRequest limit).1 = (q.dialogue.nextRequest limit).1 := by
  rw [Dialogue.nextRequest_eq, Dialogue.nextRequest_eq, (h.hearing limit).ended]

theorem asked (h : Recut same p q) (hl : S.limit = T.limit) :
    Recut same (p.asked S) (q.asked T) := by
  have heard := h.hearing S.limit
  rw [Performance.asked, Performance.asked, Dialogue.nextRequest_eq, Dialogue.nextRequest_eq, ← hl]
  exact { h with
    channel := heard.channel
    buffer := by
      show p.dialogue.buffer ++ _ = q.dialogue.buffer ++ _
      rw [h.buffer, heard.texts]
    parked := rfl
    journal := h.journal.append heard.shown }

theorem drained (h : Recut same p q) : Recut same p.drained q.drained := by
  rw [Performance.drained, Performance.drained, Dialogue.drain_eq, Dialogue.drain_eq]
  exact { h with
    channel := { h.channel with queue := .nil }
    buffer := by rw [h.buffer, h.channel.queue.texts_eq]
    parked := by rw [h.parked, h.channel.queue.requests_eq]
    journal := by
      rw [h.channel.now]
      exact h.journal.append (h.channel.queue.shown _) }

theorem judge (h : Recut same p q) (held : List Held) :
    Recut same (p.judge held) (q.judge held) := by
  rw [Performance.judge, Performance.judge, foldl_make, foldl_make, h.buffer]
  have noted := h.noted ((Made.failed (Made.on q.dialogue.buffer held)).map .checkFailed)
  rw [List.map_map, List.map_map] at noted
  exact { h with
    buffer := rfl
    journal := noted
    errors := congrArg (· + _) h.errors
    failures := congrArg (· ++ _) h.failures }

/-- Renderings are the same. -/
theorem captureIfWanted (h : Recut same p q) (hw : S.world.Recuts T.world same)
    (hc : S.capture? = T.capture?) :
    Recut same (p.captureIfWanted S) (q.captureIfWanted T) := by
  unfold Performance.captureIfWanted
  rw [← hc]
  cases S.capture? with
  | none => exact h
  | some c =>
    have begun : Recut same (p.record (.rendered c.format)) (q.record (.rendered c.format)) :=
      h.record _
    obtain ⟨result, world⟩ := hw.render c.format h.world
    dsimp only
    rcases hp : S.world.render c.format p.world with ⟨e | bytes, w⟩ <;>
      rcases hq : T.world.render c.format q.world with ⟨e' | bytes', w'⟩ <;>
      rw [hp, hq] at result world <;> cases result
    · have failed : Recut same { p.record (.rendered c.format) with world := w }
          { q.record (.rendered c.format) with world := w' } := { begun with world := world }
      rw [capture_of_unrendered hp, capture_of_unrendered hq]
      exact failed.record _
    · obtain ⟨saved, world⟩ := hw.save c.path bytes world
      have written : Recut same
          { p.record (.rendered c.format) with
            world := (S.world.save c.path bytes w).2
            dialogue := { (p.record (.rendered c.format)).dialogue with
              channel := p.dialogue.channel.arrive } }
          { q.record (.rendered c.format) with
            world := (T.world.save c.path bytes w').2
            dialogue := { (q.record (.rendered c.format)).dialogue with
              channel := q.dialogue.channel.arrive } } :=
        { begun with channel := h.channel.arrive, world := world }
      rw [capture_of_rendered hp, capture_of_rendered hq, saved]
      exact written.record _

/-- Moments that come to the same are rendered alike. -/
theorem observed {m : Moment σ} {n : Moment τ} (hw : S.world.Recuts T.world same)
    (hc : S.capture? = T.capture?) (hr : m.renders S = n.renders T)
    (h : Recut same (m.passed S) (n.passed T)) :
    Recut same (m.observed S) (n.observed T) := by
  rw [Moment.observed, Moment.observed, hr]
  split
  · exact h.captureIfWanted hw hc
  · exact h

end Performance.Recut

/-- With a request parked there is nothing to wait for. -/
theorem Dialogue.finalOutput_of_parked {d : Dialogue} (limit : Duration)
    (h : d.parked?.isSome = true) : d.finalOutput limit = (.ok (), d) := by
  obtain ⟨kind, hk⟩ := Option.isSome_iff_exists.1 h
  rw [finalOutput, hk]

/-- **Runs on pages that cut in another way keep step**, as long as no wait for output blocks. -/
theorem Performance.inStep_recut {W : World σ} {V : World τ} (hw : W.Recuts V same)
    (limit : Duration) (capture? : Option Capture) :
    InStep ⟨W, limit, capture?⟩ ⟨V, limit, capture?⟩ Moment.Unblocked
      (Performance.Recut same) where
  errors h := h.errors
  failures h := h.failures
  buffer h := h.buffer
  record event h := h.record event
  counted h := { h with errors := congrArg (· + 1) h.errors }
  reset h :=
    { h with
      channel := { h.channel with queue := .nil }
      buffer := rfl
      parked := rfl }
  drained h := h.drained
  openPage url h := by
    obtain ⟨answer, world⟩ := hw.openPage url h.world
    exact (h.record (.opened url)).answered answer world
  send command h := by
    obtain ⟨answer, world⟩ := hw.send command h.world
    exact (h.record (.sent command)).answered answer world
  asks h _ := by
    constructor
    · rw [waited_fst, waited_fst]
      exact h.nextRequest limit
    · rw [waited_request, waited_request]
      exact Recut.observed hw rfl (congrArg timedOut (h.nextRequest limit)) (h.asked rfl)
  prints {p q} h unblocked := by
    have unblocked : p.dialogue.parked?.isSome = true := unblocked
    rw [Dialogue.finalOutput_of_parked limit unblocked,
      Dialogue.finalOutput_of_parked limit (h.parked ▸ unblocked)]
    exact ⟨rfl, h⟩
  flush {p q held} h _ := by
    have renders : (Moment.judges held p).renders ⟨W, limit, capture?⟩ =
        (Moment.judges held q).renders ⟨V, limit, capture?⟩ := by
      rw [Moment.renders, Moment.renders, h.buffer]
    rw [flush_observed, flush_observed]
    exact Recut.observed hw rfl renders (h.judge held)

end

/-! ## 4. Runs -/

namespace Run

/-- **Cuts do not matter.**  Let two pages do the same but for the cuts of their texts, and let a
run be made on each of them, from the same conversation and with the same tests, limit and
renderings.  If no wait for output blocks, then the two runs have the same result, they report the
same at the same times besides outputs, and their outputs are the same when they are put
together. -/
theorem cuts_do_not_matter {σ τ : Type} {W : World σ} {V : World τ} {same : σ → τ → Prop}
    (recuts : W.Recuts V same) {s : σ} {t : τ} (start : same s t) (file : TestFile) (url : String)
    (limit : Duration) (capture? : Option Capture) (tests : List String) (d : Dialogue)
    (unblocked : ∀ m ∈ runMoments ⟨W, limit, capture?⟩ file url tests ⟨d, s, 0, []⟩,
      m.Unblocked) :
    let x := run ⟨W, limit, capture?⟩ file url tests ⟨d, s, 0, []⟩
    let y := run ⟨V, limit, capture?⟩ file url tests ⟨d, t, 0, []⟩
    x.1 = y.1 ∧
      x.2.dialogue.journal.besidesOutput = y.2.dialogue.journal.besidesOutput ∧
      x.2.dialogue.journal.output = y.2.dialogue.journal.output := by
  intro x y
  have begun : Performance.Recut same ⟨d, s, 0, []⟩ ⟨d, t, 0, []⟩ :=
    ⟨.refl _, rfl, rfl, .refl _, start, rfl, rfl⟩
  obtain ⟨result, related⟩ :=
    (Performance.inStep_recut recuts limit capture?).run tests begun unblocked
  exact ⟨result, related.journal.besidesOutput, related.journal.output⟩

end Run

/-! ## 5. Scripted pages -/

/-- Turns that emit the same but for the cuts. -/
abbrev Turn.Recut : Turn → Turn → Prop :=
  Playtest.Recut (fun place s => Act.emit (Emission.text place s)) (· = none)

namespace ScriptedPage

/-- The pieces of a text are emitted before all that comes behind them. -/
theorem answer_texts (place : Option Nat) (as : List String) (turn : Turn) :
    answer (as.map (fun s => .emit (Emission.text place s)) ++ turn) =
      { answer turn with
        emissions := as.map (Emission.text place) ++ (answer turn).emissions } := by
  induction as with
  | nil => rfl
  | cons a as ih =>
    rw [List.map_cons, List.cons_append, answer, ih]
    rfl

/-- Turns that are the same but for the cuts give such answers. -/
theorem recut_answer {x y : Turn} (h : Turn.Recut x y) : (answer x).Recut (answer y) := by
  induction h with
  | nil => exact ⟨.nil, rfl, rfl⟩
  | same act rest ih =>
    cases act with
    | emit e => exact ⟨.same e ih.emissions, ih.result, ih.takes⟩
    | fail error => exact ⟨.nil, rfl, rfl⟩
  | texts place joined some rest ih =>
    rw [answer_texts, answer_texts]
    exact ⟨.texts place joined some ih.emissions, ih.result, ih.takes⟩

/-- The same scripts, but for the cuts, in the same state. -/
structure Recut (s t : ScriptedPage) : Prop where
  pages : List.Forall₂ (List.Forall₂ Turn.Recut) s.pages t.pages
  loads : s.loads = t.loads
  turn : s.turn = t.turn
  disk : s.disk = t.disk
  renderError : s.renderError? = t.renderError?

theorem forall₂_getD {α β : Type} {R : α → β → Prop} {a : α} {b : β} {xs : List α} {ys : List β}
    (h : List.Forall₂ R xs ys) (other : R a b) (i : Nat) :
    R (xs[i]?.getD a) (ys[i]?.getD b) := by
  induction h generalizing i with
  | nil => exact other
  | cons first rest ih =>
    cases i with
    | zero => exact first
    | succ i => exact ih i

variable {s t : ScriptedPage}

/-- The next turns are the same, but for the cuts. -/
theorem Recut.play (h : Recut s t) : s.play.1.Recut t.play.1 ∧ Recut s.play.2 t.play.2 := by
  have turns : List.Forall₂ Turn.Recut s.turns t.turns := by
    rw [ScriptedPage.turns, ScriptedPage.turns, h.loads, h.pages.length_eq]
    exact forall₂_getD h.pages .nil _
  have next : Turn.Recut (s.turns[s.turn]?.getD []) (t.turns[t.turn]?.getD []) := by
    rw [h.turn]
    exact forall₂_getD turns .nil _
  exact ⟨recut_answer next, { h with turn := congrArg (· + 1) h.turn }⟩

/-- **Scripts that are the same but for the cuts make pages that are.** -/
theorem recuts_world : world.Recuts world Recut where
  openPage url h :=
    Recut.play { h with loads := congrArg (· + 1) h.loads, turn := rfl }
  send command h := h.play
  render {s t} format h := by
    simp only [world, h.renderError]
    cases t.renderError? with
    | none => exact ⟨rfl, h⟩
    | some e => exact ⟨rfl, h⟩
  save {s t} path bytes h := by
    simp only [world, h.disk]
    cases t.disk.write path bytes with
    | ok disk => exact ⟨rfl, { h with disk := rfl }⟩
    | error e => exact ⟨rfl, h⟩

end ScriptedPage

namespace Run

/-- A test that looks for a greeting, gives a line, and looks for a farewell that must not come. -/
def greeted : TestFile :=
  ⟨[.testStart "one", .directive (.check ⟨"Hello", false⟩),
    .directive (.input ⟨.line, "look"⟩), .directive (.check ⟨"Bye", true⟩)]⟩

/-- A turn that prints these texts and then asks for a line. -/
def spoken (texts : List String) : Turn :=
  texts.map (fun s => .emit (Emission.text none s)) ++
    [.emit (.now (.data (.inputRequested .line)))]

/-- A page that greets with these texts, and answers the line with others. -/
def greeting (texts others : List String) : ScriptedPage where
  pages := [[spoken texts, spoken others]]
  disk := ⟨"", []⟩

/-- The greeting may come in pieces, and where nothing is printed there may be an empty text.  At
the end of the test a request is parked, so the wait for output does not block. -/
theorem cuts_of_greeting :
    let x := run ScriptedPage.setup greeted "" [] ⟨{}, greeting ["Hello"] [], 0, []⟩
    let y := run ScriptedPage.setup greeted "" [] ⟨{}, greeting ["Hel", "", "lo"] [""], 0, []⟩
    x.1 = y.1 ∧
      x.2.dialogue.journal.besidesOutput = y.2.dialogue.journal.besidesOutput ∧
      x.2.dialogue.journal.output = y.2.dialogue.journal.output := by
  have cut {as bs : List String} (joined : String.join as = String.join bs) :
      Turn.Recut (spoken as) (spoken bs) :=
    .texts none joined (fun tight => absurd rfl tight) (.refl _)
  have start : ScriptedPage.Recut (greeting ["Hello"] []) (greeting ["Hel", "", "lo"] [""]) :=
    ⟨.cons (.cons (cut rfl) (.cons (cut rfl) .nil)) .nil, rfl, rfl, rfl, rfl⟩
  have unblocked : (runMoments ScriptedPage.setup greeted "" []
      ⟨{}, greeting ["Hello"] [], 0, []⟩).all (fun m => decide m.Unblocked) = true := by cbv
  exact cuts_do_not_matter ScriptedPage.recuts_world start greeted "" (Duration.ofSeconds 1) none
    [] {} fun m hm => of_decide_eq_true (List.all_eq_true.1 unblocked m hm)

end Run
end Playtest
