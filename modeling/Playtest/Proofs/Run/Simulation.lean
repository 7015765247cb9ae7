/-
# Two runs in step

Much that can be said of runs compares two of them: the same tests, in another setup or on a page
that behaves otherwise.  This file has the argument that all such comparisons share.

The page is rendered, and the script waits for it, only at the *moments* of a run: when a wait
begins, and when checks are about to be made.  `InStep` collects what a relation between
performances has to satisfy, one condition for each step, and the conditions for waits and checks
only at the moments that are good.  `InStep.run` draws the conclusion for whole runs: if all moments
of the first run are good, the two runs have the same result, and the performances that they leave
are related.
-/
import Playtest.Proofs.Run.Chronicle
import Playtest.Proofs.Run.Sequence

namespace Playtest

/-! ## 1. Moments -/

/-- A moment of a run. -/
inductive Moment (σ : Type) where
  /-- A wait begins. -/
  | waits (awaited : Awaited) (p : Performance σ)
  /-- Checks are about to be made on the text that has been gathered. -/
  | judges (held : List Held) (p : Performance σ)

namespace Performance

variable {σ : Type}

/-- The moments of an input: what `giveInput` comes to. -/
def inputMoments (setup : Setup σ) (held : List Held) (p : Performance σ) : List (Moment σ) :=
  .waits .inputRequest p ::
    match (p.dialogue.nextRequest setup.limit).1 with
    | .error _ => []
    | .ok _ => [.judges held (p.asked setup)]

/-- The moments of some items: what `recite` comes to. -/
def moments (setup : Setup σ) : List Expansion.Item → List Held → Performance σ → List (Moment σ)
  | [], _, _ => []
  | .check owner c :: items, held, p => moments setup items (held ++ [⟨owner, c⟩]) p
  | .passed x :: items, held, p =>
    moments setup items held (p.record (.warned (Activation.warning x.test x.line)))
  | .input i :: items, held, p =>
    p.inputMoments setup held ++
      match p.giveInput setup i held with
      | (.error _, _) => []
      | (.ok (), p) => moments setup items [] p

/-- The moments at the end of a test: what `finish` comes to. -/
def finalMoments (setup : Setup σ) (held : List Held) (p : Performance σ) : List (Moment σ) :=
  if held = [] then []
  else if p.drained.dialogue.buffer = "" then
    .waits .finalOutput p.drained ::
      match (p.drained.dialogue.finalOutput setup.limit).1 with
      | .error _ => []
      | .ok () => [.judges held (p.drained.printed setup)]
  else [.judges held p.drained]

end Performance

namespace Run

variable {σ : Type}

/-- The moments of a test: what `one` comes to. -/
def momentsOf (setup : Setup σ) (file : TestFile) (url name : String) (p : Performance σ) :
    List (Moment σ) :=
  match (openAnswer setup url p).result with
  | .error _ => []
  | .ok () =>
    let q := opened setup url name p
    q.moments setup (file.expansion name).items [] ++
      match q.enact setup (file.expansion name) [] with
      | (.error _, _) => []
      | (.ok held, q) => q.finalMoments setup held

/-- The moments of all tests, in order. -/
def moments (setup : Setup σ) (file : TestFile) (url : String) (names : List String)
    (p : Performance σ) : List (Moment σ) :=
  (stages setup file url names p).flatMap fun stage =>
    momentsOf setup file url stage.1 stage.2

/-- The moments of a run. -/
def runMoments (setup : Setup σ) (file : TestFile) (url : String) (tests : List String)
    (p : Performance σ) : List (Moment σ) :=
  moments setup file url (selection file tests) (announced url (selection file tests) p)

end Run

/-! ## 2. What a moment comes to -/

/-- The event with which a rendering that was made is over: it was written, or that failed. -/
def Capture.over (c : Capture) : Except IoError Unit → Event
  | .ok () => .saved c.path
  | .error e => .warned ("could not write " ++ c.path ++ ": " ++ e.text)

/-- A wait ended because its time was up. -/
def timedOut {α : Type} : Except TestError α → Bool
  | .error (.timeout _ _) => true
  | _ => false

namespace Moment

variable {σ : Type}

/-- The performance at a moment. -/
def performance : Moment σ → Performance σ
  | .waits _ p => p
  | .judges _ p => p

/-- What a moment comes to, without a rendering: the end of the wait, or the checks made. -/
def passed (setup : Setup σ) : Moment σ → Performance σ
  | .waits .inputRequest p => p.asked setup
  | .waits .finalOutput p => p.printed setup
  | .judges held p => p.judge held

/-- The page is to be rendered at this moment: the time of the wait was up, or a check failed. -/
def renders (setup : Setup σ) : Moment σ → Bool
  | .waits .inputRequest p => timedOut (p.dialogue.nextRequest setup.limit).1
  | .waits .finalOutput p => timedOut (p.dialogue.finalOutput setup.limit).1
  | .judges held p => !held.all fun h => h.check.passes p.dialogue.buffer

/-- What a moment comes to, with its rendering. -/
def observed (setup : Setup σ) (m : Moment σ) : Performance σ :=
  if m.renders setup then (m.passed setup).captureIfWanted setup else m.passed setup

end Moment

namespace Performance

variable {σ : Type} {setup : Setup σ}

/-- A rendering that cannot be made. -/
theorem capture_of_unrendered {c : Capture} {p : Performance σ} {e : BrowserError} {w : σ}
    (hr : setup.world.render c.format p.world = (.error e, w)) :
    p.capture c setup =
      ({ p.record (.rendered c.format) with world := w } : Performance σ).record
        (.warned ("could not render diagnostic " ++ c.format.extension ++ ": " ++ e.message)) := by
  simp [capture, record, hr]

/-- A rendering that is made is written, and meanwhile messages arrive. -/
theorem capture_of_rendered {c : Capture} {p : Performance σ} {bytes : String} {w : σ}
    (hr : setup.world.render c.format p.world = (.ok bytes, w)) :
    p.capture c setup =
      ({ p.record (.rendered c.format) with
          world := (setup.world.save c.path bytes w).2
          dialogue := { (p.record (.rendered c.format)).dialogue with
            channel := p.dialogue.channel.arrive } } : Performance σ).record
        (c.over (setup.world.save c.path bytes w).1) := by
  rcases hs : setup.world.save c.path bytes w with ⟨e | u, w'⟩ <;>
    simp [capture, record, Dialogue.record, Capture.over, hr, hs]

theorem waited_snd {α : Type} (p : Performance σ) (outcome : Except TestError α × Dialogue) :
    (p.waited setup outcome).2 =
      if timedOut outcome.1 then
        ({ p with dialogue := outcome.2 } : Performance σ).captureIfWanted setup
      else { p with dialogue := outcome.2 } := by
  obtain ⟨result, d⟩ := outcome
  rcases result with e | a
  · cases e <;> rfl
  · rfl

/-- The end of a wait for a request. -/
theorem waited_request (p : Performance σ) :
    (p.waited setup (p.dialogue.nextRequest setup.limit)).2 =
      (Moment.waits .inputRequest p).observed setup :=
  waited_snd p _

/-- The end of a wait for output. -/
theorem waited_output (p : Performance σ) :
    (p.waited setup (p.dialogue.finalOutput setup.limit)).2 =
      (Moment.waits .finalOutput p).observed setup :=
  waited_snd p _

/-- The checks of a moment, and the rendering behind them. -/
theorem flush_observed (held : List Held) (p : Performance σ) :
    p.flush setup held = (Moment.judges held p).observed setup := by
  rw [flush_eq, Moment.observed, Moment.renders]
  cases held.all fun h => h.check.passes p.dialogue.buffer <;> rfl

end Performance

/-! ## 3. Steps -/

section
variable {σ τ : Type}

/-- Two calls have the same result and leave related performances. -/
structure Agree (R : Performance σ → Performance τ → Prop) {α : Type} (x : α × Performance σ)
    (y : α × Performance τ) : Prop where
  result : x.1 = y.1
  related : R x.2 y.2

/-- The steps of two setups keep performances related, the waits and the checks at least in good
moments. -/
structure InStep (S : Setup σ) (T : Setup τ) (good : Moment σ → Prop)
    (R : Performance σ → Performance τ → Prop) : Prop where
  errors {p q} : R p q → p.errors = q.errors
  failures {p q} : R p q → p.failures = q.failures
  buffer {p q} : R p q → p.dialogue.buffer = q.dialogue.buffer
  record {p q} (event : Event) : R p q → R (p.record event) (q.record event)
  counted {p q} : R p q → R { p with errors := p.errors + 1 } { q with errors := q.errors + 1 }
  reset {p q} : R p q →
    R { p with dialogue := p.dialogue.reset } { q with dialogue := q.dialogue.reset }
  drained {p q} : R p q → R p.drained q.drained
  openPage {p q} (url : String) : R p q → Agree R (p.openPage S url) (q.openPage T url)
  send {p q} (command : Command) : R p q → Agree R (p.send S command) (q.send T command)
  /-- The wait for a request. -/
  asks {p q} : R p q → good (.waits .inputRequest p) →
    Agree R (p.waited S (p.dialogue.nextRequest S.limit))
      (q.waited T (q.dialogue.nextRequest T.limit))
  /-- The wait for output at the end of a test. -/
  prints {p q} : R p q → good (.waits .finalOutput p) →
    Agree R (p.waited S (p.dialogue.finalOutput S.limit))
      (q.waited T (q.dialogue.finalOutput T.limit))
  flush {p q} {held : List Held} : R p q → good (.judges held p) →
    R (p.flush S held) (q.flush T held)

namespace InStep

variable {S : Setup σ} {T : Setup τ} {good : Moment σ → Prop}
  {R : Performance σ → Performance τ → Prop} {p : Performance σ} {q : Performance τ}

open Performance

/-! ## 4. Scripts -/

/-- **Inputs keep step.** -/
theorem giveInput (h : InStep S T good R) (input : Input) {held : List Held} (hr : R p q)
    (hg : ∀ m ∈ p.inputMoments S held, good m) :
    Agree R (p.giveInput S input held) (q.giveInput T input held) := by
  obtain ⟨first, more⟩ := List.forall_mem_cons.1 hg
  have waited := h.asks hr first
  have ends := waited.result
  rw [waited_fst, waited_fst] at ends
  rcases ho : (p.dialogue.nextRequest S.limit).1 with e | requested
  · rw [giveInput_of_error input held ho, giveInput_of_error input held (ends.symm.trans ho)]
    exact ⟨rfl, waited.related⟩
  · have ho' := ends.symm.trans ho
    have asked : R (p.asked S) (q.asked T) := by
      have := waited.related
      rwa [waited_of_ok ho, waited_of_ok ho'] at this
    rw [ho] at more
    have flushed : R ((p.asked S).flush S held) ((q.asked T).flush T held) :=
      h.flush asked (List.forall_mem_singleton.1 more)
    rw [giveInput_of_ok input held ho, giveInput_of_ok input held ho']
    split
    · exact ⟨rfl, flushed⟩
    · have sent := h.send (Command.ofInput input) flushed
      exact ⟨congrArg (Except.mapError TestError.browser) sent.result, sent.related⟩

/-- **Scripts keep step.** -/
theorem recite (h : InStep S T good R) (items : List Expansion.Item) (held : List Held)
    (hr : R p q) (hg : ∀ m ∈ p.moments S items held, good m) :
    Agree R (p.recite S items held) (q.recite T items held) := by
  induction items generalizing held p q with
  | nil => exact ⟨rfl, hr⟩
  | cons item items ih =>
    cases item with
    | check owner c => exact ih _ hr hg
    | passed x => exact ih held (h.record _ hr) hg
    | input i =>
      rw [moments, List.forall_mem_append] at hg
      obtain ⟨result, related⟩ := h.giveInput i hr hg.1
      rw [Performance.recite, Performance.recite]
      rcases hp : p.giveInput S i held with ⟨e | u, p'⟩ <;>
        rcases hq : q.giveInput T i held with ⟨e' | u', q'⟩ <;>
        rw [hp, hq] at result related <;> cases result
      · exact ⟨rfl, related⟩
      · rw [hp] at hg
        exact ih [] related hg.2

theorem enact (h : InStep S T good R) (x : Expansion) (held : List Held) (hr : R p q)
    (hg : ∀ m ∈ p.moments S x.items held, good m) :
    Agree R (p.enact S x held) (q.enact T x held) := by
  obtain ⟨result, related⟩ := h.recite x.items held hr hg
  rw [Performance.enact, Performance.enact]
  rcases hp : p.recite S x.items held with ⟨e | left, p'⟩ <;>
    rcases hq : q.recite T x.items held with ⟨e' | left', q'⟩ <;>
    rw [hp, hq] at result related <;> cases result
  · exact ⟨rfl, related⟩
  · exact ⟨rfl, related⟩

/-- **The ends of tests keep step.** -/
theorem finish (h : InStep S T good R) {held : List Held} (hr : R p q)
    (hg : ∀ m ∈ p.finalMoments S held, good m) :
    Agree R (p.finish S held) (q.finish T held) := by
  rw [finalMoments] at hg
  by_cases hh : held = []
  · rw [hh]
    exact ⟨rfl, hr⟩
  rw [if_neg hh] at hg
  have drained := h.drained hr
  have buffer := h.buffer drained
  by_cases hb : p.drained.dialogue.buffer = ""
  · have hb' := buffer.symm.trans hb
    rw [if_pos hb] at hg
    obtain ⟨first, more⟩ := List.forall_mem_cons.1 hg
    have waited := h.prints drained first
    have ends := waited.result
    rw [waited_fst, waited_fst] at ends
    rcases ho : (p.drained.dialogue.finalOutput S.limit).1 with e | u
    · rw [finish_of_error hh hb ho, finish_of_error hh hb' (ends.symm.trans ho)]
      exact ⟨rfl, waited.related⟩
    · have ho' := ends.symm.trans ho
      have printed : R (p.drained.printed S) (q.drained.printed T) := by
        have := waited.related
        rwa [waited_of_ok ho, waited_of_ok ho'] at this
      rw [ho] at more
      rw [finish_of_ok hh hb ho, finish_of_ok hh hb' ho']
      exact ⟨rfl, h.flush printed (List.forall_mem_singleton.1 more)⟩
  · have hb' : q.drained.dialogue.buffer ≠ "" := buffer ▸ hb
    rw [if_neg hb] at hg
    rw [finish_of_text hh hb, finish_of_text hh hb']
    exact ⟨rfl, h.flush drained (List.forall_mem_singleton.1 hg)⟩

/-! ## 5. Runs -/

variable {file : TestFile} {url : String}

/-- **Tests keep step.** -/
theorem one (h : InStep S T good R) (name : String) (hr : R p q)
    (hg : ∀ m ∈ Run.momentsOf S file url name p, good m) :
    Agree R (Run.one S file url name p) (Run.one T file url name q) := by
  have begun : R (Run.begun name p) (Run.begun name q) := h.reset (h.record _ hr)
  obtain ⟨result, opened⟩ := h.openPage url begun
  have answer : (Run.openAnswer S url p).result = (Run.openAnswer T url q).result := result
  have opened : R (Run.opened S url name p) (Run.opened T url name q) := opened
  rw [Run.momentsOf] at hg
  rw [Run.one_eq_enact, Run.one_eq_enact, ← answer]
  rcases ha : (Run.openAnswer S url p).result with e | u
  · exact ⟨rfl, opened⟩
  · rw [ha] at hg
    dsimp only at hg ⊢
    rw [List.forall_mem_append] at hg
    obtain ⟨result, related⟩ := h.enact (file.expansion name) [] opened hg.1
    rcases hp : (Run.opened S url name p).enact S (file.expansion name) [] with ⟨e | left, p'⟩ <;>
      rcases hq : (Run.opened T url name q).enact T (file.expansion name) []
        with ⟨e' | left', q'⟩ <;>
      rw [hp, hq] at result related <;> cases result
    · exact ⟨rfl, related⟩
    · rw [hp] at hg
      exact h.finish related hg.2

/-- **All tests keep step.** -/
theorem all (h : InStep S T good R) (names : List String) (hr : R p q)
    (hg : ∀ m ∈ Run.moments S file url names p, good m) :
    Agree R (Run.all S file url names p) (Run.all T file url names q) := by
  induction names, p using Run.all_induction S file url generalizing q with
  | nil p => exact ⟨rfl, hr⟩
  | ok name names p ho ih =>
    rw [Run.moments, Run.stages_of_ok S file url names ho, List.flatMap_cons,
      List.forall_mem_append] at hg
    obtain ⟨result, related⟩ := h.one name hr hg.1
    rw [Run.all_of_ok S file url names ho, Run.all_of_ok T file url names (result.symm.trans ho)]
    exact ih related hg.2
  | fatal name names p e ho hf =>
    rw [Run.moments, Run.stages_of_fatal S file url names ho hf, List.flatMap_cons,
      List.forall_mem_append] at hg
    obtain ⟨result, related⟩ := h.one name hr hg.1
    rw [Run.all_of_fatal S file url names ho hf,
      Run.all_of_fatal T file url names (result.symm.trans ho) hf]
    exact ⟨rfl, related⟩
  | goesOn name names p e ho hf ih =>
    rw [Run.moments, Run.stages_of_counted S file url names ho hf, List.flatMap_cons,
      List.forall_mem_append] at hg
    obtain ⟨result, related⟩ := h.one name hr hg.1
    have counted : R (Run.counted name e (Run.one S file url name p).2)
        (Run.counted name e (Run.one T file url name q).2) := h.record _ (h.counted related)
    obtain ⟨rest, left⟩ := ih counted hg.2
    rw [Run.all_of_counted S file url names ho hf,
      Run.all_of_counted T file url names (result.symm.trans ho) hf]
    exact ⟨congrArg (Except.map (⟨name, e.message⟩ :: ·)) rest, left⟩

/-- **Runs keep step.**  If all moments of the first run are good, the second one has the same
result, and the performances that they leave are related. -/
theorem run (h : InStep S T good R) (tests : List String) (hr : R p q)
    (hg : ∀ m ∈ Run.runMoments S file url tests p, good m) :
    Agree R (Run.run S file url tests p) (Run.run T file url tests q) := by
  obtain ⟨result, related⟩ := h.all (Run.selection file tests) (h.record _ hr) hg
  rcases hp : Run.all S file url (Run.selection file tests)
    (Run.announced url (Run.selection file tests) p) with ⟨e | aborted, p'⟩ <;>
    rcases hq : Run.all T file url (Run.selection file tests)
      (Run.announced url (Run.selection file tests) q) with ⟨e' | aborted', q'⟩ <;>
    rw [Run.announced] at hp hq <;>
    rw [hp, hq] at result related <;> cases result
  · rw [Run.run_of_error hp, Run.run_of_error hq]
    exact ⟨rfl, related⟩
  · rw [Run.run_of_ok hp, Run.run_of_ok hq, h.errors related, h.failures related]
    exact ⟨rfl, related⟩

end InStep

end

end Playtest
