/-
# Tests do not influence one another

A test begins by forgetting: the messages that have arrived, the text that was gathered and the
request that was parked are gone, however the test before it ended.  What is left of the past is
the clock, the journal, the errors that were counted and what is still under way; and if nothing
is, the test does what it would do as the first one of all (`Run.one_of_settled`).

So runs compose: to run two selections together is to run the second one behind the first one,
as if on a new page in the state in which the first one left it.
-/
import Mathlib.Data.List.Permutation
import Playtest.Proofs.Run.Past
import Playtest.Rehearsal.ScriptedPage

namespace Playtest

/-! ## 1. What a test forgets -/

namespace Performance

variable {σ : Type}

/-- A performance without a past, in this state of the world. -/
def fresh (w : σ) : Performance σ := { dialogue := {}, world := w }

/-- The past of what comes next. -/
def past (p : Performance σ) : Past :=
  ⟨p.dialogue.channel.now, p.dialogue.journal, p.errors, p.failures⟩

/-- Everything that was posted has arrived, and the page keeps its end open. -/
structure Settled (p : Performance σ) : Prop where
  arrived : p.dialogue.channel.scheduled = []
  isOpen : p.dialogue.channel.closes? = none

end Performance

namespace Run

variable {σ : Type} (setup : Setup σ) (file : TestFile) (url : String)

/-- **A test forgets.**  It begins as if nothing had been before it but its past. -/
theorem begun_of_settled (name : String) {p : Performance σ} (h : p.Settled) :
    begun name p = (begun name (.fresh p.world)).behind p.past := by
  obtain ⟨⟨⟨now, queue, scheduled, closes?⟩, buffer, parked, journal⟩, world, errors, failures⟩ := p
  obtain ⟨arrived, hopen⟩ := h
  cases arrived
  cases hopen
  simp [begun, Performance.fresh, Performance.past, Performance.behind, Dialogue.behind,
    Channel.delayed, Journal.delayed, TimedEvent.delayed, Performance.record, Dialogue.record,
    Dialogue.reset]

theorem one_of_settled (name : String) {p : Performance σ} (h : p.Settled) :
    one setup file url name p =
      ((one setup file url name (.fresh p.world)).1,
        (one setup file url name (.fresh p.world)).2.behind p.past) := by
  have begins : one setup file url name p =
      one setup file url name ((Performance.fresh p.world).behind p.past) := by
    have opens : opened setup url name p =
        opened setup url name ((Performance.fresh p.world).behind p.past) := by
      rw [opened, opened, begun_behind, begun_of_settled name h]
    rw [one_eq_enact, one_eq_enact, opens]
    rfl
  rw [begins, one_behind]

/-- **Tests that follow others** do what they would do without them. -/
theorem all_of_settled {names : List String} (hn : names ≠ []) {p : Performance σ}
    (h : p.Settled) :
    all setup file url names p =
      ((all setup file url names (.fresh p.world)).1,
        (all setup file url names (.fresh p.world)).2.behind p.past) := by
  cases names with
  | nil => exact absurd rfl hn
  | cons name names =>
    have begins : all setup file url (name :: names) p =
        all setup file url (name :: names) ((Performance.fresh p.world).behind p.past) := by
      rw [all, all, one_of_settled setup file url name h, one_behind]
    rw [begins, all_behind]

end Run

/-! ## 2. One selection behind another -/

/-- The summary of two runs together. -/
def RunSummary.andThen (s t : RunSummary) : RunSummary :=
  ⟨s.testsRun + t.testsRun, s.errors + t.errors, s.failures ++ t.failures, s.aborted ++ t.aborted⟩

namespace Journal

/-- What is reported and what is asked of the page, with the warnings: all but the notes on
progress. -/
def acts (j : Journal) : Journal :=
  j.filter fun e =>
    match e.event with
    | .info _ => false
    | _ => true

theorem acts_append (j k : Journal) : acts (j ++ k) = acts j ++ acts k :=
  List.filter_append ..

theorem acts_delayed (ms : Nat) (j : Journal) : acts (j.delayed ms) = (acts j).delayed ms :=
  List.filter_map ..

theorem delayed_zero (j : Journal) : j.delayed 0 = j :=
  List.map_id j

end Journal

theorem Channel.delayed_zero (ch : Channel) : ch.delayed 0 = ch := by
  have same : ch.scheduled.map (Delivery.delayed 0) = ch.scheduled := List.map_id _
  have closes : ch.closes?.map (· + 0) = ch.closes? := Option.map_id'
  rw [delayed, same, closes]
  rfl

namespace Run

variable {σ : Type} (setup : Setup σ) (file : TestFile) (url : String)

/-- What is noted when a run of these tests begins. -/
def announcement (names : List String) (d : Dialogue) : Journal :=
  d.journal ++
    [⟨d.channel.now, .info ("running " ++ toString names.length ++ " tests against " ++ url)⟩]

theorem acts_announcement (names : List String) (d : Dialogue) :
    (announcement url names d).acts = d.journal.acts := by
  rw [announcement, Journal.acts_append]
  exact List.append_nil _

/-- What a run gives whose tests have ended so. -/
def summarized (names : List String) (result : Except TestError (List AbortedTest))
    (q : Performance σ) : Except TestError RunSummary :=
  result.map fun aborted => ⟨names.length, q.errors, q.failures, aborted⟩

/-- **A run is its tests behind its announcement.** -/
theorem run_eq {names : List String} (hn : names ≠ []) (d : Dialogue) (w : σ)
    {result : Except TestError (List AbortedTest)} {q : Performance σ}
    (h : all setup file url names ⟨{ d with journal := [] }, w, 0, []⟩ = (result, q)) :
    run setup file url names ⟨d, w, 0, []⟩ =
      (summarized names result q, q.behind ⟨0, announcement url names d, 0, []⟩) := by
  have selected : selection file names = names := if_neg hn
  have announces : announced url names ⟨d, w, 0, []⟩ =
      (⟨{ d with journal := [] }, w, 0, []⟩ : Performance σ).behind
        ⟨0, announcement url names d, 0, []⟩ := by
    simp [announced, announcement, Performance.behind, Dialogue.behind, Channel.delayed_zero,
      Journal.delayed, Performance.record, Dialogue.record]
  have tests : all setup file url (selection file names)
      (announced url (selection file names) ⟨d, w, 0, []⟩) =
        (result, q.behind ⟨0, announcement url names d, 0, []⟩) := by
    rw [selected, announces, all_behind, h]
  cases result with
  | error e => exact run_of_error tests
  | ok aborted =>
    rw [run_of_ok tests, selected]
    simp [summarized, Performance.behind, Except.map]

/-- The summary of tests that follow others. -/
theorem summarized_append (a b : List String) (aborted : List AbortedTest)
    (result : Except TestError (List AbortedTest)) (q r : Performance σ) :
    summarized (a ++ b) (result.map (aborted ++ ·)) (r.behind q.past) =
      (summarized b result r).map
        (⟨a.length, q.errors, q.failures, aborted⟩ : RunSummary).andThen := by
  cases result with
  | error e => rfl
  | ok more =>
    rw [summarized, List.length_append]
    rfl

/-- **Runs compose.**  If the run of one selection has come to its end, everything that the page
posted has arrived and the page keeps its end open, then to run both selections is to run the
first one and behind it the second one, as it runs on its own with the page in the state where
the first one left it: the counts are added, the lists and the journals are put together, the
second journal later by the time that the first run took; and if the second run fails, both fail
so.  For nothing that may be left behind makes a difference to the tests that follow. -/
theorem runs_compose (a b : List String) (d : Dialogue) (w : σ) (s : RunSummary) (ha : a ≠ [])
    (hb : b ≠ []) (hok : (run setup file url a ⟨d, w, 0, []⟩).1 = .ok s)
    (settled : (run setup file url a ⟨d, w, 0, []⟩).2.Settled) :
    let first := (run setup file url a ⟨d, w, 0, []⟩).2
    let second := run setup file url b (.fresh first.world)
    let whole := run setup file url (a ++ b) ⟨d, w, 0, []⟩
    whole.1 = second.1.map s.andThen ∧
    whole.2.world = second.2.world ∧
    whole.2.dialogue.journal.acts =
      first.dialogue.journal.acts ++
        second.2.dialogue.journal.acts.delayed first.dialogue.channel.now ∧
    ∀ left : Performance σ, left.world = first.world → left.Settled →
      all setup file url b left =
        ((all setup file url b (.fresh first.world)).1,
          (all setup file url b (.fresh first.world)).2.behind left.past) := by
  rcases hA : all setup file url a ⟨{ d with journal := [] }, w, 0, []⟩ with ⟨e | aborted, q⟩
  · rw [run_eq setup file url ha d w hA] at hok
    cases hok
  have firstRun := run_eq setup file url ha d w hA
  rw [firstRun] at hok settled
  cases hok
  have settled' : q.Settled :=
    ⟨List.map_eq_nil_iff.1 settled.arrived, Option.map_eq_none_iff.1 settled.isOpen⟩
  rcases hB : all setup file url b (.fresh q.world) with ⟨result, r⟩
  have secondRun : run setup file url b (.fresh q.world) =
      (summarized b result r, r.behind ⟨0, announcement url b {}, 0, []⟩) :=
    run_eq setup file url hb {} q.world hB
  have wholeRun : run setup file url (a ++ b) ⟨d, w, 0, []⟩ =
      (summarized (a ++ b) (result.map (aborted ++ ·)) (r.behind q.past),
        (r.behind q.past).behind ⟨0, announcement url (a ++ b) d, 0, []⟩) := by
    refine run_eq setup file url (fun h => ha (List.append_eq_nil_iff.1 h).1) d w ?_
    rw [all_append, hA]
    dsimp only
    rw [all_of_settled setup file url hb settled', hB]
  rw [firstRun, wholeRun]
  dsimp only
  have world : (q.behind ⟨0, announcement url a d, 0, []⟩).world = q.world := rfl
  rw [world, secondRun]
  refine ⟨summarized_append a b aborted result q r, rfl, ?_, ?_⟩
  · have later : q.dialogue.channel.now + 0 = q.dialogue.channel.now := rfl
    simp only [Performance.behind, Dialogue.behind, Performance.past, Channel.delayed, later,
      Journal.acts_append, Journal.acts_delayed, Journal.delayed_append, acts_announcement,
      Journal.delayed_zero, List.append_assoc]
    rfl
  · intro left hw hl
    rw [← hw]
    exact all_of_settled setup file url hb hl

/-- Two tests: the first one presses a key, the second one looks for a greeting. -/
def keyThenGreeting : TestFile :=
  ⟨[.testStart "key", .directive (.input ⟨.char, "x"⟩),
    .testStart "greeting", .directive (.check ⟨"Hello", false⟩)]⟩

/-- A page that asks for a line twice when it is loaded first, and greets when it is loaded
again. -/
def askingPage : ScriptedPage where
  pages := [[[.emit (.now (.data (.inputRequested .line))),
      .emit (.now (.data (.bufferText "Name?"))), .emit (.now (.data (.inputRequested .line)))]],
    [[.emit (.later 20 (.data (.bufferText "Hello")))]]]
  disk := ⟨"", []⟩

/-- The run of the first test: a key is no line. -/
theorem run_key :
    run ScriptedPage.setup keyThenGreeting "" ["key"] ⟨{}, askingPage, 0, []⟩ =
      (.ok ⟨1, 1, [], [⟨"key", "game is not expecting char input (it requested line input)"⟩]⟩,
        counted "key" (.protocolViolation .char .line)
          (one ScriptedPage.setup keyThenGreeting "" "key"
            (announced "" ["key"] ⟨{}, askingPage, 0, []⟩)).2) := by
  have refused : (one ScriptedPage.setup keyThenGreeting "" "key"
      (announced "" ["key"] ⟨{}, askingPage, 0, []⟩)).1 =
        .error (.protocolViolation .char .line) := by
    cbv
  have errors : (one ScriptedPage.setup keyThenGreeting "" "key"
      (announced "" ["key"] ⟨{}, askingPage, 0, []⟩)).2.errors = 0 := by
    cbv
  have failures : (one ScriptedPage.setup keyThenGreeting "" "key"
      (announced "" ["key"] ⟨{}, askingPage, 0, []⟩)).2.failures = [] := by
    cbv
  have tests := all_of_counted ScriptedPage.setup keyThenGreeting "" [] refused rfl
  refine (run_of_ok tests).trans ?_
  simp only [all, counted, Performance.record, errors, failures]
  rfl

/-- The first test is aborted and leaves a text and a request behind.  They are no part of the
second one, which waits for its greeting and passes. -/
theorem runs_compose_behind_abort :
    (run ScriptedPage.setup keyThenGreeting "" ["key"] ⟨{}, askingPage, 0, []⟩).2.Settled ∧
      (run ScriptedPage.setup keyThenGreeting "" ["key"]
        ⟨{}, askingPage, 0, []⟩).2.dialogue.channel.queue =
          [.data (.bufferText "Name?"), .data (.inputRequested .line)] ∧
      (run ScriptedPage.setup keyThenGreeting "" ["key", "greeting"]
        ⟨{}, askingPage, 0, []⟩).1 =
          .ok ⟨2, 1, [],
            [⟨"key", "game is not expecting char input (it requested line input)"⟩]⟩ := by
  have hok := congrArg Prod.fst run_key
  have settled :
      (run ScriptedPage.setup keyThenGreeting "" ["key"] ⟨{}, askingPage, 0, []⟩).2.Settled := by
    rw [run_key]
    exact ⟨by cbv, by cbv⟩
  have composed := runs_compose ScriptedPage.setup keyThenGreeting "" ["key"] ["greeting"] {}
    askingPage _ (List.cons_ne_nil _ _) (List.cons_ne_nil _ _) hok settled
  have greeted : (run ScriptedPage.setup keyThenGreeting "" ["greeting"] (.fresh
      (run ScriptedPage.setup keyThenGreeting "" ["key"] ⟨{}, askingPage, 0, []⟩).2.world)).1 =
        .ok ⟨1, 0, [], []⟩ := by
    rw [run_key]
    cbv
  refine ⟨settled, ?_, ?_⟩
  · rw [run_key]
    cbv
  · exact composed.1.trans (by rw [greeted]; rfl)

end Run
end Playtest
