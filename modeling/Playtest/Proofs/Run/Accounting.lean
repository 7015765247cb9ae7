/-
# The accounts of a run

Three things keep the accounts of a run: the performance counts errors and collects failures
while the tests are performed, the run makes a list of the tests that were aborted and sums up,
and in the journal everything is written down.  They agree.

The journal of a run is made of the reports of its tests one behind the other.  A report begins
with the start of the test and the opening of its page, goes on with a body that has none of
these events (`Notes`), and ends with the abort, if there was one.  What the performance counts
and collects is what the reports say (`tallies_all`), and the last report says how the run
ended (`all_ends`).
-/
import Playtest.Proofs.Run.Notes
import Playtest.Proofs.Run.Sequence
import Playtest.Proofs.Run.TurnTaking

namespace Playtest

/-! ## 1. Reports -/

/-- The aborted test that an event reports. -/
def Event.aborted? : Event → Option AbortedTest
  | .aborted test e => some ⟨test, e.message⟩
  | _ => none

/-- The events that are written down so far. -/
def Performance.written {σ : Type} (p : Performance σ) : List Event :=
  p.dialogue.journal.map TimedEvent.event

/-- What is written down of one test. -/
structure Report where
  test : String
  /-- What is written behind the opening of the page. -/
  body : List Event
  ended : Except TestError Unit

namespace Report

/-- The error with which the test ended the run. -/
def fatal? (r : Report) : Option TestError :=
  match r.ended with
  | .error e => if e.isFatal then some e else none
  | .ok () => none

/-- The error with which the test ended, if the run goes on. -/
def counted? (r : Report) : Option TestError :=
  match r.ended with
  | .error e => if e.isFatal then none else some e
  | .ok () => none

/-- The test as an aborted one, if it is. -/
def aborted? (r : Report) : Option AbortedTest :=
  r.counted?.map fun e => ⟨r.test, e.message⟩

/-- The events of a report. -/
def events (url : String) (r : Report) : List Event :=
  .started r.test :: .opened url ::
    (r.body ++ (r.counted?.map (Event.aborted r.test)).toList)

theorem failure?_events (url : String) (reports : List Report) :
    (reports.flatMap (events url)).filterMap Event.failure? =
      (reports.flatMap body).filterMap Event.failure? := by
  induction reports with
  | nil => rfl
  | cons r reports ih =>
    have abort : (r.counted?.map (Event.aborted r.test)).toList.filterMap Event.failure? = [] := by
      cases r.counted? <;> rfl
    have first : (r.events url).filterMap Event.failure? = r.body.filterMap Event.failure? := by
      rw [events, List.filterMap_cons_none rfl, List.filterMap_cons_none rfl,
        List.filterMap_append, abort, List.append_nil]
    rw [List.flatMap_cons, List.flatMap_cons, List.filterMap_append, List.filterMap_append, first,
      ih]

/-- The aborts that reports say are their own, if the bodies say none. -/
theorem aborted?_events (url : String) {reports : List Report}
    (quiet : ∀ r ∈ reports, ∀ e ∈ r.body, e.isMilestone = false) :
    (reports.flatMap (events url)).filterMap Event.aborted? = reports.filterMap aborted? := by
  induction reports with
  | nil => rfl
  | cons r reports ih =>
    have body : r.body.filterMap Event.aborted? = [] := by
      refine List.filterMap_eq_nil_iff.2 ?_
      intro e he
      have := quiet r List.mem_cons_self e he
      cases e <;> first | rfl | cases this
    have first : (r.events url).filterMap Event.aborted? = r.aborted?.toList := by
      rw [events, List.filterMap_cons_none rfl, List.filterMap_cons_none rfl,
        List.filterMap_append, body, aborted?]
      cases r.counted? <;> rfl
    rw [List.flatMap_cons, List.filterMap_append, first,
      ih fun x hx => quiet x (List.mem_cons_of_mem r hx), List.filterMap_cons]
    cases r.aborted? <;> rfl

end Report

namespace Run

variable {σ : Type} (setup : Setup σ) (file : TestFile) (url : String)

/-- The report of a test that begins with `p`. -/
def report (name : String) (p : Performance σ) : Report where
  test := name
  body := (one setup file url name p).2.written.drop (opened setup url name p).written.length
  ended := (one setup file url name p).1

/-- The reports of the tests that are performed. -/
def reports (names : List String) (p : Performance σ) : List Report :=
  (stages setup file url names p).map fun s => report setup file url s.1 s.2

theorem written_opened (name : String) (p : Performance σ) :
    (opened setup url name p).written = p.written ++ [.started name, .opened url] := by
  have noted : (opened setup url name p).dialogue.journal =
      (p.dialogue.journal ++ [⟨p.dialogue.channel.now, .started name⟩]) ++
        [⟨p.dialogue.channel.now, .opened url⟩] := rfl
  simp [Performance.written, noted]

/-- Behind the opening of its page a test only makes notes. -/
theorem notes_one (name : String) (p : Performance σ) :
    Notes (opened setup url name p) (one setup file url name p).2 := by
  rw [one_eq_enact]
  rcases (openAnswer setup url p).result with e | u
  · exact .refl _
  · have talk := Performance.notes_recite setup (file.expansion name).items []
      (opened setup url name p)
    rw [← Performance.enact_snd] at talk
    dsimp only
    rcases he : (opened setup url name p).enact setup (file.expansion name) [] with ⟨e | left, q⟩
    · rw [he] at talk
      exact talk
    · rw [he] at talk
      exact talk.trans (Performance.notes_finish setup left q)

section
variable {setup file url} {name : String} {p : Performance σ} {notes : Journal}

theorem written_one_of_notes (h : (one setup file url name p).2.dialogue.journal =
    (opened setup url name p).dialogue.journal ++ notes) :
    (one setup file url name p).2.written =
      (opened setup url name p).written ++ notes.map TimedEvent.event := by
  rw [Performance.written, h, List.map_append]
  rfl

theorem body_of_notes (h : (one setup file url name p).2.dialogue.journal =
    (opened setup url name p).dialogue.journal ++ notes) :
    (report setup file url name p).body = notes.map TimedEvent.event := by
  rw [report, written_one_of_notes h]
  exact List.drop_left

end

/-- **A test writes its report**, up to the abort. -/
theorem written_one (name : String) (p : Performance σ) :
    (one setup file url name p).2.written =
      p.written ++ .started name :: .opened url :: (report setup file url name p).body := by
  obtain ⟨notes, journal, -, -, -⟩ := notes_one setup file url name p
  rw [body_of_notes journal, written_one_of_notes journal, written_opened, List.append_assoc]
  rfl

/-- The body has no milestone, and its failures are those that the test adds. -/
theorem notes_body (name : String) (p : Performance σ) :
    (∀ e ∈ (report setup file url name p).body, e.isMilestone = false) ∧
      (one setup file url name p).2.failures =
        p.failures ++ (report setup file url name p).body.filterMap Event.failure? ∧
      (one setup file url name p).2.errors =
        p.errors + ((report setup file url name p).body.filterMap Event.failure?).length := by
  obtain ⟨notes, journal, quiet, failures, errors⟩ := notes_one setup file url name p
  rw [body_of_notes journal, List.filterMap_map]
  refine ⟨?_, failures, errors⟩
  intro event he
  obtain ⟨e, hm, rfl⟩ := List.mem_map.1 he
  exact quiet e hm

/-! ## 2. The reports of a run -/

/-- From `p` to `q` the reports are written and summed up: the failures are collected, and they
and the aborted tests are counted. -/
structure Tallies (p : Performance σ) (reports : List Report) (q : Performance σ) : Prop where
  written : q.written = p.written ++ reports.flatMap (Report.events url)
  failures : q.failures =
    p.failures ++ (reports.flatMap Report.body).filterMap Event.failure?
  errors : q.errors =
    p.errors + ((reports.flatMap Report.body).filterMap Event.failure?).length +
      (reports.filterMap Report.aborted?).length

section
variable {url} {p q r : Performance σ} {xs ys : List Report}

theorem Tallies.refl (p : Performance σ) : Tallies url p [] p :=
  ⟨(List.append_nil _).symm, (List.append_nil _).symm, rfl⟩

/-- Tallies add up. -/
theorem Tallies.trans (h : Tallies url p xs q) (h' : Tallies url q ys r) :
    Tallies url p (xs ++ ys) r where
  written := by rw [h'.written, h.written, List.flatMap_append, List.append_assoc]
  failures := by
    rw [h'.failures, h.failures, List.flatMap_append, List.filterMap_append, List.append_assoc]
  errors := by
    rw [h'.errors, h.errors, List.flatMap_append, List.filterMap_append, List.filterMap_append,
      List.length_append, List.length_append]
    omega

end

section
variable {setup file url} {name : String} {p : Performance σ} {e : TestError}

/-- A test that is not counted writes its report. -/
theorem tallies_one (h : (report setup file url name p).counted? = none) :
    Tallies url p [report setup file url name p] (one setup file url name p).2 := by
  obtain ⟨-, failures, errors⟩ := notes_body setup file url name p
  refine ⟨?_, ?_, ?_⟩
  · rw [written_one, List.flatMap_singleton, Report.events, h]
    simp [report]
  · rw [failures, List.flatMap_singleton]
  · rw [errors, List.flatMap_singleton]
    simp [Report.aborted?, h]

/-- A test that is counted writes its report, and then the abort. -/
theorem tallies_counted (h : (report setup file url name p).counted? = some e) :
    Tallies url p [report setup file url name p]
      (counted name e (one setup file url name p).2) := by
  obtain ⟨-, failures, errors⟩ := notes_body setup file url name p
  have last : (counted name e (one setup file url name p).2).written =
      (one setup file url name p).2.written ++ [.aborted name e] := List.map_append
  refine ⟨?_, ?_, ?_⟩
  · rw [last, written_one, List.flatMap_singleton, Report.events, h]
    simp [report]
  · rw [List.flatMap_singleton]
    exact failures
  · have more : (counted name e (one setup file url name p).2).errors =
        (one setup file url name p).2.errors + 1 := rfl
    rw [more, errors, List.flatMap_singleton]
    simp [Report.aborted?, h]

theorem counted?_of_ok (h : (one setup file url name p).1 = .ok ()) :
    (report setup file url name p).counted? = none ∧
      (report setup file url name p).fatal? = none := by
  rw [Report.counted?, Report.fatal?, report, h]
  exact ⟨rfl, rfl⟩

theorem counted?_of_fatal (h : (one setup file url name p).1 = .error e)
    (hf : e.isFatal = true) :
    (report setup file url name p).counted? = none ∧
      (report setup file url name p).fatal? = some e := by
  rw [Report.counted?, Report.fatal?, report, h]
  exact ⟨if_pos hf, if_pos hf⟩

theorem counted?_of_counted (h : (one setup file url name p).1 = .error e)
    (hf : e.isFatal = false) :
    (report setup file url name p).counted? = some e ∧
      (report setup file url name p).fatal? = none := by
  rw [Report.counted?, Report.fatal?, report, h]
  exact ⟨if_neg (by simp [hf]), if_neg (by simp [hf])⟩

end

/-- **The reports of a run are written and summed up**, whether it comes to its end or not. -/
theorem tallies_all (names : List String) (p : Performance σ) :
    Tallies url p (reports setup file url names p) (all setup file url names p).2 := by
  unfold reports
  induction names, p using all_induction setup file url with
  | nil p => exact .refl p
  | ok name names p hr ih =>
    rw [all_of_ok setup file url names hr, stages_of_ok setup file url names hr]
    exact (tallies_one (counted?_of_ok hr).1).trans ih
  | fatal name names p e hr hf =>
    rw [all_of_fatal setup file url names hr hf, stages_of_fatal setup file url names hr hf]
    exact tallies_one (counted?_of_fatal hr hf).1
  | goesOn name names p e hr hf ih =>
    rw [all_of_counted setup file url names hr hf, stages_of_counted setup file url names hr hf]
    exact (tallies_counted (counted?_of_counted hr hf).1).trans ih

/-- What the reports of selected tests say of the end of a run.  If it comes to its end, all
tests have been performed; and otherwise the last one that was performed has ended it. -/
def Ends (names : List String) (reports : List Report) :
    Except TestError (List AbortedTest) → Prop
  | .ok aborted =>
    reports.map Report.test = names ∧ (∀ x ∈ reports, x.fatal? = none) ∧
      aborted = reports.filterMap Report.aborted?
  | .error e =>
    ∃ before last, reports = before ++ [last] ∧ last.fatal? = some e ∧
      ∀ x ∈ before, x.fatal? = none

/-- A report before the others. -/
theorem Ends.cons {names : List String} {reports : List Report}
    {result : Except TestError (List AbortedTest)} {x : Report} (h : Ends names reports result)
    (hx : x.fatal? = none) :
    Ends (x.test :: names) (x :: reports) (result.map (x.aborted?.toList ++ ·)) := by
  have both {xs : List Report} (hxs : ∀ y ∈ xs, y.fatal? = none) :
      ∀ y ∈ x :: xs, y.fatal? = none := by
    intro y hy
    rcases List.mem_cons.1 hy with rfl | hy
    · exact hx
    · exact hxs y hy
  rcases result with e | aborted
  · obtain ⟨before, last, rfl, hlast, hbefore⟩ := h
    exact ⟨x :: before, last, rfl, hlast, both hbefore⟩
  · obtain ⟨tests, quiet, rfl⟩ := h
    refine ⟨congrArg (x.test :: ·) tests, both quiet, ?_⟩
    cases ha : x.aborted? <;> simp [ha]

/-- **The reports say how a run ends.** -/
theorem all_ends (names : List String) (p : Performance σ) :
    Ends names (reports setup file url names p) (all setup file url names p).1 := by
  unfold reports
  induction names, p using all_induction setup file url with
  | nil p => exact ⟨rfl, by simp [stages], rfl⟩
  | ok name names p hr ih =>
    obtain ⟨uncounted, notFatal⟩ := counted?_of_ok hr
    have first := Ends.cons ih notFatal
    rw [Report.aborted?, uncounted] at first
    rw [all_of_ok setup file url names hr, stages_of_ok setup file url names hr]
    rcases hall : (all setup file url names (one setup file url name p).2).1 with e | aborted
    · rw [hall] at first
      exact first
    · rw [hall] at first
      exact first
  | fatal name names p e hr hf =>
    rw [all_of_fatal setup file url names hr hf, stages_of_fatal setup file url names hr hf]
    exact ⟨[], _, rfl, (counted?_of_fatal hr hf).2, by simp⟩
  | goesOn name names p e hr hf ih =>
    obtain ⟨isCounted, notFatal⟩ := counted?_of_counted hr hf
    have first := Ends.cons ih notFatal
    rw [Report.aborted?, isCounted] at first
    rw [all_of_counted setup file url names hr hf, stages_of_counted setup file url names hr hf]
    exact first

/-! ## 3. Reports and chronicles -/

/-- What is said in the body of a report is what the chronicle of the test says. -/
theorem said_body (name : String) (p : Performance σ) :
    (report setup file url name p).body.filter Event.isSaid =
      (chronicle setup file url name p).said := by
  have before : (begun name p).dialogue.journal.said = p.written.filter Event.isSaid := by
    have noted : (begun name p).dialogue.journal =
        p.dialogue.journal ++ [⟨p.dialogue.channel.now, .started name⟩] := rfl
    rw [noted, Journal.said_append]
    exact List.append_nil _
  have said : (one setup file url name p).2.written.filter Event.isSaid =
      p.written.filter Event.isSaid ++ (chronicle setup file url name p).said := by
    rw [← before]
    exact (one_course setup file url name p).said
  rw [written_one, List.filter_append] at said
  exact List.append_cancel_left said

/-- What a report says of its test, which begins with `p`. -/
structure Faithful (p : Performance σ) (x : Report) : Prop where
  ended : x.ended = (one setup file url x.test p).1
  /-- The body does not mark the course of the run. -/
  quiet : ∀ e ∈ x.body, e.isMilestone = false
  /-- The commands of the body are those of the chronicle. -/
  sent : x.body.filterMap Event.sent? = (chronicle setup file url x.test p).sent.map Prod.fst
  /-- If the page cannot be opened, that is the end of the test. -/
  refused : ∀ e, (openAnswer setup url p).result = .error e →
    x.body = [] ∧ x.ended = .error (.browser e)
  /-- If a command is refused, it is the last one, and the test ends so. -/
  stopped : ∀ (k : Nat) (command : Command) (e : BrowserError),
    (chronicle setup file url x.test p).sent[k]? = some (command, .error e) →
      (chronicle setup file url x.test p).sent.length = k + 1 ∧ x.ended = .error (.browser e)
  /-- If a wait for a request fails, no other round follows, and the test ends so. -/
  lapsed : ∀ (k : Nat) (r : Round) (e : TestError),
    (chronicle setup file url x.test p).rounds[k]? = some r → r.outcome = .error e →
      (chronicle setup file url x.test p).rounds.length = k + 1 ∧ x.ended = .error e

theorem report_faithful (name : String) (p : Performance σ) :
    Faithful setup file url p (report setup file url name p) where
  ended := rfl
  quiet := (notes_body setup file url name p).1
  sent := by
    have commands (events : List Event) :
        (events.filter Event.isSaid).filterMap Event.sent? = events.filterMap Event.sent? := by
      rw [List.filterMap_filter]
      refine congrArg (events.filterMap ·) (funext fun e => ?_)
      cases e <;> rfl
    rw [← commands, said_body]
    exact Chronicle.sent?_said _
  refused := by
    intro e he
    have ends : one setup file url name p = (.error (.browser e), opened setup url name p) := by
      rw [one_eq_enact, he]
    rw [report, ends]
    exact ⟨List.drop_length, rfl⟩
  stopped := by
    intro k command e hs
    exact (one_tells setup file url name p).failed_send hs
  lapsed := by
    intro k r e hk ho
    exact (one_tells setup file url name p).failed_wait hk ho

/-! ## 4. The run -/

/-- **The accounts of a run.**  The selected tests are those that are asked for, or all tests of the
file if none is.  The journal has the reports of the tests that were performed, one
behind the other, each faithful to its test; they are the first of the selected tests, in order,
and none is left out.

If the run comes to its end, every selected test has its report and none of them ended the run;
the summary counts the tests, its failures are those that are written down and so are its aborted
tests, and it counts just these as errors.  Otherwise the run ends as the last test does, which is
the first one to end with a fatal error, and nothing is written behind its report. -/
theorem run_is_accounted_for (tests : List String) (d : Dialogue) (w : σ) :
    let names := if tests = [] then file.testNames else tests
    let start := announced url names ⟨d, w, 0, []⟩
    let ended := run setup file url tests ⟨d, w, 0, []⟩
    let reports := reports setup file url names start
    let events := reports.flatMap (Report.events url)
    ended.2.written = start.written ++ events ∧
    (∀ (k : Nat) (x : Report), reports[k]? = some x →
      names[k]? = some x.test ∧
        Faithful setup file url (all setup file url (names.take k) start).2 x) ∧
    match ended.1 with
    | .ok s =>
      reports.map Report.test = names ∧ (∀ x ∈ reports, x.fatal? = none) ∧
        s.testsRun = reports.length ∧
        s.failures = events.filterMap Event.failure? ∧
        s.aborted = events.filterMap Event.aborted? ∧
        s.aborted = reports.filterMap Report.aborted? ∧
        s.errors = s.failures.length + s.aborted.length
    | .error e =>
      ∃ before last, reports = before ++ [last] ∧ last.fatal? = some e ∧
        ∀ x ∈ before, x.fatal? = none := by
  intro names start ended reports events
  have tallies : Tallies url start reports (all setup file url names start).2 :=
    tallies_all setup file url names start
  have ends : Ends names reports (all setup file url names start).1 :=
    all_ends setup file url names start
  have faithful (k : Nat) (x : Report) (hk : reports[k]? = some x) :
      names[k]? = some x.test ∧
        Faithful setup file url (all setup file url (names.take k) start).2 x := by
    have mapped : ((stages setup file url names start)[k]?).map
        (fun s => report setup file url s.1 s.2) = some x := by
      rw [← List.getElem?_map]
      exact hk
    obtain ⟨⟨name, q⟩, hs, rfl⟩ := Option.map_eq_some_iff.1 mapped
    obtain ⟨hn, rfl⟩ := stage_begins setup file url names start hs
    exact ⟨hn, report_faithful setup file url name _⟩
  have quiet : ∀ x ∈ reports, ∀ e ∈ x.body, e.isMilestone = false := by
    intro x hx
    obtain ⟨k, hk⟩ := List.getElem?_of_mem hx
    exact (faithful k x hk).2.quiet
  rcases hall : all setup file url names start with ⟨e | aborted, q⟩
  · rw [hall] at tallies ends
    have hrun : ended = (.error e, q) := run_of_error hall
    rw [hrun]
    exact ⟨tallies.written, faithful, ends⟩
  · rw [hall] at tallies ends
    obtain ⟨performed, notFatal, rfl⟩ := ends
    have hrun : ended = (.ok ⟨names.length, q.errors, q.failures, _⟩, q) := run_of_ok hall
    have failures : q.failures = events.filterMap Event.failure? := by
      rw [tallies.failures, ← Report.failure?_events url]
      rfl
    have errors : q.errors = q.failures.length + (reports.filterMap Report.aborted?).length := by
      rw [failures, Report.failure?_events, tallies.errors]
      exact congrArg (· + _) (Nat.zero_add _)
    have count : names.length = reports.length := by
      rw [← performed, List.length_map]
    rw [hrun]
    exact ⟨tallies.written, faithful, performed, notFatal, count, failures,
      (Report.aborted?_events url quiet).symm, rfl, errors⟩

end Run
end Playtest
