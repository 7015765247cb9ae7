/-
# When the browser is lost

A browser can go away in the middle of a run.  From then on every call of it fails, and perhaps no
event of the page comes any more.

The driver does not find out.  A page that cannot be opened is a navigation that failed, and a
command that cannot be handed over is a script that failed, whatever the reason is; and neither
leaves the browser unusable as far as a run is concerned (`TestError.isFatal`).  So the test in
which the loss is met is aborted, and so is every test behind it, one after the other
(`lost_browser_is_not_noticed`).  Only a closed bridge ends a run of such a page
(`closed_of_all`), and a test whose page is not opened never waits at its bridge.
-/
import Playtest.Browser.Page
import Playtest.Proofs.Run.Accounting

namespace Playtest

/-! ## 1. Browsers that are gone -/

namespace Endpoint

variable {σ : Type}

/-- The browser behind some calls. -/
def after (browser : Endpoint σ) (calls : List BrowserCall) (s : σ) : σ :=
  calls.foldl (fun s call => (browser.call call s).2) s

/-- The browser is gone: whatever it is still asked, every call fails. -/
def IsGone (browser : Endpoint σ) (s : σ) : Prop :=
  ∀ calls call, ∃ reason, (browser.call call (browser.after calls s)).1.result = .error reason

variable {browser : Endpoint σ} {s : σ}

theorem IsGone.fails (h : browser.IsGone s) (call : BrowserCall) :
    ∃ reason, (browser.call call s).1.result = .error reason := h [] call

theorem IsGone.stays (h : browser.IsGone s) (call : BrowserCall) :
    browser.IsGone (browser.call call s).2 := fun calls => h (call :: calls)

/-! ## 2. Calls that fail -/

/-- Loading an address fails as a navigation, or because the document is never complete. -/
theorem load_failed {config : WaitConfig} {url : String} {e : BrowserError}
    (h : (browser.load config url s).1.result = .error e) :
    (∃ reason, e = .navigationFailed url reason) ∨ e = config.lapsed "document ready" := by
  cases navigated : (browser.call (.navigate url) s).1.result with
  | error reason =>
    simp only [load, navigated] at h
    cases h
    exact .inl ⟨reason, rfl⟩
  | ok given =>
    simp only [load, navigated, WaitConfig.await] at h
    split at h
    · cases h
    · cases h
      exact .inr rfl

/-- A command fails as a script. -/
theorem command_failed {command : Command} {e : BrowserError}
    (h : (browser.command command s).1.result = .error e) :
    ∃ reason, e = .scriptExecutionFailed reason := by
  unfold Endpoint.command at h
  dsimp only at h
  split at h
  · cases h
  all_goals
    cases h
    exact ⟨_, rfl⟩

/-- A page of a browser that is gone cannot be opened. -/
theorem IsGone.load (h : browser.IsGone s) (config : WaitConfig) (url : String) :
    ∃ reason, (browser.load config url s).1.result = .error (.navigationFailed url reason) ∧
      browser.IsGone (browser.load config url s).2 := by
  obtain ⟨reason, failed⟩ := h.fails (.navigate url)
  refine ⟨reason, ?_⟩
  simp only [Endpoint.load, failed]
  exact ⟨trivial, h.stays _⟩

/-- Nor can it be given a command. -/
theorem IsGone.command (h : browser.IsGone s) (command : Command) :
    ∃ reason, (browser.command command s).1.result = .error (.scriptExecutionFailed reason) := by
  obtain ⟨reason, failed⟩ := h.fails (.evaluate command.script)
  refine ⟨reason, ?_⟩
  simp only [Endpoint.command, failed]

end Endpoint

/-! ## 3. Errors that end a run -/

/-- No failure of a call ends a run. -/
structure World.IsMild {σ : Type} (world : World σ) : Prop where
  opening : ∀ url s e, (world.openPage url s).1.result = .error e →
    (TestError.browser e).isFatal = false
  sending : ∀ command s e, (world.send command s).1.result = .error e →
    (TestError.browser e).isFatal = false

/-- The world of a page in a browser is mild, whatever the browser does. -/
theorem Endpoint.isMild_world {σ : Type} (browser : Endpoint σ) (config : WaitConfig)
    (save : String → String → σ → Except IoError Unit × σ) :
    (browser.world config save).IsMild where
  opening url s e h := by
    rcases load_failed h with ⟨reason, rfl⟩ | rfl <;> rfl
  sending command s e h := by
    obtain ⟨reason, rfl⟩ := command_failed h
    rfl

/-- The error ends a run only if the bridge is closed. -/
def TestError.IsMild (e : TestError) : Prop := e.isFatal = true → e = .bridgeClosed

namespace Performance

variable {σ : Type} {setup : Setup σ} {p : Performance σ} {e : TestError}

theorem mild_nextRequest {d : Dialogue} {limit : Duration}
    (h : (d.nextRequest limit).1 = .error e) : e.IsMild := by
  rw [Dialogue.nextRequest_eq] at h
  unfold Dialogue.requestOutcome at h
  split at h <;> cases h
  · exact fun _ => rfl
  · exact fun fatal => nomatch fatal

theorem mild_finalOutput {d : Dialogue} {limit : Duration}
    (h : (d.finalOutput limit).1 = .error e) : e.IsMild := by
  rw [Dialogue.finalOutput_eq] at h
  unfold Dialogue.outputOutcome at h
  split at h <;> cases h
  · exact fun _ => rfl
  · exact fun fatal => nomatch fatal

section
variable (mild : setup.world.IsMild)
include mild

theorem mild_send {command : Command} {b : BrowserError}
    (h : (p.send setup command).1 = .error b) : (TestError.browser b).IsMild := fun fatal =>
  absurd fatal (by simp [mild.sending command p.world b h])

theorem mild_giveInput {input : Input} {held : List Held}
    (h : (p.giveInput setup input held).1 = .error e) : e.IsMild := by
  rcases ho : (p.dialogue.nextRequest setup.limit).1 with e' | requested
  · rw [giveInput_of_error input held ho] at h
    cases h
    exact mild_nextRequest ho
  · rw [giveInput_of_ok input held ho] at h
    split at h
    · cases h
      exact fun fatal => nomatch fatal
    · dsimp only at h
      cases sent : (((p.asked setup).flush setup held).send setup (Command.ofInput input)).1 with
      | error b =>
        rw [sent] at h
        cases h
        exact mild_send mild sent
      | ok u =>
        rw [sent] at h
        cases h

theorem mild_recite {items : List Expansion.Item} {held : List Held}
    (h : (p.recite setup items held).1 = .error e) : e.IsMild := by
  induction items generalizing held p with
  | nil => cases h
  | cons item items ih =>
    cases item with
    | check owner c => exact ih h
    | passed x => exact ih h
    | input i =>
      rw [recite] at h
      rcases hg : p.giveInput setup i held with ⟨e' | u, q⟩
      · rw [hg] at h
        cases h
        exact mild_giveInput mild (congrArg Prod.fst hg)
      · rw [hg] at h
        exact ih h

theorem mild_enact {x : Expansion} {held : List Held}
    (h : (p.enact setup x held).1 = .error e) : e.IsMild := by
  rw [enact] at h
  rcases hr : p.recite setup x.items held with ⟨e' | left, q⟩
  · rw [hr] at h
    cases h
    exact mild_recite mild (congrArg Prod.fst hr)
  · rw [hr] at h
    dsimp only at h
    unfold conclude at h
    split at h <;> cases h
    · intro fatal
      cases fatal
    · intro fatal
      cases fatal

omit mild in
theorem mild_finish {held : List Held} (h : (p.finish setup held).1 = .error e) : e.IsMild := by
  rw [finish_fst, finale] at h
  split at h
  · cases h
  · dsimp only at h
    split at h
    · split at h
      · next ho =>
        cases h
        exact mild_finalOutput ho
      · cases h
    · cases h

end

end Performance

namespace Run

variable {σ : Type} {setup : Setup σ} {file : TestFile} {url : String} {p : Performance σ}

/-- A test on a mild world ends a run only if the bridge is closed. -/
theorem mild_one (mild : setup.world.IsMild) {name : String} {e : TestError}
    (h : (one setup file url name p).1 = .error e) : e.IsMild := by
  rw [one_eq_enact] at h
  rcases ho : (openAnswer setup url p).result with b | u
  · rw [ho] at h
    cases h
    exact fun fatal => absurd fatal (by simp [mild.opening url p.world b ho])
  · rw [ho] at h
    dsimp only at h
    rcases he : (opened setup url name p).enact setup (file.expansion name) [] with ⟨e' | left, q⟩
    · rw [he] at h
      cases h
      exact Performance.mild_enact mild (congrArg Prod.fst he)
    · rw [he] at h
      exact Performance.mild_finish h

/-- **On a mild world only a closed bridge ends a run.** -/
theorem closed_of_all (mild : setup.world.IsMild) {names : List String} {e : TestError}
    (h : (all setup file url names p).1 = .error e) : e = .bridgeClosed := by
  induction names, p using all_induction setup file url with
  | nil p => cases h
  | ok name names p hr ih =>
    rw [all_of_ok setup file url names hr] at h
    exact ih h
  | fatal name names p e' hr hf =>
    rw [all_of_fatal setup file url names hr hf] at h
    cases h
    exact mild_one mild hr hf
  | goesOn name names p e' hr hf ih =>
    rw [all_of_counted setup file url names hr hf] at h
    refine ih ?_
    revert h
    cases (all setup file url names (counted name e' (one setup file url name p).2)).1 with
    | error e'' => exact fun h => h
    | ok aborted => exact fun h => nomatch h

/-! ## 4. Tests without a browser -/

/-- What is written down of a test whose page cannot be opened. -/
def missed (url : String) (test : String × String) : List Event :=
  [.started test.1, .opened url, .aborted test.1 (.browser (.navigationFailed url test.2))]

/-- A test whose page cannot be opened, as an aborted one. -/
def missedTest (url : String) (test : String × String) : AbortedTest :=
  ⟨test.1, (BrowserError.navigationFailed url test.2).message⟩

section
variable {browser : Endpoint σ} {config : WaitConfig}
variable (isPage : setup.world.openPage = browser.load config)
include isPage

/-- A test without a browser does not get beyond the opening of its page. -/
theorem one_of_gone (file : TestFile) (url name : String) (gone : browser.IsGone p.world) :
    ∃ reason,
      one setup file url name p =
        (.error (.browser (.navigationFailed url reason)), opened setup url name p) ∧
      browser.IsGone (opened setup url name p).world := by
  obtain ⟨reason, failed, still⟩ := gone.load config url
  have answer : (openAnswer setup url p).result = .error (.navigationFailed url reason) := by
    rw [openAnswer, isPage, failed]
  refine ⟨reason, ?_, ?_⟩
  · rw [one_eq_enact, answer]
  · rw [← isPage] at still
    exact still

omit isPage in
theorem written_counted (name : String) (e : TestError) :
    (counted name e p).written = p.written ++ [.aborted name e] := by
  simp [counted, Performance.written, Performance.record, Dialogue.record]

/-- **Without a browser every test is aborted, and the run goes on.** -/
theorem all_of_gone (file : TestFile) (url : String) :
    ∀ (names : List String) (p : Performance σ), browser.IsGone p.world →
      ∃ reasons : List String, reasons.length = names.length ∧
        (all setup file url names p).1 = .ok ((names.zip reasons).map (missedTest url)) ∧
        (all setup file url names p).2.errors = p.errors + names.length ∧
        (all setup file url names p).2.failures = p.failures ∧
        (all setup file url names p).2.written =
          p.written ++ (names.zip reasons).flatMap (missed url) := by
  intro names
  induction names with
  | nil => exact fun p _ => ⟨[], rfl, rfl, rfl, rfl, (List.append_nil _).symm⟩
  | cons name names ih =>
    intro p gone
    obtain ⟨reason, tested, still⟩ := one_of_gone isPage file url name gone
    obtain ⟨reasons, length, aborted, errors, failures, written⟩ :=
      ih (counted name (.browser (.navigationFailed url reason)) (opened setup url name p)) still
    have goesOn := all_of_counted setup file url names (congrArg Prod.fst tested) rfl
    rw [tested] at goesOn
    refine ⟨reason :: reasons, congrArg Nat.succ length, ?_, ?_, ?_, ?_⟩
    · rw [goesOn, aborted]
      rfl
    · rw [goesOn, errors, List.length_cons]
      exact Nat.succ_add_eq_add_succ p.errors names.length
    · rw [goesOn, failures]
      rfl
    · rw [goesOn, written, written_counted, written_opened]
      simp [missed]

end

/-! ## 5. Runs -/

/-- **A lost browser is not noticed.**  For a run of any page in a browser:

* only a closed bridge ends it early;
* when the browser is gone, a page cannot be opened and a command not be handed over, with errors
  that do not end a run;
* if the browser is gone behind the first `k` tests, the other ones are all started and aborted,
  each at the opening of its page, and the run comes to its end. -/
theorem lost_browser_is_not_noticed (browser : Endpoint σ) (config : WaitConfig)
    (save : String → String → σ → Except IoError Unit × σ) (limit : Duration)
    (capture? : Option Capture) (file : TestFile) (url : String) (tests : List String)
    (p : Performance σ) :
    let setup : Setup σ := { world := browser.world config save, limit, capture? }
    let names := selection file tests
    let finished := run setup file url tests p
    (∀ e, finished.1 = .error e → e = .bridgeClosed) ∧
    (∀ q : Performance σ, browser.IsGone q.world →
      (∃ e, (q.openPage setup url).1 = .error e ∧ (TestError.browser e).isFatal = false) ∧
      ∀ command, ∃ e, (q.send setup command).1 = .error e ∧
        (TestError.browser e).isFatal = false) ∧
    ∀ k aborted q, all setup file url (names.take k) (announced url names p) = (.ok aborted, q) →
      browser.IsGone q.world →
      ∃ reasons : List String, reasons.length = (names.drop k).length ∧
        finished.1 = .ok
          { testsRun := names.length
            errors := q.errors + (names.drop k).length
            failures := q.failures
            aborted := aborted ++ ((names.drop k).zip reasons).map (missedTest url) } ∧
        finished.2.written =
          q.written ++ ((names.drop k).zip reasons).flatMap (missed url) := by
  intro setup names finished
  have mild : setup.world.IsMild := browser.isMild_world config save
  refine ⟨?_, ?_, ?_⟩
  · intro e he
    rcases ha : all setup file url names (announced url names p) with ⟨e' | aborted, q⟩
    · rw [show finished = _ from run_of_error ha] at he
      cases he
      exact closed_of_all mild (congrArg Prod.fst ha)
    · rw [show finished = _ from run_of_ok ha] at he
      cases he
  · intro q gone
    constructor
    · obtain ⟨reason, failed, -⟩ := gone.load config url
      exact ⟨_, failed, rfl⟩
    · intro command
      obtain ⟨reason, failed⟩ := gone.command command
      exact ⟨_, failed, rfl⟩
  · intro k aborted q before gone
    have isPage : setup.world.openPage = browser.load config := rfl
    obtain ⟨reasons, length, rest, errors, failures, written⟩ :=
      all_of_gone isPage file url (names.drop k) q gone
    have whole := all_append setup file url (names.take k) (names.drop k) (announced url names p)
    rw [List.take_append_drop, before] at whole
    dsimp only at whole
    rw [rest] at whole
    have done : finished = _ := run_of_ok whole
    refine ⟨reasons, length, ?_, ?_⟩
    · rw [done, errors, failures]
    · rw [done, written]

/-! ## 6. A browser that crashes -/

/-- Three tests that look for the same greeting. -/
def threeGreetings : TestFile :=
  ⟨[.testStart "one", .directive (.check ⟨"Hello", false⟩),
    .testStart "two", .directive (.check ⟨"Hello", false⟩),
    .testStart "three", .directive (.check ⟨"Hello", false⟩)]⟩

/-- A browser that counts its calls: it loads a page that greets, says that the page is complete,
and is gone. -/
def crashing : Endpoint Nat where
  call _ n :=
    let reply : Reply :=
      match n with
      | 0 => { events := [.bound dataBinding "\x7b\"type\":\"buffertext\",\"text\":\"Hello\"\x7d"] }
      | 1 => { result := .ok (.value (.string "complete")) }
      | _ => { lostIn? := some 0, result := .error "send failed because receiver is gone" }
    (reply, n + 1)

/-- Behind its second call the browser is gone. -/
theorem isGone_crashing {n : Nat} (h : 2 ≤ n) : crashing.IsGone n := by
  intro calls
  induction calls generalizing n with
  | nil =>
    intro call
    obtain ⟨m, rfl⟩ := Nat.exists_eq_add_of_le' h
    exact ⟨_, rfl⟩
  | cons first calls ih => exact ih (Nat.le_succ_of_le h)

/-- A run of the page of the browser, which writes no files. -/
def crashingSetup : Setup Nat where
  world := crashing.world {} fun _ _ n => (.ok (), n)

/-- **A run outlives its browser.**  The browser is gone when the first test has passed.  The
others are started all the same, and count as aborted. -/
theorem run_outlives_browser :
    crashing.IsGone (all crashingSetup threeGreetings "" ["one"]
        (announced "" ["one", "two", "three"] ⟨{}, 0, 0, []⟩)).2.world ∧
      (run crashingSetup threeGreetings "" [] ⟨{}, 0, 0, []⟩).1 =
        .ok ⟨3, 2, [],
          [⟨"two", "navigation to '' failed: send failed because receiver is gone"⟩,
            ⟨"three", "navigation to '' failed: send failed because receiver is gone"⟩]⟩ := by
  have calls : (all crashingSetup threeGreetings "" ["one"]
      (announced "" ["one", "two", "three"] ⟨{}, 0, 0, []⟩)).2.world = 2 := by
    with_unfolding_all rfl
  constructor
  · rw [calls]
    exact isGone_crashing (Nat.le_refl 2)
  · with_unfolding_all rfl

end Run
end Playtest
