/-
# The exit status

The program ends with status zero if it answers a question about itself, if it lists tests, or if
it makes a run that passes and that nobody interrupts.  In all other cases it ends with another
status: a command line that is refused, a failure on the way to the run, a run that fails or that
an error ends.

The program gets to a run when the test file is read, there are settings, all has its place, and
the browser shows a blank page (`Session.Reaches`).  Each stage on the way passes on what the next
one gives, and so the status is that of the run itself (`Output.exits_zero_iff`).  What a run that
passes is worth, and what is made of it, stands in one place in `Run.passed_iff_upheld`.
-/
import Playtest.Program.Output
import Playtest.Proofs.Run.Verdict

namespace Playtest

variable {σ : Type}

/-! ## 1. The run of a session -/

namespace Session

/-- The exit status for the result of a session. -/
def status : Except Failure Ending → Nat
  | .ok ending => ending.exitCode
  | .error _ => 1

/-- What a session with these settings runs on. -/
def setup (host : Host σ) (settings : Settings) : Setup σ where
  world := host.browser.world {} host.save
  limit := settings.wait
  capture? := capture? settings

/-- The run passes, and the user does not interrupt it. -/
def Passes (host : Host σ) (settings : Settings) (file : TestFile) (url : String) (s : σ) : Prop :=
  let ended := Run.run (setup host settings) file url settings.tests { dialogue := {}, world := s }
  host.interrupted ended.2.world = false ∧
    ∃ summary, ended.1 = .ok summary ∧ summary.passed = true

section

variable {host : Host σ} {settings : Settings} {file : TestFile} {url : String} {s : σ}
  {q : Performance σ} (display : Display)

theorem perform_of_interrupted {result : Except TestError RunSummary}
    (hr : Run.run (setup host settings) file url settings.tests { dialogue := {}, world := s } =
      (result, q)) (hi : host.interrupted q.world = true) :
    (perform host display settings file url s).result = .ok .interrupted := by
  rw [perform, ← setup, hr]
  exact congrArg Outcome.result (if_pos hi)

theorem perform_of_error {e : TestError}
    (hr : Run.run (setup host settings) file url settings.tests { dialogue := {}, world := s } =
      (.error e, q)) (hi : ¬host.interrupted q.world = true) :
    (perform host display settings file url s).result = .error (.run e) := by
  rw [perform, ← setup, hr]
  exact congrArg Outcome.result (if_neg hi)

theorem perform_of_ok {summary : RunSummary}
    (hr : Run.run (setup host settings) file url settings.tests { dialogue := {}, world := s } =
      (.ok summary, q)) (hi : ¬host.interrupted q.world = true) :
    (perform host display settings file url s).result =
      .ok (.finished summary (Duration.ofMillis q.dialogue.channel.now)) := by
  rw [perform, ← setup, hr]
  exact congrArg Outcome.result (if_neg hi)

end

section

variable (host : Host σ) (disk : Disk) (display : Display) (settings : Settings) (file : TestFile)
  (url : String) (s : σ)

/-- **The status is zero if and only if the run passes.** -/
theorem perform_exits_zero_iff :
    status (perform host display settings file url s).result = 0 ↔
      Passes host settings file url s := by
  unfold Passes
  rcases hr : Run.run (setup host settings) file url settings.tests { dialogue := {}, world := s }
    with ⟨result, q⟩
  by_cases hi : host.interrupted q.world = true
  · rw [perform_of_interrupted display hr hi]
    simp [hi, status, Ending.exitCode]
  · rcases result with e | summary
    · rw [perform_of_error display hr hi]
      simp [hi, status]
    · rw [perform_of_ok display hr hi]
      simp [hi, status, Ending.exitCode]

theorem drive_exits_zero_iff :
    status (drive host disk display settings file url s).result = 0 ↔
      ∃ launched ready, host.launch disk (launchConfig settings) s = (.ok (), launched) ∧
        host.openPage launched = (.ok (), ready) ∧ Passes host settings file url ready := by
  unfold drive
  dsimp only
  rcases host.launch disk (launchConfig settings) s with ⟨fault | u, launched⟩
  · simp [status]
  · rcases hopen : host.openPage launched with ⟨e | u, ready⟩
    · simp [status, hopen]
    · simp [hopen, perform_exits_zero_iff]

end

/-! ## 2. The way to the run -/

section

variable (host : Host σ) (disk : Disk) (vars : Variables) (display : Display) (args : Arguments)
  (s : σ)

/-- A session gets to its run: with these settings, this test file, the page at this address, and
with everything in this state. -/
inductive Reaches [Url.Idna] : Settings → TestFile → String → σ → Prop
  | intro {source : String} {settings : Settings} {places : Places} {port : Nat}
      {page : PageAddress} {served launched ready : σ}
      (read : disk.read args.testFile = .ok source)
      (loaded : Settings.load disk vars args = .ok settings)
      (placed : Session.places disk.cwd args settings (TestFile.parse source) = .ok places)
      (serves : if places.areServed then host.bind settings.port s = (.ok port, served)
        else port = settings.port ∧ served = s)
      (addressed : places.page (Location.serverUrl port) disk.cwd (rootOf disk.cwd settings) =
        .ok page)
      (launches : host.launch disk (launchConfig settings) served = (.ok (), launched))
      (opens : host.openPage launched = (.ok (), ready)) :
      Reaches settings (TestFile.parse source) page.url.href ready

/-- From a port on, the rest of the way. -/
theorem driveOn_exits_zero_iff [Url.Idna] (settings : Settings) (file : TestFile) (places : Places)
    (port : Nat) :
    status (driveOn host disk display settings file places port s).result = 0 ↔
      ∃ page launched ready,
        places.page (Location.serverUrl port) disk.cwd (rootOf disk.cwd settings) = .ok page ∧
        host.launch disk (launchConfig settings) s = (.ok (), launched) ∧
        host.openPage launched = (.ok (), ready) ∧
        Passes host settings file page.url.href ready := by
  unfold driveOn
  rcases places.page (Location.serverUrl port) disk.cwd (rootOf disk.cwd settings) with e | page
  · simp [status]
  · simp [drive_exits_zero_iff]

theorem run_exits_zero_iff [Url.Idna] (settings : Settings) (file : TestFile) :
    status (run host disk display args settings file s).result = 0 ↔
      ∃ places port served page launched ready,
        Session.places disk.cwd args settings file = .ok places ∧
        (if places.areServed then host.bind settings.port s = (.ok port, served)
          else port = settings.port ∧ served = s) ∧
        places.page (Location.serverUrl port) disk.cwd (rootOf disk.cwd settings) = .ok page ∧
        host.launch disk (launchConfig settings) served = (.ok (), launched) ∧
        host.openPage launched = (.ok (), ready) ∧
        Passes host settings file page.url.href ready := by
  unfold run
  rcases Session.places disk.cwd args settings file with e | places
  · simp [status]
  · dsimp only
    by_cases areServed : places.areServed = true
    · rw [if_pos areServed]
      unfold serve
      rcases hb : host.bind settings.port s with ⟨e | port, served⟩
      · simp [status, areServed]
      · dsimp only [Outcome.after]
        rw [driveOn_exits_zero_iff]
        constructor
        · rintro ⟨page, launched, ready, rest⟩
          exact ⟨places, port, served, page, launched, ready, rfl, by rw [if_pos areServed], rest⟩
        · rintro ⟨_, _, _, page, launched, ready, there, serves, rest⟩
          cases there
          rw [if_pos areServed] at serves
          cases serves
          exact ⟨page, launched, ready, rest⟩
    · rw [if_neg areServed, driveOn_exits_zero_iff]
      constructor
      · rintro ⟨page, launched, ready, rest⟩
        exact ⟨places, settings.port, s, page, launched, ready, rfl,
          by rw [if_neg areServed]; exact ⟨rfl, rfl⟩, rest⟩
      · rintro ⟨_, _, _, page, launched, ready, there, serves, rest⟩
        cases there
        rw [if_neg areServed] at serves
        obtain ⟨rfl, rfl⟩ := serves
        exact ⟨page, launched, ready, rest⟩

/-- **A session ends well if it only lists tests, or if it gets to a run that passes.** -/
theorem execute_exits_zero_iff [Url.Idna] :
    status (execute host disk vars display args s).result = 0 ↔
      (args.list = true ∧ ∃ source, disk.read args.testFile = .ok source) ∨
      (args.list = false ∧ ∃ settings file url ready,
        Reaches host disk vars args s settings file url ready ∧
          Passes host settings file url ready) := by
  unfold execute
  rcases read : disk.read args.testFile with e | source
  · have lost : ¬∃ settings file url ready, Reaches host disk vars args s settings file url ready ∧
        Passes host settings file url ready := by
      rintro ⟨_, _, _, _, ⟨there, -⟩, -⟩
      cases read.symm.trans there
    simp [status, lost]
  · dsimp only [Outcome.after]
    cases listed : args.list with
    | true => simp [status, Ending.exitCode]
    | false =>
      rw [if_neg Bool.false_ne_true]
      rcases loads : Settings.load disk vars args with e | settings
      · have lost : ¬∃ settings file url ready,
            Reaches host disk vars args s settings file url ready ∧
              Passes host settings file url ready := by
          rintro ⟨_, _, _, _, ⟨-, loaded⟩, -⟩
          cases loads.symm.trans loaded
        simp [status, lost]
      · dsimp only
        rw [run_exits_zero_iff]
        constructor
        · rintro ⟨places, port, served, page, launched, ready, placed, serves, addressed, launches,
            opens, passes⟩
          exact .inr ⟨rfl, settings, _, _, ready,
            .intro read loads placed serves addressed launches opens, passes⟩
        · rintro (⟨list, -⟩ | ⟨-, _, _, _, ready, reaches, passes⟩)
          · cases list
          · cases reaches with
            | intro there loaded placed serves addressed launches opens =>
              cases read.symm.trans there
              cases loads.symm.trans loaded
              exact ⟨_, _, _, _, _, ready, placed, serves, addressed, launches, opens, passes⟩

end

end Session

/-! ## 3. The program -/

namespace Output

variable (host : Host σ) (disk : Disk) (call : Call) (s : σ)

/-- A command line that is understood ends with the status of its session. -/
theorem exitCode_ofCall [Url.Idna] {args : Arguments}
    (parses : Arguments.parse call.words = .ok args) :
    (ofCall host disk call s).1.exitCode =
      Session.status (Session.execute host disk call.vars
        { coloured := usesColour call.vars call.isTerminal args.noColor } args s).result := by
  unfold ofCall
  rw [parses]
  dsimp only
  split <;> rename_i ends <;> rw [ends] <;> rfl

/-- **The exit status is zero if and only if the program answers a question about itself, lists
tests, or gets to a run that passes.** -/
theorem exits_zero_iff [Url.Idna] :
    (ofCall host disk call s).1.exitCode = 0 ↔
      (∃ refusal, Arguments.parse call.words = .error refusal ∧ refusal.isAnswer = true) ∨
      ∃ args, Arguments.parse call.words = .ok args ∧
        ((args.list = true ∧ ∃ source, disk.read args.testFile = .ok source) ∨
          (args.list = false ∧ ∃ settings file url ready,
            Session.Reaches host disk call.vars args s settings file url ready ∧
              Session.Passes host settings file url ready)) := by
  rcases parses : Arguments.parse call.words with refusal | args
  · unfold ofCall
    rw [parses]
    simp [ofRefusal, Refusal.exitCode]
  · rw [exitCode_ofCall host disk call s parses, Session.execute_exits_zero_iff]
    simp

end Output

/-! ## 4. The verdict -/

namespace Run

/-- **The verdict is sound, and it is fair.**  A run passes if and only if every selected test is
upheld.  For a test that it comes to, the chronicle is that of the test: the checks, the texts and
the commands in it are those of the run itself.  The program ends with status zero if and only if
it answers a question about itself, lists tests, or gets to a run that passes. -/
theorem passed_iff_upheld [Url.Idna] (setup : Setup σ) (file : TestFile) (url : String)
    (tests : List String) (d : Dialogue) (w : σ) :
    let names := if tests = [] then file.testNames else tests
    let start := announced url names ⟨d, w, 0, []⟩
    ((∃ summary, (run setup file url tests ⟨d, w, 0, []⟩).1 = .ok summary ∧
        summary.passed = true) ↔
      ∀ before name after, names = before ++ name :: after →
        (chronicle setup file url name (all setup file url before start).2).Upholds
          (file.expansion name)) ∧
    (∀ before name after, names = before ++ name :: after →
      let p := (all setup file url before start).2
      let c := chronicle setup file url name p
      Course (begun name p) c.delivered c.read c.made c.said (one setup file url name p).2 ∧
        c.said.filterMap Event.sent? = c.sent.map Prod.fst) ∧
    ∀ (host : Host σ) (disk : Disk) (call : Call) (s : σ),
      (Output.ofCall host disk call s).1.exitCode = 0 ↔
        (∃ refusal, Arguments.parse call.words = .error refusal ∧ refusal.isAnswer = true) ∨
        ∃ args, Arguments.parse call.words = .ok args ∧
          ((args.list = true ∧ ∃ source, disk.read args.testFile = .ok source) ∨
            (args.list = false ∧ ∃ settings file url ready,
              Session.Reaches host disk call.vars args s settings file url ready ∧
                Session.Passes host settings file url ready)) := by
  refine ⟨?_, ?_, ?_⟩
  · rw [run_passed_iff setup file url tests rfl]
    exact all_iff_upholds setup file url _ _
  · intro before name after _
    exact ⟨one_course setup file url name _, Chronicle.sent?_said _⟩
  · exact fun host disk call s => Output.exits_zero_iff host disk call s

end Run

end Playtest
