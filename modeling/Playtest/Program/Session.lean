/-
# Sessions

A session is one use of the program with a test file.  It reads the file and the settings,
finds out where the interpreter and the story are, serves local files if one of them is local,
starts a browser and makes the run.

What a session shows is written down in order, as text for the screen and lines for the log.
-/
import Playtest.Program.Host
import Playtest.Program.Log
import Playtest.Settings.Layers
import Playtest.Site.Location
import Playtest.Terminal.Display

namespace Playtest
namespace Session

/-! ## 1. What a session shows and how it ends -/

inductive Shown where
  | screen (s : Screen)
  | log (line : LogLine)

/-- A line for the log. -/
def note (severity : Severity) (part : Part) (message : String) : Shown :=
  .log ⟨severity, part, message⟩

inductive Ending where
  /-- The tests were only listed. -/
  | listed
  /-- The run came to its end in some time. -/
  | finished (summary : RunSummary) (elapsed : Duration)
  | interrupted
  deriving DecidableEq, Repr

/-- The exit status: zero means that every test passed. -/
def Ending.exitCode : Ending → Nat
  | .listed => 0
  | .finished summary _ => if summary.passed then 0 else 1
  | .interrupted => 130

structure Outcome (σ : Type) where
  shown : List Shown := []
  result : Except Failure Ending
  state : σ

/-- The outcome with something shown before it. -/
def Outcome.after {σ : Type} (before : List Shown) (outcome : Outcome σ) : Outcome σ :=
  { outcome with shown := before ++ outcome.shown }

/-! ## 2. Where the interpreter and the story are -/

/-- The location that settings name, seen from the working directory, or else the one that the
test file names, seen from the directory of the file. -/
def location? [Url.Idna] (cwd directory : String) (configured? declared? : Option String) :
    Option Location :=
  match configured?, declared? with
  | some text, _ => some (Location.parse text cwd)
  | none, some text => some (Location.parse text directory)
  | none, none => none

structure Places where
  interpreter : Location
  game? : Option Location
  deriving DecidableEq, Repr

/-- The directory of a test file. -/
def directoryOf (cwd path : String) : String :=
  match Path.parent? path with
  | some parent => Path.join cwd parent
  | none => cwd

/-- Where everything is.  There must be an interpreter. -/
def places [Url.Idna] (cwd : String) (args : Arguments) (settings : Settings) (file : TestFile) :
    Except SettingsError Places :=
  let directory := directoryOf cwd args.testFile
  match location? cwd directory settings.interpreter? file.interpreter? with
  | some interpreter =>
    .ok ⟨interpreter, location? cwd directory settings.game? file.game?⟩
  | none =>
    .error (.missingField "interpreter"
      "Pass --interpreter or add '** interpreter: <path-or-url>' to the test file")

def isLocal : Location → Bool
  | .path _ => true
  | .url _ => false

/-- A server is needed. -/
def Places.areServed (places : Places) : Bool :=
  isLocal places.interpreter || places.game?.any isLocal

/-- The page of the run. -/
def Places.page [Url.Idna] (places : Places) (server : Url) (cwd root : String) :
    Except LocationError PageAddress := do
  let interpreter ← places.interpreter.toUrl server cwd root
  match places.game? with
  | none => return ⟨interpreter, none⟩
  | some game => return ⟨interpreter, some (← game.toUrl server cwd root)⟩

/-- The directory that is served. -/
def rootOf (cwd : String) (settings : Settings) : String :=
  match settings.root? with
  | some root => Path.join cwd root
  | none => cwd

/-! ## 3. The run -/

variable {σ : Type}

/-- What is shown for an event of a run. -/
def shownFor (display : Display) : Event → List Shown
  | .info message => [note .info .run message]
  | .warned message => [note .warning .performance message]
  | .opened url => [note .debug .page ("navigating to " ++ url)]
  | event => [.screen (display.event event)]

/-- How the browser is started. -/
def launchConfig (settings : Settings) : LaunchConfig :=
  { headless := settings.headless, program? := settings.chrome? }

/-- Where a rendering goes. -/
def capture? (settings : Settings) : Option Capture :=
  settings.capture?.map fun format =>
    match settings.capturePath? with
    | some path => ⟨format, path⟩
    | none => Capture.ofFormat format

/-- What is shown for a run so far. -/
def shownOf (display : Display) (journal : Journal) : List Shown :=
  journal.flatMap fun e => shownFor display e.event

/-- Makes the run on a page that is open.  If the user stops it, it is dropped where it stands. -/
def perform (host : Host σ) (display : Display) (settings : Settings) (file : TestFile)
    (url : String) (s : σ) : Outcome σ :=
  let setup : Setup σ :=
    { world := host.browser.world {} host.save
      limit := settings.wait
      capture? := capture? settings }
  let (result, p) := Run.run setup file url settings.tests { dialogue := {}, world := s }
  let journal := p.dialogue.journal
  if host.interrupted p.world then
    let (count, s) := host.dropped journal p.world
    ⟨shownOf display (journal.take count) ++
        [.screen (display.warning "Interrupted, closing the browser")],
      .ok .interrupted, s⟩
  else
    match result with
    | .error e => ⟨shownOf display journal, .error (.run e), p.world⟩
    | .ok summary =>
      ⟨shownOf display journal,
        .ok (.finished summary (Duration.ofMillis p.dialogue.channel.now)), p.world⟩

/-- What is shown for the end of a run. -/
def closing (display : Display) : Except Failure Ending → List Shown
  | .ok (.finished summary elapsed) => [.screen (display.summary summary elapsed)]
  | _ => []

/-- Starts a browser, makes the run and closes the browser again. -/
def drive (host : Host σ) (disk : Disk) (display : Display) (settings : Settings)
    (file : TestFile) (url : String) (s : σ) : Outcome σ :=
  let config := launchConfig settings
  let before :=
    [note .debug .session ("interpreter page: " ++ url),
      note .debug .browser ("launching browser with " ++ config.describe)]
  match host.launch disk config s with
  | (.error fault, s) => ⟨before, .error (.browser fault.error), s⟩
  | (.ok (), s) =>
    let launched :=
      note .info .browser
        ("browser launched headless=" ++ if config.headless then "true" else "false")
    let outcome : Outcome σ :=
      match host.openPage s with
      | (.error e, s) => ⟨[], .error (.browser e), s⟩
      | (.ok (), s) => perform host display settings file url s
    let (closed, s) := host.close outcome.state
    let after :=
      match closed with
      | .ok () => []
      | .error reason =>
        [note .warning .session
          ("failed to close browser: " ++ (BrowserError.connectionFailed reason).message)]
    ⟨before ++ launched :: outcome.shown ++ after ++ closing display outcome.result,
      outcome.result, s⟩

/-! ## 4. The session -/

/-- Serves local files on a port.  Gives the port. -/
def serve (host : Host σ) (root : String) (port : Nat) (s : σ) :
    Except Failure (Nat × Shown) × σ :=
  match host.bind port s with
  | (.error e, s) =>
    (.error (.server ("cannot bind 127.0.0.1:" ++ toString port ++ ": " ++ e.text)), s)
  | (.ok port, s) =>
    (.ok (port, note .info .server ("serving " ++ root ++ " at " ++ Location.serverText port)), s)

/-- Makes a run on the page that is found with local files served on a port. -/
def driveOn [Url.Idna] (host : Host σ) (disk : Disk) (display : Display) (settings : Settings)
    (file : TestFile) (places : Places) (port : Nat) (s : σ) : Outcome σ :=
  match places.page (Location.serverUrl port) disk.cwd (rootOf disk.cwd settings) with
  | .error e => ⟨[], .error (.location e), s⟩
  | .ok page => drive host disk display settings file page.url.href s

/-- Makes a run with these settings. -/
def run [Url.Idna] (host : Host σ) (disk : Disk) (display : Display) (args : Arguments)
    (settings : Settings) (file : TestFile) (s : σ) : Outcome σ :=
  match places disk.cwd args settings file with
  | .error e => ⟨[], .error (.settings e), s⟩
  | .ok places =>
    if places.areServed then
      match serve host (rootOf disk.cwd settings) settings.port s with
      | (.error e, s) => ⟨[], .error e, s⟩
      | (.ok (port, shown), s) =>
        (driveOn host disk display settings file places port s).after [shown]
    else driveOn host disk display settings file places settings.port s

/-- What is noted of a test file that was read. -/
def notesOn (file : TestFile) : List Shown :=
  file.unknownParameters.map fun name =>
    note .debug .testFile ("ignoring unknown test file parameter '" ++ name ++ "'")

/-- Carries out a command line. -/
def execute [Url.Idna] (host : Host σ) (disk : Disk) (vars : Variables) (display : Display)
    (args : Arguments) (s : σ) : Outcome σ :=
  match disk.read args.testFile with
  | .error e => ⟨[], .error ((Failure.io e).atPath args.testFile), s⟩
  | .ok source =>
    let file := TestFile.parse source
    let outcome : Outcome σ :=
      if args.list then
        ⟨file.testNames.map fun name => .screen (.outLine name), .ok .listed, s⟩
      else
        match Settings.load disk vars args with
        | .error e => ⟨[], .error (.settings e), s⟩
        | .ok settings =>
          run host disk { display with verbose := settings.verbose } args settings file s
    outcome.after (notesOn file)

end Session
end Playtest
