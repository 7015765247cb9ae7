/-
# Performing a test

A test is performed cue by cue.  Checks are held until the next input: when the game asks for
input, the text it has printed since the last one is taken and the held checks are made on it,
and then the input is sent.  Checks that are left at the end are made on whatever the game
still prints.

A check that does not hold is counted and the test goes on.  The page is rendered, if that is
wanted, after the checks of one text if one of them did not hold, and after a wait that came
to nothing.
-/
import Playtest.Run.Dialogue
import Playtest.Run.World
import Playtest.Script.Cue

namespace Playtest

/-- Everything that changes during a run. -/
structure Performance (σ : Type) where
  dialogue : Dialogue
  world : σ
  /-- Checks that did not hold, and tests that ended early. -/
  errors : Nat := 0
  failures : List CheckFailure := []

/-- A check that is held, with the test whose body has it. -/
structure Held where
  owner : String
  check : Check
  deriving DecidableEq, Repr

namespace Performance

variable {σ : Type}

/-- Writes an event down. -/
def record (p : Performance σ) (event : Event) : Performance σ :=
  { p with dialogue := p.dialogue.record event }

/-- Warns of the malformed lines that were passed by. -/
def warnPassed (p : Performance σ) (passed : List Passed) : Performance σ :=
  passed.foldl (fun p x => p.record (.warned (Activation.warning x.test x.line))) p

/-! ## 1. Calls -/

/-- Takes in an answer of the page. -/
def answered (p : Performance σ) (answer : Answer × σ) :
    Except BrowserError Unit × Performance σ :=
  let d := p.dialogue
  let ch := (d.channel.emitAll answer.1.emissions).sleep answer.1.takes
  (answer.1.result, { p with dialogue := { d with channel := ch }, world := answer.2 })

/-- Loads an address. -/
def openPage (setup : Setup σ) (url : String) (p : Performance σ) :
    Except BrowserError Unit × Performance σ :=
  let p := p.record (.opened url)
  p.answered (setup.world.openPage url p.world)

/-- Hands a command to the page. -/
def send (setup : Setup σ) (command : Command) (p : Performance σ) :
    Except BrowserError Unit × Performance σ :=
  let p := p.record (.sent command)
  p.answered (setup.world.send command p.world)

/-- Renders the page into a file.  What fails here is only warned of. -/
def capture (capture : Capture) (setup : Setup σ) (p : Performance σ) : Performance σ :=
  let p := p.record (.rendered capture.format)
  match setup.world.render capture.format p.world with
  | (.error e, w) =>
    ({ p with world := w } : Performance σ).record
      (.warned ("could not render diagnostic " ++ capture.format.extension ++ ": " ++ e.message))
  | (.ok bytes, w) =>
    let (result, w) := setup.world.save capture.path bytes w
    -- while the file is written, what is due arrives
    let d := { p.dialogue with channel := p.dialogue.channel.arrive }
    let p : Performance σ := { p with world := w, dialogue := d }
    match result with
    | .ok () => p.record (.saved capture.path)
    | .error e => p.record (.warned ("could not write " ++ capture.path ++ ": " ++ e.text))

/-- Renders the page if that is wanted. -/
def captureIfWanted (setup : Setup σ) (p : Performance σ) : Performance σ :=
  match setup.capture? with
  | none => p
  | some c => p.capture c setup

/-! ## 2. Checks -/

/-- Makes one check. -/
def make (output : String) (p : Performance σ) (held : Held) : Performance σ :=
  if held.check.passes output then p
  else
    let failure := CheckFailure.ofCheck held.owner held.check
    let p := p.record (.checkFailed failure)
    { p with errors := p.errors + 1, failures := p.failures ++ [failure] }

/-- Takes the text gathered so far and makes the held checks on it. -/
def flush (setup : Setup σ) (held : List Held) (p : Performance σ) : Performance σ :=
  let (output, d) := p.dialogue.takeBuffer
  let p : Performance σ := { p with dialogue := d }
  let p := held.foldl (make output) p
  if held.all fun h => h.check.passes output then p else p.captureIfWanted setup

/-! ## 3. Input -/

/-- Ends a wait.  A wait whose time was up leaves a rendering. -/
def waited {α : Type} (setup : Setup σ) (p : Performance σ)
    (outcome : Except TestError α × Dialogue) : Except TestError α × Performance σ :=
  let p : Performance σ := { p with dialogue := outcome.2 }
  match outcome.1 with
  | .error (.timeout awaited limit) => (.error (.timeout awaited limit), p.captureIfWanted setup)
  | result => (result, p)

/-- Waits for the game, makes the held checks and sends the input. -/
def giveInput (setup : Setup σ) (input : Input) (held : List Held) (p : Performance σ) :
    Except TestError Unit × Performance σ :=
  match p.waited setup (p.dialogue.nextRequest setup.limit) with
  | (.error e, p) => (.error e, p)
  | (.ok requested, p) =>
    let p := p.flush setup held
    if requested ≠ input.kind then (.error (.protocolViolation input.kind requested), p)
    else
      match p.send setup (Command.ofInput input) with
      | (.error e, p) => (.error (.browser e), p)
      | (.ok (), p) => (.ok (), p)

/-! ## 4. Bodies -/

/-- Performs the cues of a stack of activations.  Gives the checks still held at the end. -/
def play (setup : Setup σ) (file : TestFile) (stack : List Activation) (held : List Held)
    (p : Performance σ) : Except TestError (List Held) × Performance σ :=
  match h : Cue.next file stack with
  | (passed, none) => (.ok held, p.warnPassed passed)
  | (passed, some (cue, stack')) =>
    have := Cue.weight_next_lt h
    let p := p.warnPassed passed
    match cue with
    | .check owner check => play setup file stack' (held ++ [⟨owner, check⟩]) p
    | .entered _ => play setup file stack' held p
    | .unknown name => (.error (.unknownTest name), p)
    | .cycle chain => (.error (.includeCycle chain), p)
    | .input input =>
      match p.giveInput setup input held with
      | (.error e, p) => (.error e, p)
      | (.ok (), p) => play setup file stack' [] p
termination_by Cue.weight file stack

/-- Makes the checks held at the end of a test.  If nothing has been printed since the last
input, waits for something first. -/
def finish (setup : Setup σ) (held : List Held) (p : Performance σ) :
    Except TestError Unit × Performance σ :=
  if held = [] then (.ok (), p)
  else
    let p : Performance σ := { p with dialogue := p.dialogue.drain }
    if p.dialogue.buffer = "" then
      match p.waited setup (p.dialogue.finalOutput setup.limit) with
      | (.error e, p) => (.error e, p)
      | (.ok (), p) => (.ok (), p.flush setup held)
    else (.ok (), p.flush setup held)

/-- Performs a test on a page that shows a fresh game. -/
def runTest (setup : Setup σ) (file : TestFile) (name : String) (p : Performance σ) :
    Except TestError Unit × Performance σ :=
  if !file.contains name then (.error (.unknownTest name), p)
  else
    match p.play setup file [file.activate name] [] with
    | (.error e, p) => (.error e, p)
    | (.ok held, p) => p.finish setup held

end Performance
end Playtest
