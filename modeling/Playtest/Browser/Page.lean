/-
# A page in a browser

A browser is driven by calls, and nothing is assumed of it: any call may fail, take time and let
the page do things meanwhile and later, and the connection may be lost at any time.  The page
reaches the driver through two bound functions, and an exception that it does not catch becomes a
line of its log.

Loading an address means to navigate to it and to look at the state of the document until it
is complete.  A command is a script that the page evaluates to `true`.
-/
import Playtest.Browser.Console
import Playtest.Run.Poll
import Playtest.Run.World

namespace Playtest

/-! ## 1. What a page does -/

/-- What a browser tells of its page. -/
inductive PageEvent where
  /-- The page calls a bound function. -/
  | bound (name payload : String)
  | threw (exception : PageException)
  | wrote (call : ConsoleCall)

namespace PageEvent

/-- The message that an event brings.  A payload that cannot be read is a line of the log. -/
def message? : PageEvent → Option Message
  | .bound name payload =>
    match Message.ofBinding name payload with
    | .ok message? => message?
    | .error fault =>
      let error := BrowserError.malformedPayload (fault.describe payload.toList)
      some (.log ("regtest: " ++ error.message))
  | .threw exception => some (.log exception.message)
  | .wrote _ => none

/-- The messages that events bring, in order. -/
def messages (events : List PageEvent) : List Message := events.filterMap message?

/-- The messages of events, arriving as they are brought. -/
def emissions (events : List PageEvent) : List Emission := (messages events).map .now

end PageEvent

/-! ## 2. Calls -/

/-- What a browser is asked to do with its page. -/
inductive BrowserCall where
  /-- Give the page a function of this name to call. -/
  | bind (name : String)
  /-- Run the observer in every document from now on. -/
  | install
  | navigate (url : String)
  | evaluate (script : String)
  | render (format : CaptureFormat)
  deriving DecidableEq, Repr

/-- What a call gives. -/
inductive Given where
  | nothing
  | value (v : Json.Value)
  | bytes (text : String)

/-- The end of a call, with what the page did meanwhile and does from then on. -/
structure Reply where
  events : List PageEvent := []
  /-- What the page does behind the call, with the milliseconds from the end of the call. -/
  later : List (Nat × PageEvent) := []
  /-- When the connection is lost, so that no more events come, in milliseconds from the end of
  the call. -/
  lostIn? : Option Nat := none
  /-- What the call gave, or the browser's words for why it failed. -/
  result : Except String Given := .ok .nothing
  takes : Nat := 0

/-- The messages of a reply to a call that ends some milliseconds from now: those of the call, and
those that come behind it.  When the connection is lost, the page's end is closed. -/
def Reply.emissions (reply : Reply) (ends : Nat) : List Emission :=
  PageEvent.emissions reply.events ++
    reply.later.filterMap (fun (delay, event) => event.message?.map (.later (ends + delay))) ++
    reply.lostIn?.toList.map fun delay => .close (ends + delay)

/-- A browser with one page, with states `σ`. -/
structure Endpoint (σ : Type) where
  call : BrowserCall → σ → Reply × σ

/-! ## 3. Loading -/

variable {σ : Type}

/-- A wait for a document: the browser, and what it has replied so far. -/
structure Loading (σ : Type) where
  browser : σ
  replies : List Reply := []

/-- The document says that it is complete. -/
def Given.isComplete : Given → Bool
  | .value (.string s) => s == "complete"
  | _ => false

namespace Endpoint

/-- Looks at the state of the document. -/
def look (browser : Endpoint σ) (loading : Loading σ) : WaitConfig.Try × Loading σ :=
  let (reply, s) := browser.call (.evaluate "document.readyState") loading.browser
  let result : Except BrowserError Bool :=
    match reply.result with
    | .ok given => .ok given.isComplete
    | .error reason => .error (.scriptExecutionFailed reason)
  (⟨result, reply.takes⟩, ⟨s, loading.replies ++ [reply]⟩)

/-- Loads an address. -/
def load (browser : Endpoint σ) (config : WaitConfig) (url : String) (s : σ) : Answer × σ :=
  let (reply, s) := browser.call (.navigate url) s
  match reply.result with
  | .error reason =>
    ({ emissions := reply.emissions reply.takes
       result := .error (.navigationFailed url reason)
       takes := reply.takes }, s)
  | .ok _ =>
    let (result, outcome) := config.await "document ready" browser.look ⟨s, []⟩
    let looked := (outcome.state.replies.zip outcome.looks).flatMap fun (seen, start) =>
      seen.emissions (reply.takes + start + seen.takes)
    ({ emissions := reply.emissions reply.takes ++ looked
       result := result
       takes := reply.takes + outcome.time }, outcome.state.browser)

/-! ## 4. Scripts -/

/-- What is wrong with a value that should be `true` or `false`. -/
def notBoolean : Given → String
  | .value .null => "No value found"
  | .value v => (Wire.invalidType (Wire.found v) "a boolean").cause.message
  | _ => "No value found"

/-- Hands a command to the observer of the page, which says whether it is there. -/
def command (browser : Endpoint σ) (command : Command) (s : σ) : Answer × σ :=
  let (reply, s) := browser.call (.evaluate command.script) s
  let result : Except BrowserError Unit :=
    match reply.result with
    | .ok (.value (.bool true)) => .ok ()
    | .ok (.value (.bool false)) =>
      .error (.scriptExecutionFailed
        ("observer is not installed; cannot send " ++ command.kind.name ++ " input"))
    | .ok given => .error (.scriptExecutionFailed (notBoolean given))
    | .error reason => .error (.scriptExecutionFailed reason)
  ({ emissions := reply.emissions reply.takes, result := result, takes := reply.takes }, s)

/-- Renders the page. -/
def render (browser : Endpoint σ) (format : CaptureFormat) (s : σ) :
    Except BrowserError String × σ :=
  let (reply, s) := browser.call (.render format) s
  match reply.result with
  | .ok (.bytes text) => (.ok text, s)
  | .ok _ => (.ok "", s)
  | .error reason => (.error (.captureFailed reason), s)

/-! ## 5. The page of a run -/

/-- Prepares a fresh page: both functions are bound before any document can call them. -/
def prepare (browser : Endpoint σ) (s : σ) : Except BrowserError Unit × σ :=
  [BrowserCall.bind dataBinding, .bind logBinding, .install].foldl
    (fun (result, s) call =>
      match result with
      | .error e => (.error e, s)
      | .ok () =>
        let (reply, s) := browser.call call s
        match reply.result with
        | .ok _ => (.ok (), s)
        | .error reason => (.error (.refused reason), s))
    (.ok (), s)

/-- The world of a page in a browser. -/
def world (browser : Endpoint σ) (config : WaitConfig)
    (save : String → String → σ → Except IoError Unit × σ) : World σ where
  openPage := browser.load config
  send := browser.command
  render := browser.render
  save := save

end Endpoint
end Playtest
