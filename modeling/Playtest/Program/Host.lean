/-
# What the program finds around it

Ports, a browser and files that can be written: all that a session cannot do by itself.  Nothing
is assumed of any of it, so a statement about sessions holds wherever the program runs.
-/
import Playtest.Browser.Launch
import Playtest.Browser.Page

namespace Playtest

/-- The surroundings of a session, with states `σ`. -/
structure Host (σ : Type) where
  /-- Take a port of this machine, any free one for port zero. -/
  bind : Nat → σ → Except IoError Nat × σ
  /-- A browser that is found without being named. -/
  installed? : Option String := none
  /-- Start the browser program with this path. -/
  start : LaunchConfig → String → σ → Except String Unit × σ
  /-- Open a blank page. -/
  newPage : σ → Except String Unit × σ
  /-- The browser with that page. -/
  browser : Endpoint σ
  /-- Write a text to the file with this path. -/
  save : String → String → σ → Except IoError Unit × σ
  close : σ → Except String Unit × σ
  /-- The user has asked to stop before the run has come to its end. -/
  interrupted : σ → Bool
  /-- Where a run is dropped that the user stops: how many of its events have been written down,
  and the state at that moment. -/
  dropped : Journal → σ → Nat × σ := fun journal s => (journal.length, s)

namespace Host

variable {σ : Type}

/-- Starts a browser, if the program named is there. -/
def launch (host : Host σ) (disk : Disk) (config : LaunchConfig) (s : σ) :
    Except LaunchFault Unit × σ :=
  match config.program?.orElse fun _ => host.installed? with
  | none => (.error .notInstalled, s)
  | some path =>
    if !disk.has path then (.error (.missing path), s)
    else
      match host.start config path s with
      | (.ok (), s) => (.ok (), s)
      | (.error reason, s) => (.error (.failed reason), s)

/-- Opens a page and prepares it. -/
def openPage (host : Host σ) (s : σ) : Except BrowserError Unit × σ :=
  match host.newPage s with
  | (.error reason, s) => (.error (.connectionFailed reason), s)
  | (.ok (), s) => host.browser.prepare s

end Host
end Playtest
