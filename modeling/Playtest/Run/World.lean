/-
# What a run acts on

A run drives one page and writes renderings of it to files.  Both are behind four calls, and
nothing is assumed of what stands there: a call may change the state of the world in any way,
the page may send any messages while it answers, and any call may fail.
-/
import Playtest.Bridge.Channel
import Playtest.Run.Journal

namespace Playtest

/-! ## 1. What a page sends -/

/-- What a page does with its end of the channel while it answers a call. -/
inductive Emission where
  /-- A message that arrives at once. -/
  | now (message : Message)
  /-- A message that arrives some milliseconds later. -/
  | later (delay : Nat) (message : Message)
  /-- The page closes its end for good, at once or some milliseconds later. -/
  | close (delay : Nat := 0)
  deriving DecidableEq, Repr

/-- The channel after an emission. -/
def Channel.emit (ch : Channel) : Emission → Channel
  | .now m => ch.post m
  | .later delay m => ch.postLater delay m
  | .close delay => ch.close delay

/-- The channel after emissions in order. -/
def Channel.emitAll (ch : Channel) (emissions : List Emission) : Channel :=
  emissions.foldl emit ch

/-- The answer to a call, with what the page sent meanwhile. -/
structure Answer where
  emissions : List Emission := []
  result : Except BrowserError Unit := .ok ()
  /-- The milliseconds that the call took, once the page had sent all this. -/
  takes : Nat := 0

/-! ## 2. The four calls -/

/-- A page and a disk, with states `σ`. -/
structure World (σ : Type) where
  /-- Load an address. -/
  openPage : String → σ → Answer × σ
  /-- Hand a command to the page. -/
  send : Command → σ → Answer × σ
  /-- Render the page. -/
  render : CaptureFormat → σ → Except BrowserError String × σ
  /-- Write a rendering to the file with this path. -/
  save : String → String → σ → Except IoError Unit × σ

/-- Where and how the page is rendered when something goes wrong. -/
structure Capture where
  format : CaptureFormat
  path : String
  deriving DecidableEq, Repr

/-- The rendering in the working directory, with a fixed name. -/
def Capture.ofFormat (format : CaptureFormat) : Capture := ⟨format, "error." ++ format.extension⟩

/-- What stays the same throughout a run. -/
structure Setup (σ : Type) where
  world : World σ
  /-- How long a wait may take. -/
  limit : Duration := Duration.ofSeconds 1
  capture? : Option Capture := none

end Playtest
