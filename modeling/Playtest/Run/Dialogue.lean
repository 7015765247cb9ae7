/-
# Taking turns with the game

The page reports text and requests for input whenever the game produces them.  The driver
gathers the text in a buffer and hands out the requests one at a time.  A request that comes
while no input is being waited for is parked in a single slot, so none is lost between two
waits and two inputs are never under way at once.

Every wait reads messages in their order of arrival and leaves what comes after the one it
waited for.
-/
import Playtest.Bridge.Channel
import Playtest.Run.Journal

namespace Playtest

/-- The driver's side of the conversation with the game. -/
structure Dialogue where
  channel : Channel := {}
  /-- Text gathered since it was last taken. -/
  buffer : String := ""
  /-- A request that no wait has claimed. -/
  parked? : Option InputKind := none
  journal : Journal := []

namespace Dialogue

/-- Writes an event down. -/
def record (d : Dialogue) (event : Event) : Dialogue :=
  { d with journal := d.journal ++ [⟨d.channel.now, event⟩] }

/-! ## 1. Single messages -/

/-- Puts text into the buffer and logs into the journal.  Requests are for the wait that reads
the message. -/
def absorb (d : Dialogue) (m : Message) : Dialogue :=
  match m with
  | .data (.bufferText text) => { d.record (.output text) with buffer := d.buffer ++ text }
  | .data (.inputRequested _) => d
  | .log line => d.record (.log line)

/-- Parks a request, unless one is parked. -/
def park (d : Dialogue) (kind : InputKind) : Dialogue :=
  { d with parked? := some (d.parked?.getD kind) }

/-- Absorbs a message outside a wait for input. -/
def absorbParking (d : Dialogue) (m : Message) : Dialogue :=
  match m with
  | .data (.inputRequested kind) => d.park kind
  | m => d.absorb m

/-! ## 2. What never waits -/

/-- Takes the text gathered so far. -/
def takeBuffer (d : Dialogue) : String × Dialogue := (d.buffer, { d with buffer := "" })

/-- Forgets everything that has arrived: messages, text and the parked request. -/
def reset (d : Dialogue) : Dialogue :=
  { d with channel := { d.channel with queue := [] }, buffer := "", parked? := none }

/-- Absorbs every message that has arrived. -/
def drain (d : Dialogue) : Dialogue :=
  d.channel.queue.foldl absorbParking { d with channel := { d.channel with queue := [] } }

/-! ## 3. Waits -/

/-- Reads on until a request comes or the deadline. -/
def awaitRequest (limit : Duration) (deadline : Nat) (d : Dialogue) :
    Except TestError InputKind × Dialogue :=
  match h : d.channel.receive deadline with
  | (.late, ch) => (.error (.timeout .inputRequest limit), { d with channel := ch })
  | (.closed, ch) => (.error .bridgeClosed, { d with channel := ch })
  | (.message (.data (.inputRequested kind)), ch) => (.ok kind, { d with channel := ch })
  | (.message (.data (.bufferText text)), ch) =>
    have := Channel.size_receive h
    awaitRequest limit deadline (({ d with channel := ch } : Dialogue).absorb
      (.data (.bufferText text)))
  | (.message (.log line), ch) =>
    have := Channel.size_receive h
    awaitRequest limit deadline (({ d with channel := ch } : Dialogue).absorb (.log line))
termination_by d.channel.size
decreasing_by
  · exact this
  · exact this

/-- Reads on until text or a request comes or the deadline.  A request is parked. -/
def awaitOutput (limit : Duration) (deadline : Nat) (d : Dialogue) :
    Except TestError Unit × Dialogue :=
  match h : d.channel.receive deadline with
  | (.late, ch) => (.error (.timeout .finalOutput limit), { d with channel := ch })
  | (.closed, ch) => (.error .bridgeClosed, { d with channel := ch })
  | (.message (.data event), ch) =>
    (.ok (), ({ d with channel := ch } : Dialogue).absorbParking (.data event))
  | (.message (.log line), ch) =>
    have := Channel.size_receive h
    awaitOutput limit deadline (({ d with channel := ch } : Dialogue).absorb (.log line))
termination_by d.channel.size
decreasing_by exact this

/-- The time at which a wait that starts now ends. -/
def deadline (d : Dialogue) (limit : Duration) : Nat := d.channel.now + limit.ticks

/-- Waits until the game asks for input.  A parked request is claimed at once. -/
def nextRequest (d : Dialogue) (limit : Duration) : Except TestError InputKind × Dialogue :=
  match d.parked? with
  | some kind => (.ok kind, { d with parked? := none })
  | none => awaitRequest limit (d.deadline limit) d

/-- Waits for output at the end of a test.  A parked request shows that the game has finished
printing. -/
def finalOutput (d : Dialogue) (limit : Duration) : Except TestError Unit × Dialogue :=
  match d.parked? with
  | some _ => (.ok (), d)
  | none => awaitOutput limit (d.deadline limit) d

end Dialogue
end Playtest
