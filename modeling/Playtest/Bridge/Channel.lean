/-
# The channel from the page

Messages from the page come through a channel.  A message is posted at once or some time
later; it waits in the queue until it is read.  The page may close its end, at once or some time
later too.  From then on it posts nothing, but what is under way still arrives, and then nothing
more.

The clock of a run stands still while anything can be done and moves only when everything
waits, straight to the next time at which something happens.  If a message is due at the very
end of a wait, the wait ends first, and the message arrives with the next wait.
-/
import Playtest.Bridge.Message

namespace Playtest

/-- A message under way, with the time at which it arrives. -/
structure Delivery where
  due : Nat
  message : Message
  deriving DecidableEq, Repr

/-- The clock, and the messages that have arrived and that are under way. -/
structure Channel where
  /-- The time in milliseconds. -/
  now : Nat := 0
  /-- Arrived and not yet read, in order of arrival. -/
  queue : List Message := []
  /-- Under way, in order of arrival. -/
  scheduled : List Delivery := []
  /-- The time at which the page closes its end, if it does. -/
  closes? : Option Nat := none
  deriving DecidableEq, Repr

namespace Channel

/-! ## 1. The page's end -/

/-- The page can post more. -/
def isOpen (ch : Channel) : Bool := ch.closes?.all fun time => ch.now < time

/-- Puts a delivery behind all that are due no later. -/
def insert (d : Delivery) : List Delivery → List Delivery
  | [] => [d]
  | e :: rest => if e.due ≤ d.due then e :: insert d rest else d :: e :: rest

/-- A message that arrives at once. -/
def post (ch : Channel) (m : Message) : Channel :=
  if ch.isOpen then { ch with queue := ch.queue ++ [m] } else ch

/-- A message that arrives after some milliseconds. -/
def postLater (ch : Channel) (delay : Nat) (m : Message) : Channel :=
  if ch.isOpen then { ch with scheduled := insert ⟨ch.now + delay, m⟩ ch.scheduled } else ch

/-- The page closes its end after some milliseconds, unless it closes it before. -/
def close (ch : Channel) (delay : Nat := 0) : Channel :=
  let time := ch.now + delay
  { ch with closes? := some (ch.closes?.elim time (min time)) }

@[simp] theorem isOpen_post (ch : Channel) (m : Message) : (ch.post m).isOpen = ch.isOpen := by
  unfold post
  split <;> rfl

@[simp] theorem isOpen_postLater (ch : Channel) (delay : Nat) (m : Message) :
    (ch.postLater delay m).isOpen = ch.isOpen := by
  unfold postLater
  split <;> rfl

/-- The page can still post until its end closes. -/
@[simp] theorem isOpen_close (ch : Channel) (delay : Nat) :
    (ch.close delay).isOpen = (ch.isOpen && decide (0 < delay)) := by
  rcases h : ch.closes? with _ | time
  · simp [isOpen, close, h]
  · have both : ch.now < min (ch.now + delay) time ↔ ch.now < time ∧ 0 < delay := by omega
    simp only [isOpen, close, h, Option.elim_some, Option.all_some, both, Bool.decide_and]

/-! ## 2. The passing of time -/

/-- What is due by now arrives. -/
def arrive (ch : Channel) : Channel :=
  { ch with
    queue := ch.queue ++ (ch.scheduled.takeWhile fun d => d.due ≤ ch.now).map (·.message)
    scheduled := ch.scheduled.dropWhile fun d => d.due ≤ ch.now }

/-- Lets time pass.  What is due before the end arrives. -/
def sleep (ch : Channel) (ms : Nat) : Channel :=
  if ms = 0 then ch
  else
    let before := ({ ch with now := ch.now + ms - 1 } : Channel).arrive
    { before with now := ch.now + ms }

/-- The number of messages that have arrived or are under way. -/
def size (ch : Channel) : Nat := ch.queue.length + ch.scheduled.length

theorem size_arrive (ch : Channel) : ch.arrive.size = ch.size := by
  have := congrArg List.length
    (List.takeWhile_append_dropWhile (l := ch.scheduled) (p := fun d => d.due ≤ ch.now))
  rw [List.length_append] at this
  simp only [size, arrive, List.length_append, List.length_map]
  omega

/-! ## 3. The driver's end -/

/-- The next message, if one has arrived. -/
def poll? (ch : Channel) : Option (Message × Channel) :=
  match ch.queue with
  | [] => none
  | m :: rest => some (m, { ch with queue := rest })

/-- How a wait for one message ends. -/
inductive Received where
  | message (m : Message)
  /-- No message can arrive any more. -/
  | closed
  /-- The time is up. -/
  | late
  deriving DecidableEq, Repr

/-- The time at which the page closes its end, if it has closed it by now or closes it before a
deadline. -/
def closing? (ch : Channel) (deadline : Nat) : Option Nat :=
  ch.closes?.filter fun time => time ≤ ch.now ∨ time < deadline

/-- Waits for a message up to a deadline.  A message that has arrived is read even at the
deadline.  When nothing is under way any more, the wait ends with the page's end. -/
def receive (ch : Channel) (deadline : Nat) : Received × Channel :=
  match ch.queue with
  | m :: rest => (.message m, { ch with queue := rest })
  | [] =>
    match ch.scheduled with
    | [] =>
      match ch.closing? deadline with
      | some time => (.closed, { ch with now := max ch.now time })
      | none => (.late, { ch with now := max ch.now deadline })
    | d :: rest =>
      let time := max ch.now d.due
      if time < deadline then
        (.message d.message, ({ ch with now := time, scheduled := rest } : Channel).arrive)
      else (.late, { ch with now := max ch.now deadline })

/-- A wait that gives a message has read it. -/
theorem size_receive {ch ch' : Channel} {deadline : Nat} {m : Message}
    (h : ch.receive deadline = (.message m, ch')) : ch'.size < ch.size := by
  unfold receive at h
  split at h
  · next hq =>
    cases h
    simp [size, hq]
  · next hq =>
    split at h
    · split at h <;> simp at h
    · next hs =>
      dsimp only at h
      split at h
      · cases h
        rw [size_arrive]
        simp [size, hq, hs]
      · simp at h

end Channel
end Playtest
