/-
# The last flush of a test

Checks that are left at the end of a body are made on what the game has printed since the last
input.  Everything that has arrived is absorbed first; if that brings no text and no request is
parked, there is a wait for output, and the checks are made when it ends well.

So the checks see all the text that has arrived if it came before the wait.  The wait itself reads
no more than the first message that ends it, and what arrives with this message at the same time
is still in the queue when the checks are made (`LastFlush.Sees`).  So a text that must not be
printed may have arrived by then and still not be seen (`text_left_by_last_flush`).
-/
import Mathlib.Data.List.Permutation
import Playtest.Proofs.Run.Chronicle
import Playtest.Proofs.Run.Waiting
import Playtest.Rehearsal.ScriptedPage

namespace Playtest

open Channel (arrived)

/-! ## 1. Waits for output that end well -/

namespace Dialogue

variable {d : Dialogue} {limit : Duration}

/-- A wait for output that ends well without a parked request has read the first data under way.
What arrived with it is in the queue. -/
theorem finalOutput_reads (free : d.parked? = none) (hq : d.channel.queue = [])
    (h : (d.finalOutput limit).1 = .ok ()) :
    ∃ before x after, d.channel.scheduled = before ++ x :: after ∧
      (∀ b ∈ before, b.message.isData = false) ∧ x.message.isData = true ∧
      (d.finalOutput limit).2.channel =
        ({ d.channel with
          now := arrived d.channel.now (before ++ [x])
          queue := []
          scheduled := after } : Channel).arrive ∧
      (d.finalOutput limit).2.buffer = d.buffer ++ x.message.text := by
  have waits := waits_finalOutput limit free
  have silent : ∀ b ∈ d.channel.queue, Message.data? b = none := by
    rw [hq]
    exact fun b hb => absurd hb List.not_mem_nil
  have unanswered {m : Message} (hm : m.isData = false) : m.data? = none := by
    rw [Message.data?, hm]
    rfl
  -- the first delivery that is data or comes too late
  rcases hf : d.channel.scheduled.find? (fun b => b.message.isData ||
      !decide (max d.channel.now b.due < d.deadline limit)) with _ | x
  · -- without one the wait fails
    have logs : ∀ b ∈ d.channel.scheduled, b.message.isData = false ∧
        max d.channel.now b.due < d.deadline limit := by
      intro b hb
      have passed := List.find?_eq_none.1 hf b hb
      simpa only [Bool.or_eq_true, Bool.not_eq_true', decide_eq_false_iff_not, not_or,
        Decidable.not_not, Bool.not_eq_true] using passed
    by_cases hc : ∃ time, d.channel.closes? = some time ∧
        (time ≤ d.channel.now ∨ time < d.deadline limit)
    · obtain ⟨time, closes, inTime⟩ := hc
      rw [waits.closed silent (fun b hb => unanswered (logs b hb).1) time closes inTime
        fun b hb => (logs b hb).2] at h
      cases h
    · have stays : ∀ time ∈ d.channel.closes?,
          d.channel.now < time ∧ d.deadline limit ≤ time := by
        intro time closes
        have notInTime : ¬(time ≤ d.channel.now ∨ time < d.deadline limit) :=
          fun inTime => hc ⟨time, closes, inTime⟩
        omega
      rw [waits.late silent d.channel.scheduled [] (List.append_nil _).symm
        (fun b hb => unanswered (logs b hb).1) (fun b hb => (logs b hb).2) (by simp)
        fun _ => stays] at h
      cases h
  · obtain ⟨hx, before, after, hs, hb⟩ := List.find?_eq_some_iff_append.1 hf
    have logs : ∀ b ∈ before, b.message.isData = false ∧
        max d.channel.now b.due < d.deadline limit := by
      intro b hm
      have passed := hb b hm
      simpa only [Bool.not_or, Bool.and_eq_true, Bool.not_eq_true', Bool.not_not,
        decide_eq_true_eq] using passed
    by_cases inTime : max d.channel.now x.due < d.deadline limit
    · have data : x.message.isData = true := by simpa [inTime] using hx
      have answered : x.message.data? = some () := by
        rw [Message.data?, data]
        rfl
      have ends := waits.arriving silent before x after () hs
        (fun b hm => unanswered (logs b hm).1) answered (by
          intro b hm
          rcases List.mem_append.1 hm with hm | hm
          · exact (logs b hm).2
          · rw [List.mem_singleton.1 hm]
            exact inTime)
      have quiet : Message.texts (before.map Delivery.message) = "" := by
        refine Message.texts_eq_empty fun m hm => ?_
        obtain ⟨b, hb, rfl⟩ := List.mem_map.1 hm
        exact (logs b hb).1
      refine ⟨before, x, after, hs, fun b hm => (logs b hm).1, data, ?_, ?_⟩
      · rw [ends]
      · rw [ends]
        simp [hq, quiet, Message.texts]
    · rw [waits.late silent before (x :: after) hs (fun b hm => unanswered (logs b hm).1)
        (fun b hm => (logs b hm).2) (fun y hy => by cases hy; exact Nat.le_of_not_lt inTime)
        (by simp)] at h
      cases h

end Dialogue

/-! ## 2. The last flush -/

namespace Performance

variable {σ : Type} {setup : Setup σ} {held : List Held} {p q : Performance σ}

/-- The performance when the text is taken for the checks that are left, if it comes to that. -/
def ready? (setup : Setup σ) (held : List Held) (p : Performance σ) : Option (Performance σ) :=
  if held = [] then none
  else if p.drained.dialogue.buffer = "" then
    match (p.drained.dialogue.finalOutput setup.limit).1 with
    | .ok () => some (p.drained.printed setup)
    | .error _ => none
  else some p.drained

/-- When it comes to the last flush, the test ends with it. -/
theorem finish_of_ready (h : p.ready? setup held = some q) :
    p.finish setup held = (.ok (), q.flush setup held) := by
  unfold ready? at h
  split at h
  · cases h
  · next hh =>
    split at h
    · next hb =>
      split at h
      · next ho =>
        cases h
        exact finish_of_ok hh hb ho
      · cases h
    · next hb =>
      cases h
      exact finish_of_text hh hb

/-- When it does not come to the last flush, there are no checks left or the wait has failed. -/
theorem finish_of_unready (h : p.ready? setup held = none) :
    held = [] ∨ ∃ e, (p.finish setup held).1 = .error e := by
  unfold ready? at h
  split at h
  · next hh => exact .inl hh
  · next hh =>
    split at h
    · next hb =>
      split at h
      · cases h
      · next e ho =>
        rw [finish_of_error hh hb ho]
        exact .inr ⟨e, rfl⟩
    · cases h

end Performance

/-- The last flush of a test: the checks that are left at the end of the body, the performance
there, and the performance when the text is taken for the checks. -/
structure LastFlush (σ : Type) where
  held : List Held
  ended : Performance σ
  ready : Performance σ

namespace LastFlush

variable {σ : Type}

/-- Something to go on with is there when everything that has arrived is absorbed: text, or a
request that shows that the game has finished printing. -/
def IsReady (f : LastFlush σ) : Prop :=
  f.ended.drained.dialogue.buffer ≠ "" ∨ f.ended.drained.dialogue.parked? ≠ none

/-- What the last flush sees.  If there is something to go on with, no time passes, and the text is
all that was gathered and all that had arrived.  Otherwise there was no text up to the end of the
body, and the text is that of the first data which arrives then; what is behind it in the schedule
and arrives at the same time is in the queue, unread. -/
structure Sees (f : LastFlush σ) : Prop where
  atOnce : f.IsReady →
    f.ready.dialogue.channel = { f.ended.dialogue.channel with queue := [] } ∧
      f.ready.dialogue.buffer =
        f.ended.dialogue.buffer ++ Message.texts f.ended.dialogue.channel.queue
  waited : ¬f.IsReady →
    f.ended.dialogue.buffer ++ Message.texts f.ended.dialogue.channel.queue = "" ∧
    ∃ before x after, f.ended.dialogue.channel.scheduled = before ++ x :: after ∧
      (∀ b ∈ before, b.message.isData = false) ∧ x.message.isData = true ∧
      f.ready.dialogue.channel =
        ({ f.ended.dialogue.channel with
          now := arrived f.ended.dialogue.channel.now (before ++ [x])
          queue := []
          scheduled := after } : Channel).arrive ∧
      f.ready.dialogue.buffer = x.message.text

/-- **Where no two messages arrive at the same time**, nothing that has arrived is left unread. -/
theorem Sees.complete {f : LastFlush σ} (h : f.Sees)
    (apart : (f.ended.dialogue.channel.now ::
      f.ended.dialogue.channel.scheduled.map Delivery.due).Pairwise (· < ·)) :
    f.ready.dialogue.channel.queue = [] := by
  by_cases hf : f.IsReady
  · rw [(h.atOnce hf).1]
  · obtain ⟨-, before, x, after, hs, -, -, hc, -⟩ := h.waited hf
    rw [hs, List.map_append, List.map_cons] at apart
    obtain ⟨since, schedule⟩ := List.pairwise_cons.1 apart
    obtain ⟨-, behind, ordered⟩ := List.pairwise_append.1 schedule
    have now : arrived f.ended.dialogue.channel.now (before ++ [x]) = x.due := by
      have first : f.ended.dialogue.channel.now < x.due := since x.due (by simp)
      have last : ∀ b ∈ before, b.due ≤ x.due := fun b hb =>
        Nat.le_of_lt (ordered b.due (List.mem_map_of_mem hb) x.due List.mem_cons_self)
      rw [Channel.arrived_of_ordered last, Nat.max_eq_right (Nat.le_of_lt first)]
    rw [hc, now]
    rcases after with _ | ⟨y, after⟩
    · rfl
    · have later : x.due < y.due := (List.pairwise_cons.1 behind).1 y.due (by simp)
      simp [Channel.arrive, Nat.not_le.2 later]

end LastFlush

namespace Performance

variable {σ : Type} {setup : Setup σ} {held : List Held} {p q : Performance σ}

/-- Draining absorbs all that has arrived. -/
theorem buffer_of_drained (p : Performance σ) :
    p.drained.dialogue.buffer =
      p.dialogue.buffer ++ Message.texts p.dialogue.channel.queue := by
  rw [drained, Dialogue.drain_eq]

theorem channel_of_drained (p : Performance σ) :
    p.drained.dialogue.channel = { p.dialogue.channel with queue := [] } := by
  rw [drained, Dialogue.drain_eq]

/-- **What the last flush sees**, from the end of the body on. -/
theorem sees_of_ready (h : p.ready? setup held = some q) : (⟨held, p, q⟩ : LastFlush σ).Sees := by
  unfold ready? at h
  split at h
  · cases h
  · split at h
    · next hb =>
      split at h
      · next ho =>
        cases h
        refine ⟨?_, ?_⟩
        · rintro (text | parked)
          · exact absurd hb text
          · -- the wait ends at once
            obtain ⟨kind, hk⟩ := Option.ne_none_iff_exists'.1 parked
            have same : (p.drained.dialogue.finalOutput setup.limit).2 = p.drained.dialogue := by
              rw [Dialogue.finalOutput, hk]
            dsimp only [printed]
            rw [same]
            exact ⟨channel_of_drained p, buffer_of_drained p⟩
        · intro unready
          have free : p.drained.dialogue.parked? = none :=
            Decidable.not_not.1 fun parked => unready (.inr parked)
          have empty : p.drained.dialogue.channel.queue = [] := by rw [channel_of_drained]
          obtain ⟨before, x, after, hs, logs, data, hc, ht⟩ :=
            Dialogue.finalOutput_reads free empty ho
          refine ⟨(buffer_of_drained p).symm.trans hb, before, x, after, ?_, logs, data, ?_, ?_⟩
          · rw [← hs, channel_of_drained]
          · rw [channel_of_drained] at hc
            exact hc
          · rw [hb, String.empty_append] at ht
            exact ht
      · cases h
    · next hb =>
      cases h
      exact ⟨fun _ => ⟨channel_of_drained p, buffer_of_drained p⟩,
        fun unready => absurd (.inl hb) unready⟩

/-- The last flush of a test, if it comes to that. -/
def lastFlush? (setup : Setup σ) (file : TestFile) (name : String) (p : Performance σ) :
    Option (LastFlush σ) :=
  if !file.contains name then none
  else
    match p.play setup file [file.activate name] [] with
    | (.error _, _) => none
    | (.ok held, q) => (q.ready? setup held).map (⟨held, q, ·⟩)

/-- A test that comes to its last flush ends with it. -/
theorem runTest_of_lastFlush {file : TestFile} {name : String} {f : LastFlush σ}
    (h : p.lastFlush? setup file name = some f) :
    p.runTest setup file name = (.ok (), f.ready.flush setup f.held) ∧ f.Sees := by
  unfold lastFlush? at h
  rw [runTest]
  split at h
  · cases h
  · next hc =>
    rw [if_neg hc]
    rcases hp : p.play setup file [file.activate name] [] with ⟨_ | left, q⟩
    · rw [hp] at h
      cases h
    · rw [hp] at h
      obtain ⟨ready, hr, rfl⟩ := Option.map_eq_some_iff.1 h
      exact ⟨finish_of_ready hr, sees_of_ready hr⟩

/-- A test that does not come to a last flush fails, or has no checks left. -/
theorem runTest_of_no_lastFlush {file : TestFile} {name : String}
    (h : p.lastFlush? setup file name = none) :
    (∃ e, (p.runTest setup file name).1 = .error e) ∨
      p.play setup file [file.activate name] [] = (.ok [], (p.runTest setup file name).2) := by
  unfold lastFlush? at h
  rw [runTest]
  split at h
  · next hc =>
    rw [if_pos hc]
    exact .inl ⟨_, rfl⟩
  · next hc =>
    rw [if_neg hc]
    rcases hp : p.play setup file [file.activate name] [] with ⟨e | left, q⟩
    · exact .inl ⟨e, rfl⟩
    · rw [hp] at h
      rcases finish_of_unready (Option.map_eq_none_iff.1 h) with hl | ⟨e, he⟩
      · rw [hl]
        exact .inr rfl
      · exact .inl ⟨e, he⟩

/-- **The last flush sees what came before its wait.**  A test with checks left at the end of its
body makes them on all the text that has arrived by then, unless it has to wait for the first of
it.  Then it makes them on the message that ends the wait, and what arrives together with this
message is left unread; so nothing is, where no two messages arrive at the same time. -/
theorem last_flush_leaves_what_came_together (setup : Setup σ) (file : TestFile) (name : String)
    (p : Performance σ) :
    (∀ f, p.lastFlush? setup file name = some f →
      p.runTest setup file name = (.ok (), f.ready.flush setup f.held) ∧ f.Sees ∧
        ((f.ended.dialogue.channel.now ::
          f.ended.dialogue.channel.scheduled.map Delivery.due).Pairwise (· < ·) →
            f.ready.dialogue.channel.queue = [])) ∧
    (p.lastFlush? setup file name = none →
      (∃ e, (p.runTest setup file name).1 = .error e) ∨
        p.play setup file [file.activate name] [] = (.ok [], (p.runTest setup file name).2)) := by
  refine ⟨?_, runTest_of_no_lastFlush⟩
  intro f hf
  obtain ⟨ends, sees⟩ := runTest_of_lastFlush hf
  exact ⟨ends, sees, sees.complete⟩

end Performance

/-! ## 3. A text in two messages -/

namespace Run

/-- A test that looks for a farewell that must not be printed, and gives no input. -/
def unparted : TestFile :=
  ⟨[.testStart "one", .directive (.check ⟨"Goodbye", true⟩)]⟩

/-- A page that prints a greeting and a farewell some time after it is loaded, in two messages at
the same time. -/
def hastyPage : ScriptedPage where
  pages := [[[.emit (.later 10 (.data (.bufferText "Hello. "))),
    .emit (.later 10 (.data (.bufferText "Goodbye.")))]]]
  disk := ⟨"", []⟩

/-- The last flush of the test on this page. -/
def unpartedLast? : Option (LastFlush ScriptedPage) :=
  (opened ScriptedPage.setup "" "one" ⟨{}, hastyPage, 0, []⟩).lastFlush? ScriptedPage.setup unparted
    "one"

/-- **The last flush may leave text unread.**  Both messages have arrived when the check is made,
the farewell is still in the queue, and the run passes. -/
theorem text_left_by_last_flush :
    (unpartedLast?.map fun f => f.ready.dialogue.channel.now) = some 10 ∧
    (unpartedLast?.map fun f => f.ready.dialogue.buffer) = some "Hello. " ∧
    (unpartedLast?.map fun f => f.ready.dialogue.channel.queue) =
      some [.data (.bufferText "Goodbye.")] ∧
    (run ScriptedPage.setup unparted "" [] ⟨{}, hastyPage, 0, []⟩).1 = .ok ⟨1, 0, [], []⟩ := by
  refine ⟨?_, ?_, ?_, ?_⟩
  · cbv
  · cbv
  · cbv
  · cbv

end Run
end Playtest
