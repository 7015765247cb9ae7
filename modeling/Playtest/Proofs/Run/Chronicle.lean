/-
# The chronicle of a test

The chronicle of a test has what arrived while the page was opened, the rounds of its inputs
(`Proofs/Run/Rounds.lean`), and a finale for the checks behind the last input, if the script was
performed to its end.

* `one_tells`: the rounds and the finale go with the expansion of the test, and the result of
  the test can be read off them.
* `one_course`: the chronicle balances the books of the whole test.  What arrived is what was
  read and what is left in the queue, the checks that do not hold are those that were counted,
  and what is said in the journal is what the chronicle says.
-/
import Playtest.Proofs.Run.Rounds
import Playtest.Run.Summary

namespace Playtest

/-! ## 1. Finales -/

/-- What comes of the checks behind the last input. -/
structure Finale where
  /-- The messages that arrived, in order. -/
  delivered : List Message
  /-- The messages that were read, in order. -/
  read : List Message
  /-- How the wait for output ended.  If none was needed, it ended well. -/
  outcome : Except TestError Unit
  /-- The checks that were made, in order. -/
  made : List Made

namespace Finale

/-- What a finale says: what was read, and the checks that failed. -/
def said (f : Finale) : List Event :=
  f.read.flatMap Message.shown ++ (Made.failed f.made).map .checkFailed

/-- The finale goes with the checks that are left.  It makes them on the texts that it read,
and the wait for output fails only if there are checks and no text. -/
structure Fits (held : List Held) (f : Finale) : Prop where
  made : f.made =
    match f.outcome with
    | .ok _ => Made.on (Message.texts f.read) held
    | .error _ => []
  failed : ∀ e, f.outcome = .error e → held ≠ [] ∧ Message.texts f.read = ""

end Finale

namespace Performance

variable {σ : Type}

/-- The performance when everything that has arrived is absorbed. -/
def drained (p : Performance σ) : Performance σ := { p with dialogue := p.dialogue.drain }

/-- The performance at the end of its wait for output. -/
def printed (setup : Setup σ) (p : Performance σ) : Performance σ :=
  { p with dialogue := (p.dialogue.finalOutput setup.limit).2 }

/-- The finale of a test: what `finish` does. -/
def finale (setup : Setup σ) (held : List Held) (p : Performance σ) : Finale :=
  if held = [] then ⟨[], [], .ok (), []⟩
  else
    let q := p.drained
    if q.dialogue.buffer = "" then
      let x := q.dialogue.hearing Message.isData setup.limit
      match (q.dialogue.finalOutput setup.limit).1 with
      | .error e =>
        { delivered := x.delivered ++
            broughtByEnd setup (.error e : Except TestError Unit) (q.printed setup)
          read := p.dialogue.channel.queue ++ x.read
          outcome := .error e
          made := [] }
      | .ok () =>
        { delivered := x.delivered ++ (q.printed setup).broughtByFlush setup held
          read := p.dialogue.channel.queue ++ x.read
          outcome := .ok ()
          made := Made.on (q.printed setup).dialogue.buffer held }
    else
      { delivered := q.broughtByFlush setup held
        read := p.dialogue.channel.queue
        outcome := .ok ()
        made := Made.on q.dialogue.buffer held }

section
variable {setup : Setup σ} {held : List Held} {p : Performance σ}

/-- At the end of a test that has printed something nothing is waited for. -/
theorem finish_of_text (hh : held ≠ []) (hb : p.drained.dialogue.buffer ≠ "") :
    p.finish setup held = (.ok (), p.drained.flush setup held) := by
  rw [finish, if_neg hh]
  exact if_neg hb

/-- At the end of a test that has printed nothing there is a wait, and it may fail. -/
theorem finish_of_error (hh : held ≠ []) (hb : p.drained.dialogue.buffer = "") {e : TestError}
    (h : (p.drained.dialogue.finalOutput setup.limit).1 = .error e) :
    p.finish setup held =
      (.error e, (p.drained.waited setup (p.drained.dialogue.finalOutput setup.limit)).2) := by
  have hw : p.drained.waited setup (p.drained.dialogue.finalOutput setup.limit) =
      (.error e, _) := waited_of_error h
  rw [drained] at hb hw ⊢
  rw [finish, if_neg hh]
  dsimp only at hb ⊢
  rw [if_pos hb, hw]

/-- The wait at the end of a test may end well. -/
theorem finish_of_ok (hh : held ≠ []) (hb : p.drained.dialogue.buffer = "")
    (h : (p.drained.dialogue.finalOutput setup.limit).1 = .ok ()) :
    p.finish setup held = (.ok (), (p.drained.printed setup).flush setup held) := by
  have hw : p.drained.waited setup (p.drained.dialogue.finalOutput setup.limit) =
      (.ok (), _) := waited_of_ok h
  rw [printed]
  rw [drained] at hb hw ⊢
  rw [finish, if_neg hh]
  dsimp only at hb ⊢
  rw [if_pos hb, hw]

/-- The text that is gathered when a clear performance is drained. -/
theorem buffer_drained (h : p.Clear) :
    p.drained.dialogue.buffer = Message.texts p.dialogue.channel.queue := by
  have : p.drained.dialogue.buffer =
      p.dialogue.buffer ++ Message.texts p.dialogue.channel.queue := by
    rw [drained, Dialogue.drain_eq]
  rw [this, h.buffer, String.empty_append]

theorem buffer_printed (setup : Setup σ) (p : Performance σ) :
    (p.printed setup).dialogue.buffer =
      p.dialogue.buffer ++ Message.texts (p.dialogue.hearing Message.isData setup.limit).read := by
  rw [printed, Dialogue.finalOutput_eq]
  exact Dialogue.buffer_parking _ _

/-- **The finale goes with the checks that are left.** -/
theorem fits_finale (h : p.Clear) : (p.finale setup held).Fits held := by
  have arrived := buffer_drained h
  unfold finale
  split
  · next hh =>
    rw [hh]
    exact ⟨rfl, by simp⟩
  · next hh =>
    dsimp only
    split
    · next hb =>
      have silent : Message.texts p.dialogue.channel.queue = "" := arrived.symm.trans hb
      rcases ho : (p.drained.dialogue.finalOutput setup.limit).1 with e | u
      · have quiet := Dialogue.texts_of_silence ho
        refine ⟨rfl, fun e' _ => ⟨hh, ?_⟩⟩
        rw [Message.texts_append, silent, quiet]
        rfl
      · refine ⟨?_, by simp⟩
        dsimp only
        rw [buffer_printed, hb, Message.texts_append, silent]
    · next hb => exact ⟨congrArg (Made.on · held) arrived, by simp⟩

/-- The result of the end of a test can be read off its finale. -/
theorem finish_fst : (p.finish setup held).1 = (p.finale setup held).outcome := by
  unfold finale
  split
  · next hh => rw [hh]; rfl
  · next hh =>
    dsimp only
    split
    · next hb =>
      split
      · next h => rw [finish_of_error hh hb h]
      · next h => rw [finish_of_ok hh hb h]
    · next hb => rw [finish_of_text hh hb]

/-- Draining reads everything that has arrived. -/
theorem course_drained (p : Performance σ) :
    Course p [] p.dialogue.channel.queue []
      (p.dialogue.channel.queue.flatMap Message.shown) p.drained := by
  rw [drained, Dialogue.drain_eq]
  refine ⟨rfl, rfl, (List.append_nil _).symm, ?_⟩
  rw [Journal.said_append, Journal.said_flatMap_shown]

/-- The wait for output reads what it hears. -/
theorem course_printed (setup : Setup σ) (p : Performance σ) :
    Course p (p.dialogue.hearing Message.isData setup.limit).delivered
      (p.dialogue.hearing Message.isData setup.limit).read []
      ((p.dialogue.hearing Message.isData setup.limit).read.flatMap Message.shown)
      (p.printed setup) := by
  refine Course.ofHearing Message.isData setup.limit p ?_ ?_
  · rw [Dialogue.finalOutput_eq]
    exact Dialogue.channel_parking _ _
  · rw [Dialogue.finalOutput_eq]
    exact Dialogue.journal_parking _ _

/-- **The finale balances the books.** -/
theorem course_finish (setup : Setup σ) (held : List Held) (p : Performance σ) :
    Course p (p.finale setup held).delivered (p.finale setup held).read
      (p.finale setup held).made (p.finale setup held).said (p.finish setup held).2 := by
  unfold finale
  split
  · next hh =>
    rw [hh]
    exact Course.refl p
  · next hh =>
    dsimp only
    split
    · next hb =>
      have heard := (course_drained p).trans (course_printed setup p.drained)
      rcases ho : (p.drained.dialogue.finalOutput setup.limit).1 with e | u
      · have ended : Course (p.drained.printed setup)
            (broughtByEnd setup (p.drained.dialogue.finalOutput setup.limit).1
              (p.drained.printed setup)) [] [] []
            (p.drained.waited setup (p.drained.dialogue.finalOutput setup.limit)).2 :=
          (arrives_waited setup p.drained (p.drained.dialogue.finalOutput setup.limit)).course
        rw [ho] at ended
        rw [finish_of_error hh hb ho]
        have whole := heard.trans ended
        simpa [Finale.said] using whole
      · have judged := (judges_flush setup held (p.drained.printed setup)).course
        rw [finish_of_ok hh hb ho]
        have whole := heard.trans judged
        simpa [Finale.said] using whole
    · next hb =>
      have judged := (judges_flush setup held p.drained).course
      rw [finish_of_text hh hb]
      have whole := (course_drained p).trans judged
      simpa [Finale.said] using whole

end

end Performance
/-! ## 2. Chronicles -/

/-- What comes of one test, from the moment at which everything before it is forgotten. -/
structure Chronicle where
  /-- The messages that arrived while the page was opened. -/
  opening : List Message
  opened : Except BrowserError Unit
  rounds : List Round
  /-- The finale, if the script was performed to its end. -/
  finale? : Option Finale

namespace Chronicle

/-- The messages that arrived, in order. -/
def delivered (c : Chronicle) : List Message :=
  c.opening ++ (c.rounds.flatMap Round.delivered ++ c.finale?.toList.flatMap Finale.delivered)

/-- The messages that were read, in order. -/
def read (c : Chronicle) : List Message :=
  c.rounds.flatMap Round.read ++ c.finale?.toList.flatMap Finale.read

/-- The checks that were made, in order. -/
def made (c : Chronicle) : List Made :=
  c.rounds.flatMap Round.made ++ c.finale?.toList.flatMap Finale.made

/-- What was said, in order. -/
def said (c : Chronicle) : List Event :=
  c.rounds.flatMap Round.said ++ c.finale?.toList.flatMap Finale.said

/-- The commands that were sent, in order, each with what the page said to it. -/
def sent (c : Chronicle) : List (Command × Except BrowserError Unit) :=
  c.rounds.filterMap Round.sent?

/-- The requests that were claimed, in order. -/
def claimed (c : Chronicle) : List InputKind := c.rounds.flatMap Round.claimed

/-- The chronicle goes with a script, and a test with this chronicle ends with this result. -/
inductive Tells (x : Expansion) : Chronicle → Except TestError Unit → Prop where
  /-- The page could not be opened. -/
  | refused (opening : List Message) (e : BrowserError) :
    Tells x ⟨opening, .error e, [], none⟩ (.error (.browser e))
  /-- An input did not end well. -/
  | stopped {opening rounds e} (talk : Conversation x.turns rounds (.error e)) :
    Tells x ⟨opening, .ok (), rounds, none⟩ (.error e)
  /-- All inputs ended well, but the script ends with an include that cannot be expanded. -/
  | broken {opening rounds e} (talk : Conversation x.turns rounds (.ok ()))
    (broken : Performance.conclude x.ending x.rest = .error e) :
    Tells x ⟨opening, .ok (), rounds, none⟩ (.error e)
  /-- The script was performed to its end. -/
  | ended {opening rounds f} (talk : Conversation x.turns rounds (.ok ()))
    (complete : x.ending = .complete) (fits : f.Fits x.rest) :
    Tells x ⟨opening, .ok (), rounds, some f⟩ f.outcome

namespace Tells

variable {x : Expansion} {c : Chronicle} {result : Except TestError Unit}

/-- A page that could not be opened leaves nothing to tell. -/
theorem of_refused (h : c.Tells x result) (ho : c.opened ≠ .ok ()) :
    c.rounds = [] ∧ c.finale? = none := by
  cases h with
  | refused opening e => exact ⟨rfl, rfl⟩
  | stopped talk => exact absurd rfl ho
  | broken talk broken => exact absurd rfl ho
  | ended talk complete fits => exact absurd rfl ho

/-- Rounds are played on a page that was opened. -/
theorem opened_of_round (h : c.Tells x result) {k : Nat} {r : Round}
    (hk : c.rounds[k]? = some r) : c.opened = .ok () := by
  cases h with
  | refused opening e => cases hk
  | stopped talk => rfl
  | broken talk broken => rfl
  | ended talk complete fits => rfl

/-- On a page that was opened there is a conversation.  If it does not end well, the test ends
as it does; and there is a finale if it ends well and the script is complete. -/
theorem of_opened (h : c.Tells x result) (ho : c.opened = .ok ()) :
    ∃ ending, Conversation x.turns c.rounds ending ∧ (∀ e, ending = .error e → result = .error e) ∧
      (c.finale?.isSome = true ↔ ending = .ok () ∧ x.ending = .complete) := by
  cases h with
  | refused opening e => cases ho
  | stopped talk => exact ⟨_, talk, fun _ he => he, by simp⟩
  | broken talk broken =>
    refine ⟨_, talk, by simp, ?_⟩
    constructor
    · intro hf
      cases hf
    · rintro ⟨-, complete⟩
      rw [complete] at broken
      cases broken
  | ended talk complete fits => exact ⟨_, talk, by simp, by simp [complete]⟩

/-- What comes before a finale, and what it says of the test. -/
theorem of_finale (h : c.Tells x result) {f : Finale} (hf : c.finale? = some f) :
    c.opened = .ok () ∧ Conversation x.turns c.rounds (.ok ()) ∧ x.ending = .complete ∧
      f.Fits x.rest ∧ result = f.outcome := by
  cases h with
  | refused opening e => cases hf
  | stopped talk => cases hf
  | broken talk broken => cases hf
  | ended talk complete fits =>
    cases hf
    exact ⟨rfl, talk, complete, fits, rfl⟩

end Tells

end Chronicle

namespace Run

variable {σ : Type}

/-- The performance when a test begins: everything from before is forgotten. -/
def begun (name : String) (p : Performance σ) : Performance σ :=
  let p := p.record (.started name)
  { p with dialogue := p.dialogue.reset }

/-- The performance when the page is opened. -/
def opened (setup : Setup σ) (url name : String) (p : Performance σ) : Performance σ :=
  ((begun name p).openPage setup url).2

/-- The answer of the page to its opening. -/
def openAnswer (setup : Setup σ) (url : String) (p : Performance σ) : Answer :=
  (setup.world.openPage url p.world).1

/-- The chronicle of a test: what `one` does. -/
def chronicle (setup : Setup σ) (file : TestFile) (url name : String) (p : Performance σ) :
    Chronicle :=
  let answer := openAnswer setup url p
  let opening := Performance.broughtBy answer (begun name p).dialogue.channel
  match answer.result with
  | .error e => ⟨opening, .error e, [], none⟩
  | .ok () =>
    let x := file.expansion name
    let q := opened setup url name p
    { opening
      opened := .ok ()
      rounds := q.rounds setup x.items []
      finale? :=
        match q.enact setup x [] with
        | (.error _, _) => none
        | (.ok held, q) => some (q.finale setup held) }

section
variable (setup : Setup σ) (file : TestFile) (url name : String) (p : Performance σ)

/-- A test enacts its expansion on the page that it opened. -/
theorem one_eq_enact : one setup file url name p =
    match (openAnswer setup url p).result with
    | .error e => (.error (.browser e), opened setup url name p)
    | .ok () =>
      match (opened setup url name p).enact setup (file.expansion name) [] with
      | (.error e, q) => (.error e, q)
      | (.ok held, q) => q.finish setup held := by
  have ho : (begun name p).openPage setup url =
      ((openAnswer setup url p).result, opened setup url name p) := rfl
  rw [one, ← begun, ho]
  rcases (openAnswer setup url p).result with e | u
  · rfl
  · exact Performance.runTest_eq_enact setup file name _

/-- A test begins with nothing gathered and nothing parked. -/
theorem clear_opened : (opened setup url name p).Clear := ⟨rfl, rfl⟩

/-- The rounds of a test are those of its expansion on the page that was opened. -/
theorem rounds_of_opened (ho : (chronicle setup file url name p).opened = .ok ()) :
    (openAnswer setup url p).result = .ok () ∧
      (chronicle setup file url name p).rounds =
        (opened setup url name p).rounds setup (file.expansion name).items [] := by
  rw [chronicle] at ho ⊢
  rcases hr : (openAnswer setup url p).result with e | u
  · rw [hr] at ho
    cases ho
  · exact ⟨rfl, rfl⟩

/-- What the page posts while it is opened arrives, and nothing else happens. -/
theorem course_opened :
    Course (begun name p)
      (Performance.broughtBy (openAnswer setup url p) (begun name p).dialogue.channel) [] [] []
      (opened setup url name p) := by
  have noted : Arrives (begun name p) [] ((begun name p).record (.opened url)) :=
    Performance.arrives_record _ rfl
  exact (noted.trans (Performance.arrives_answered _ _)).course

/-- **The chronicle tells the test.** -/
theorem one_tells :
    (chronicle setup file url name p).Tells (file.expansion name)
      (one setup file url name p).1 := by
  rw [one_eq_enact, chronicle]
  rcases (openAnswer setup url p).result with e | u
  · exact .refused _ e
  · have clear := clear_opened setup url name p
    dsimp only
    rcases he : (opened setup url name p).enact setup (file.expansion name) [] with ⟨e | left, q⟩
    · rcases Performance.enact_conversation setup (file.expansion name) clear with
        ⟨e', talk, hx⟩ | ⟨talk, hx⟩
      · rw [he] at hx
        cases hx
        exact .stopped talk
      · rw [he] at hx
        exact .broken talk hx.symm
    · obtain ⟨talk, complete, rfl, clear'⟩ := Performance.enact_of_ok clear he
      dsimp only
      rw [Performance.finish_fst]
      exact .ended talk complete (Performance.fits_finale clear')

/-- **The chronicle balances the books of the test.** -/
theorem one_course :
    Course (begun name p) (chronicle setup file url name p).delivered
      (chronicle setup file url name p).read (chronicle setup file url name p).made
      (chronicle setup file url name p).said (one setup file url name p).2 := by
  have opening := course_opened setup url name p
  rw [one_eq_enact, chronicle]
  rcases (openAnswer setup url p).result with e | u
  · simpa [Chronicle.delivered, Chronicle.read, Chronicle.made, Chronicle.said] using opening
  · have talk := Performance.recite_course setup (file.expansion name).items []
      (opened setup url name p)
    rw [← Performance.enact_snd] at talk
    dsimp only
    rcases he : (opened setup url name p).enact setup (file.expansion name) [] with ⟨e | left, q⟩
    · rw [he] at talk
      have whole := opening.trans talk
      simpa [Chronicle.delivered, Chronicle.read, Chronicle.made, Chronicle.said] using whole
    · rw [he] at talk
      have whole := opening.trans (talk.trans (Performance.course_finish setup left q))
      simpa [Chronicle.delivered, Chronicle.read, Chronicle.made, Chronicle.said] using whole

/-- What arrived since the test began is what was read of it and what is left. -/
theorem delivered_eq :
    (chronicle setup file url name p).delivered =
      (chronicle setup file url name p).read ++
        (one setup file url name p).2.dialogue.channel.queue :=
  (one_course setup file url name p).queue

end

end Run
end Playtest
