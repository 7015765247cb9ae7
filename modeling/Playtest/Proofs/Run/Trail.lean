/-
# The trail of a run

A run is written down as a function from one state to another, and says nothing of the states
between.  A trail has them: it is a list of steps, and a step reads at most one message, so that
every state which a dialogue ever has stands behind some first steps of a trail.

The trails are written along the calls that a run makes, and each is bound to its call by an
equation: to follow the trail is to make the call (`follow_asking`, `follow_giving`,
`follow_finishing` and so on, up to `Run.follow_run`).
-/
import Playtest.Proofs.Run.Chronicle
import Playtest.Proofs.Run.Sequence

namespace Playtest

/-! ## 1. Steps -/

namespace Dialogue

/-- A step of a dialogue. -/
inductive Step where
  /-- An event is written down. -/
  | note (event : Event)
  /-- The page posts a message, or closes its end. -/
  | emit (emission : Emission)
  /-- Milliseconds pass. -/
  | sleep (ms : Nat)
  /-- What is due by now arrives. -/
  | arrive
  /-- The text gathered so far is taken. -/
  | take
  /-- Everything is forgotten. -/
  | forget
  /-- The parked request is handed out. -/
  | claim
  /-- A wait for a request looks for a message. -/
  | ask (deadline : Nat)
  /-- A wait for output looks for a message. -/
  | listen (deadline : Nat)
  /-- The first message that has arrived is absorbed. -/
  | poll
  deriving DecidableEq, Repr

/-- Looks for a message, and takes it in if there is one. -/
def look (d : Dialogue) (deadline : Nat) (takeIn : Dialogue → Message → Dialogue) : Dialogue :=
  match d.channel.receive deadline with
  | (.message m, ch) => takeIn { d with channel := ch } m
  | (_, ch) => { d with channel := ch }

/-- The dialogue behind a step. -/
def step (d : Dialogue) : Step → Dialogue
  | .note event => d.record event
  | .emit e => { d with channel := d.channel.emit e }
  | .sleep ms => { d with channel := d.channel.sleep ms }
  | .arrive => { d with channel := d.channel.arrive }
  | .take => d.takeBuffer.2
  | .forget => d.reset
  | .claim => { d with parked? := none }
  | .ask deadline => d.look deadline absorb
  | .listen deadline => d.look deadline absorbParking
  | .poll =>
    match d.channel.poll? with
    | some (m, ch) => ({ d with channel := ch } : Dialogue).absorbParking m
    | none => d

/-- The dialogue at the end of a trail. -/
def follow (d : Dialogue) (trail : List Step) : Dialogue := trail.foldl step d

@[simp] theorem follow_nil (d : Dialogue) : d.follow [] = d := rfl

@[simp] theorem follow_cons (d : Dialogue) (s : Step) (trail : List Step) :
    d.follow (s :: trail) = (d.step s).follow trail := rfl

@[simp] theorem follow_append (d : Dialogue) (a b : List Step) :
    d.follow (a ++ b) = (d.follow a).follow b :=
  List.foldl_append

theorem look_of_message {d : Dialogue} {deadline : Nat} {m : Message} {ch : Channel}
    (h : d.channel.receive deadline = (.message m, ch))
    (takeIn : Dialogue → Message → Dialogue) :
    d.look deadline takeIn = takeIn { d with channel := ch } m := by
  rw [look, h]

theorem look_of_none {d : Dialogue} {deadline : Nat} {ended : Channel.Received} {ch : Channel}
    (h : d.channel.receive deadline = (ended, ch)) (hm : ∀ m, ended ≠ .message m)
    (takeIn : Dialogue → Message → Dialogue) :
    d.look deadline takeIn = { d with channel := ch } := by
  rw [look, h]
  cases ended with
  | message m => exact absurd rfl (hm m)
  | closed => rfl
  | late => rfl

/-! ## 2. Trails of a dialogue -/

theorem follow_notes (events : List Event) (d : Dialogue) :
    d.follow (events.map .note) =
      { d with journal := d.journal ++ events.map (TimedEvent.mk d.channel.now) } := by
  induction events generalizing d with
  | nil => simp
  | cons event events ih =>
    rw [List.map_cons, follow_cons, ih]
    simp [step, record]

theorem follow_emissions (emissions : List Emission) (d : Dialogue) :
    d.follow (emissions.map .emit) = { d with channel := d.channel.emitAll emissions } := by
  induction emissions generalizing d with
  | nil => rfl
  | cons e emissions ih => exact ih _

/-- The dialogue with these messages arrived and not yet read. -/
def withQueue (d : Dialogue) (queue : List Message) : Dialogue :=
  { d with channel := { d.channel with queue } }

theorem absorbParking_withQueue (d : Dialogue) (m : Message) (queue : List Message) :
    (d.withQueue queue).absorbParking m = (d.absorbParking m).withQueue queue := by
  rcases m with (text | kind) | line <;> rfl

theorem step_poll {d : Dialogue} {m : Message} {rest : List Message}
    (h : d.channel.queue = m :: rest) : d.step .poll = (d.absorbParking m).withQueue rest := by
  rw [step, Channel.poll?, h]
  exact absorbParking_withQueue d m rest

/-- Draining takes the messages that have arrived, one by one. -/
def draining (d : Dialogue) : List Step := List.replicate d.channel.queue.length .poll

theorem follow_draining (d : Dialogue) : d.follow d.draining = d.drain := by
  rw [draining, drain, ← withQueue]
  induction hq : d.channel.queue generalizing d with
  | nil =>
    obtain ⟨⟨now, queue, scheduled, closes?⟩, buffer, parked, journal⟩ := d
    cases hq
    rfl
  | cons m rest ih =>
    rw [List.length_cons, List.replicate_succ, follow_cons, List.foldl_cons, step_poll hq,
      ih _ rfl, absorbParking_withQueue]
    rfl

/-! ### Waits -/

/-- The number of times that a hearing looks for a message.  It looks once more if it ends
without one. -/
def looks (x : Hearing) : Nat :=
  match x.ended with
  | .message _ => x.read.length
  | _ => x.read.length + 1

theorem looks_behind (x : Hearing) (delivered : List Message) (m : Message) (shown : Journal) :
    looks (x.behind delivered m shown) = looks x + 1 := by
  rw [looks, looks]
  cases h : x.ended <;> simp [Hearing.behind, h]

/-- A wait that looks for messages and takes them in as text and lines hears them. -/
theorem follow_hear (wanted : Message → Bool) (deadline : Nat) (d : Dialogue) :
    d.follow (List.replicate (looks (d.channel.hear wanted deadline)) (.ask deadline)) =
      d.heard (d.channel.hear wanted deadline) := by
  induction hc : d.channel using Channel.hear_induction wanted deadline generalizing d with
  | last ch ch' m h hw =>
    subst hc
    rw [Channel.hear_of_wanted h hw, heard_one]
    exact look_of_message h absorb
  | more ch ch' m h hw ih =>
    subst hc
    rw [Channel.hear_of_unwanted h hw, heard_behind, looks_behind, List.replicate_succ,
      follow_cons, step, look_of_message h absorb]
    exact ih _ (channel_absorb _ m)
  | none ch ch' ended h hm =>
    subst hc
    rw [Channel.hear_of_none h hm, heard_nothing]
    cases ended with
    | message m => exact absurd rfl (hm m)
    | closed => exact look_of_none h hm absorb
    | late => exact look_of_none h hm absorb

/-- A wait for a request hands out the one that is parked, or looks for one. -/
def asking (d : Dialogue) (limit : Duration) : List Step :=
  match d.parked? with
  | some _ => [.claim]
  | none =>
    let deadline := d.deadline limit
    List.replicate (looks (d.channel.hear (·.request?.isSome) deadline)) (.ask deadline)

theorem follow_asking (d : Dialogue) (limit : Duration) :
    d.follow (d.asking limit) = (d.nextRequest limit).2 := by
  rw [asking, nextRequest]
  cases h : d.parked? with
  | some kind => rfl
  | none =>
    dsimp only
    rw [awaitRequest_eq, follow_hear]

/-- A wait for output looks for some, unless a request is parked. -/
def listening (d : Dialogue) (limit : Duration) : List Step :=
  match d.parked? with
  | some _ => []
  | none =>
    let deadline := d.deadline limit
    List.replicate (looks (d.channel.hear Message.isData deadline)) (.listen deadline)

theorem follow_awaitOutput (limit : Duration) (deadline : Nat) (d : Dialogue) :
    d.follow (List.replicate (looks (d.channel.hear Message.isData deadline)) (.listen deadline)) =
      (d.awaitOutput limit deadline).2 := by
  induction hc : d.channel using Channel.hear_induction Message.isData deadline
    generalizing d with
  | last ch ch' m h hw =>
    subst hc
    rw [Channel.hear_of_wanted h hw, awaitOutput_of_message h, if_pos hw]
    exact look_of_message h absorbParking
  | more ch ch' m h hw ih =>
    subst hc
    have quiet (d : Dialogue) : d.absorbParking m = d.absorb m := by
      cases m with
      | data event => cases hw
      | log line => rfl
    rw [Channel.hear_of_unwanted h hw, awaitOutput_of_message h, if_neg (by simp [hw]),
      looks_behind, List.replicate_succ, follow_cons, step, look_of_message h, quiet]
    exact ih _ (channel_absorb _ m)
  | none ch ch' ended h hm =>
    subst hc
    rw [Channel.hear_of_none h hm, awaitOutput_of_none h hm]
    cases ended with
    | message m => exact absurd rfl (hm m)
    | closed => exact look_of_none h hm absorbParking
    | late => exact look_of_none h hm absorbParking

theorem follow_listening (d : Dialogue) (limit : Duration) :
    d.follow (d.listening limit) = (d.finalOutput limit).2 := by
  rw [listening, finalOutput]
  cases h : d.parked? with
  | some kind => rfl
  | none => exact follow_awaitOutput limit (d.deadline limit) d

end Dialogue

/-! ## 3. Trails of a test -/

namespace Performance

open Dialogue (Step)

variable {σ : Type}

/-- What the page sends with an answer, and the time that the answer takes. -/
def answering (answer : Answer) : List Step :=
  answer.emissions.map .emit ++ [.sleep answer.takes]

theorem follow_answering (p : Performance σ) (answer : Answer × σ) :
    p.dialogue.follow (answering answer.1) = (p.answered answer).2.dialogue := by
  rw [answering, Dialogue.follow_append, Dialogue.follow_emissions]
  rfl

/-- Loading an address. -/
def opening (setup : Setup σ) (url : String) (p : Performance σ) : List Step :=
  .note (.opened url) :: answering (setup.world.openPage url p.world).1

theorem follow_opening (setup : Setup σ) (url : String) (p : Performance σ) :
    p.dialogue.follow (p.opening setup url) = (p.openPage setup url).2.dialogue :=
  follow_answering (p.record (.opened url)) (setup.world.openPage url p.world)

/-- Handing a command to the page. -/
def sending (setup : Setup σ) (command : Command) (p : Performance σ) : List Step :=
  .note (.sent command) :: answering (setup.world.send command p.world).1

theorem follow_sending (setup : Setup σ) (command : Command) (p : Performance σ) :
    p.dialogue.follow (p.sending setup command) = (p.send setup command).2.dialogue :=
  follow_answering (p.record (.sent command)) (setup.world.send command p.world)

/-- Rendering the page if that is wanted. -/
def rendering (setup : Setup σ) (p : Performance σ) : List Step :=
  match setup.capture? with
  | none => []
  | some c =>
    .note (.rendered c.format) ::
      match setup.world.render c.format p.world with
      | (.error e, _) =>
        [.note (.warned ("could not render diagnostic " ++ c.format.extension ++ ": " ++
          e.message))]
      | (.ok bytes, w) =>
        [.arrive,
          .note
            (match (setup.world.save c.path bytes w).1 with
            | .ok () => .saved c.path
            | .error e => .warned ("could not write " ++ c.path ++ ": " ++ e.text))]

theorem follow_rendering (setup : Setup σ) (p : Performance σ) :
    p.dialogue.follow (p.rendering setup) = (p.captureIfWanted setup).dialogue := by
  rw [rendering, captureIfWanted]
  cases setup.capture? with
  | none => rfl
  | some c =>
    dsimp only
    rcases hr : setup.world.render c.format p.world with ⟨e | bytes, w⟩
    · simp [capture, record, hr, Dialogue.step]
    · rcases hs : setup.world.save c.path bytes w with ⟨e | u, w'⟩
      · simp [capture, record, hr, hs, Dialogue.step, Dialogue.record]
      · simp [capture, record, hr, hs, Dialogue.step, Dialogue.record]

/-- Making checks. -/
def flushing (setup : Setup σ) (held : List Held) (p : Performance σ) : List Step :=
  .take :: (((Made.failed (Made.on p.dialogue.buffer held)).map fun f => .note (.checkFailed f)) ++
    if held.all fun h => h.check.passes p.dialogue.buffer then [] else p.rendering setup)

theorem follow_flushing (setup : Setup σ) (held : List Held) (p : Performance σ) :
    p.dialogue.follow (p.flushing setup held) = (p.flush setup held).dialogue := by
  have judged : (p.judge held).dialogue = (p.dialogue.step .take).follow
      ((Made.failed (Made.on p.dialogue.buffer held)).map fun f => .note (.checkFailed f)) := by
    have notes := Dialogue.follow_notes
      ((Made.failed (Made.on p.dialogue.buffer held)).map .checkFailed) (p.dialogue.step .take)
    rw [List.map_map] at notes
    rw [judge, foldl_make]
    refine Eq.trans ?_ notes.symm
    simp [Dialogue.step, Dialogue.takeBuffer]
  have world : (p.judge held).world = p.world := by rw [judge, foldl_make]
  rw [flushing, flush_eq, Dialogue.follow_cons, Dialogue.follow_append, ← judged]
  split
  · rfl
  · rw [← follow_rendering, rendering, rendering, world]

/-- The end of a wait: a rendering if its time was up. -/
def ending {α : Type} (setup : Setup σ) (result : Except TestError α) (p : Performance σ) :
    List Step :=
  match result with
  | .error (.timeout _ _) => p.rendering setup
  | _ => []

theorem follow_ending {α : Type} (setup : Setup σ) (p : Performance σ)
    (outcome : Except TestError α × Dialogue) :
    outcome.2.follow (ending setup outcome.1 { p with dialogue := outcome.2 }) =
      (p.waited setup outcome).2.dialogue := by
  obtain ⟨result, d⟩ := outcome
  rcases result with e | a
  · cases e with
    | timeout awaited limit => exact follow_rendering setup { p with dialogue := d }
    | protocolViolation expected requested => rfl
    | unknownTest name => rfl
    | includeCycle chain => rfl
    | bridgeClosed => rfl
    | browser error => rfl
  · rfl

/-- Giving an input. -/
def giving (setup : Setup σ) (input : Input) (held : List Held) (p : Performance σ) : List Step :=
  p.dialogue.asking setup.limit ++
    match (p.dialogue.nextRequest setup.limit).1 with
    | .error e => ending setup (.error e : Except TestError InputKind) (p.asked setup)
    | .ok requested =>
      (p.asked setup).flushing setup held ++
        if requested ≠ input.kind then []
        else ((p.asked setup).flush setup held).sending setup (Command.ofInput input)

theorem follow_giving (setup : Setup σ) (input : Input) (held : List Held) (p : Performance σ) :
    p.dialogue.follow (p.giving setup input held) =
      (p.giveInput setup input held).2.dialogue := by
  have asked : p.dialogue.follow (p.dialogue.asking setup.limit) = (p.asked setup).dialogue :=
    Dialogue.follow_asking p.dialogue setup.limit
  rw [giving, Dialogue.follow_append, asked]
  rcases ho : (p.dialogue.nextRequest setup.limit).1 with e | requested
  · have ended := follow_ending setup p (p.dialogue.nextRequest setup.limit)
    rw [ho] at ended
    rw [giveInput_of_error input held ho]
    exact ended
  · rw [giveInput_of_ok input held ho]
    dsimp only
    rw [Dialogue.follow_append, follow_flushing]
    split
    · rfl
    · exact follow_sending setup _ _

/-- Reciting the items of a script. -/
def reciting (setup : Setup σ) : List Expansion.Item → List Held → Performance σ → List Step
  | [], _, _ => []
  | .check owner c :: items, held, p => reciting setup items (held ++ [⟨owner, c⟩]) p
  | .passed x :: items, held, p =>
    let warning : Event := .warned (Activation.warning x.test x.line)
    .note warning :: reciting setup items held (p.record warning)
  | .input i :: items, held, p =>
    p.giving setup i held ++
      match p.giveInput setup i held with
      | (.error _, _) => []
      | (.ok (), p) => reciting setup items [] p

theorem follow_reciting (setup : Setup σ) (items : List Expansion.Item) (held : List Held)
    (p : Performance σ) :
    p.dialogue.follow (p.reciting setup items held) = (p.recite setup items held).2.dialogue := by
  induction items generalizing held p with
  | nil => rfl
  | cons item items ih =>
    cases item with
    | check owner c => exact ih _ p
    | passed x => exact ih held (p.record (.warned (Activation.warning x.test x.line)))
    | input i =>
      rw [reciting, recite, Dialogue.follow_append, follow_giving]
      rcases p.giveInput setup i held with ⟨e | u, q⟩
      · rfl
      · exact ih [] q

/-- Making the checks that are held at the end of a test. -/
def finishing (setup : Setup σ) (held : List Held) (p : Performance σ) : List Step :=
  if held = [] then []
  else
    let q := p.drained
    p.dialogue.draining ++
      if q.dialogue.buffer = "" then
        q.dialogue.listening setup.limit ++
          match (q.dialogue.finalOutput setup.limit).1 with
          | .error e => ending setup (.error e : Except TestError Unit) (q.printed setup)
          | .ok () => (q.printed setup).flushing setup held
      else q.flushing setup held

theorem follow_finishing (setup : Setup σ) (held : List Held) (p : Performance σ) :
    p.dialogue.follow (p.finishing setup held) = (p.finish setup held).2.dialogue := by
  have drained : p.dialogue.follow p.dialogue.draining = p.drained.dialogue :=
    Dialogue.follow_draining p.dialogue
  have printed : p.drained.dialogue.follow (p.drained.dialogue.listening setup.limit) =
      (p.drained.printed setup).dialogue :=
    Dialogue.follow_listening p.drained.dialogue setup.limit
  rw [finishing]
  split
  · next hh =>
    rw [hh]
    rfl
  · next hh =>
    dsimp only
    rw [Dialogue.follow_append, drained]
    split
    · next hb =>
      rw [Dialogue.follow_append, printed]
      rcases ho : (p.drained.dialogue.finalOutput setup.limit).1 with e | u
      · have ended := follow_ending setup p.drained (p.drained.dialogue.finalOutput setup.limit)
        rw [ho] at ended
        rw [finish_of_error hh hb ho]
        exact ended
      · rw [finish_of_ok hh hb ho]
        exact follow_flushing setup held _
    · next hb =>
      rw [finish_of_text hh hb]
      exact follow_flushing setup held _

end Performance

/-- The trail of a test. -/
structure Trail where
  /-- Up to the moment at which everything before the test is forgotten. -/
  start : List Dialogue.Step
  /-- The page is opened and the script is recited. -/
  body : List Dialogue.Step
  /-- The checks that are left are made. -/
  closing : List Dialogue.Step
  /-- What is noted behind the test. -/
  rest : List Dialogue.Step

namespace Trail

/-- The steps of a test once everything before it is forgotten. -/
def main (t : Trail) : List Dialogue.Step := t.body ++ (t.closing ++ t.rest)

/-- All steps of a test. -/
def steps (t : Trail) : List Dialogue.Step := t.start ++ t.main

end Trail

namespace Run

open Dialogue (Step)

variable {σ : Type} (setup : Setup σ) (file : TestFile) (url : String)

/-- The body of a test. -/
def performing (name : String) (p : Performance σ) : List Step :=
  (begun name p).opening setup url ++
    match (openAnswer setup url p).result with
    | .error _ => []
    | .ok () => (opened setup url name p).reciting setup (file.expansion name).items []

/-- The end of a test, if its script was performed to its end. -/
def closing (name : String) (p : Performance σ) : List Step :=
  match (openAnswer setup url p).result with
  | .error _ => []
  | .ok () =>
    match (opened setup url name p).enact setup (file.expansion name) [] with
    | (.error _, _) => []
    | (.ok held, q) => q.finishing setup held

/-- The trail of a stage of a run. -/
def trail (stage : String × Performance σ) : Trail where
  start := [.note (.started stage.1), .forget]
  body := performing setup file url stage.1 stage.2
  closing := closing setup file url stage.1 stage.2
  rest :=
    match (one setup file url stage.1 stage.2).1 with
    | .ok () => []
    | .error e => if e.isFatal then [] else [.note (.aborted stage.1 e)]

/-- A body leads to the end of its script, or only to a page that could not be opened. -/
theorem follow_performing (name : String) (p : Performance σ) :
    (begun name p).dialogue.follow (performing setup file url name p) =
      match (openAnswer setup url p).result with
      | .error _ => (opened setup url name p).dialogue
      | .ok () => ((opened setup url name p).enact setup (file.expansion name) []).2.dialogue := by
  have opening : (begun name p).dialogue.follow ((begun name p).opening setup url) =
      (opened setup url name p).dialogue := Performance.follow_opening setup url (begun name p)
  rw [performing, Dialogue.follow_append, opening]
  rcases (openAnswer setup url p).result with e | u
  · rfl
  · dsimp only
    rw [Performance.follow_reciting, ← Performance.enact_snd]

theorem follow_one (name : String) (p : Performance σ) :
    (begun name p).dialogue.follow
        (performing setup file url name p ++ closing setup file url name p) =
      (one setup file url name p).2.dialogue := by
  rw [one_eq_enact, closing, Dialogue.follow_append, follow_performing]
  rcases (openAnswer setup url p).result with e | u
  · rfl
  · dsimp only
    rcases (opened setup url name p).enact setup (file.expansion name) [] with ⟨e | held, q⟩
    · rfl
    · exact Performance.follow_finishing setup held q

theorem follow_trail (name : String) (p : Performance σ) :
    p.dialogue.follow (trail setup file url (name, p)).steps =
      (one setup file url name p).2.dialogue.follow (trail setup file url (name, p)).rest := by
  rw [← follow_one, Trail.steps, Trail.main, Dialogue.follow_append, Dialogue.follow_append,
    Dialogue.follow_append, Dialogue.follow_append]
  rfl

section
variable {setup file url} {name : String} {p : Performance σ}

theorem follow_trail_of_ok (h : (one setup file url name p).1 = .ok ()) :
    p.dialogue.follow (trail setup file url (name, p)).steps =
      (one setup file url name p).2.dialogue := by
  rw [follow_trail, trail, h]
  rfl

theorem follow_trail_of_fatal {e : TestError} (h : (one setup file url name p).1 = .error e)
    (hf : e.isFatal = true) :
    p.dialogue.follow (trail setup file url (name, p)).steps =
      (one setup file url name p).2.dialogue := by
  rw [follow_trail, trail, h]
  simp [hf]

theorem follow_trail_of_counted {e : TestError} (h : (one setup file url name p).1 = .error e)
    (hf : e.isFatal = false) :
    p.dialogue.follow (trail setup file url (name, p)).steps =
      (counted name e (one setup file url name p).2).dialogue := by
  rw [follow_trail, trail, h]
  simp [hf, counted, Performance.record, Dialogue.step]

end

/-- The trail of some stages of a run. -/
def trailOf (stages : List (String × Performance σ)) : List Step :=
  stages.flatMap fun stage => (trail setup file url stage).steps

/-- From `p` on these stages stand where the trail of those before them leads, and all of them
lead to `q`. -/
structure Stands (p : Performance σ) (stages : List (String × Performance σ))
    (q : Performance σ) : Prop where
  each : ∀ front stage back, stages = front ++ stage :: back →
    p.dialogue.follow (trailOf setup file url front) = stage.2.dialogue
  all : p.dialogue.follow (trailOf setup file url stages) = q.dialogue

variable {setup file url} in
theorem Stands.behind {name : String} {p p' q : Performance σ}
    {stages : List (String × Performance σ)}
    (first : p.dialogue.follow (trail setup file url (name, p)).steps = p'.dialogue)
    (stand : Stands setup file url p' stages q) :
    Stands setup file url p ((name, p) :: stages) q where
  each := by
    intro front stage back h
    cases front with
    | nil =>
      cases h
      rfl
    | cons x front =>
      cases h
      rw [trailOf, List.flatMap_cons, Dialogue.follow_append, first]
      exact stand.each front stage back rfl
  all := by
    rw [trailOf, List.flatMap_cons, Dialogue.follow_append, first]
    exact stand.all

theorem Stands.nil (p : Performance σ) : Stands setup file url p [] p := ⟨by simp, rfl⟩

/-- **The tests of a run lead where their trails lead.** -/
theorem stages_stand (names : List String) (p : Performance σ) :
    Stands setup file url p (stages setup file url names p) (all setup file url names p).2 := by
  induction names, p using all_induction setup file url with
  | nil p => exact Stands.nil setup file url p
  | ok name names p hr ih =>
    rw [stages_of_ok setup file url names hr, all_of_ok setup file url names hr]
    exact ih.behind (follow_trail_of_ok hr)
  | fatal name names p e hr hf =>
    rw [stages_of_fatal setup file url names hr hf, all_of_fatal setup file url names hr hf]
    exact (Stands.nil setup file url _).behind (follow_trail_of_fatal hr hf)
  | goesOn name names p e hr hf ih =>
    rw [stages_of_counted setup file url names hr hf, all_of_counted setup file url names hr hf]
    exact ih.behind (follow_trail_of_counted hr hf)

/-- The steps of a run as far as these stages, and its announcement before them. -/
def trailTo (tests : List String) (stages : List (String × Performance σ)) : List Step :=
  let count := toString (selection file tests).length
  .note (.info ("running " ++ count ++ " tests against " ++ url)) :: trailOf setup file url stages

/-- The stages of a run. -/
def stagesOf (tests : List String) (p : Performance σ) : List (String × Performance σ) :=
  stages setup file url (selection file tests) (announced url (selection file tests) p)

/-- **A run leads where its trail leads**, and every test of it begins where the trail of those
before it leads. -/
theorem follow_run (tests : List String) (p : Performance σ) :
    p.dialogue.follow (trailTo setup file url tests (stagesOf setup file url tests p)) =
        (run setup file url tests p).2.dialogue ∧
      ∀ front stage back, stagesOf setup file url tests p = front ++ stage :: back →
        p.dialogue.follow (trailTo setup file url tests front) = stage.2.dialogue := by
  have stand := stages_stand setup file url (selection file tests)
    (announced url (selection file tests) p)
  refine ⟨?_, stand.each⟩
  refine stand.all.trans ?_
  rcases h : all setup file url (selection file tests) (announced url (selection file tests) p)
    with ⟨e | aborted, q⟩
  · rw [run_of_error h]
  · rw [run_of_ok h]

end Run
end Playtest
