/-
# The slot for a request

A request that comes while no input is being waited for is parked in a slot, and one that comes
while the slot is full is dropped.  So a test would lose a request if the slot were full while its
script is recited.  It never is: what is parked at the end of one test is forgotten at the beginning
of the next one, and the steps of a body park nothing (`slot_is_free_in_bodies`).

`Dialogue.parked_step` says once what a step does to the slot, and all else is read off it.  That a
body hands out no parked request is the invariant that carries the recital: an input begins with an
empty slot, and so does the next one (`inBody_reciting`).
-/
import Playtest.Proofs.Run.Trail

namespace Playtest

open Dialogue (Step)

/-! ## 1. Steps and the slot -/

namespace Dialogue

/-- The request that a step reads in order to park it. -/
def parks? (d : Dialogue) : Step → Option InputKind
  | .listen deadline =>
    match d.channel.receive deadline with
    | (.message m, _) => m.request?
    | _ => none
  | .poll => d.channel.queue.head?.bind Message.request?
  | _ => none

/-- The step reads a request in order to park it while another one is parked. -/
def Drops (d : Dialogue) (s : Step) : Prop := d.parked? ≠ none ∧ d.parks? s ≠ none

instance (d : Dialogue) (s : Step) : Decidable (d.Drops s) := inferInstanceAs (Decidable (_ ∧ _))

/-! ### Kinds of steps -/

namespace Step

/-- Steps that read no message and have nothing to do with requests. -/
def quiet : Step → Bool
  | .note _ | .arrive | .take => true
  | _ => false

/-- The steps of a body: a message is read only by a wait for a request. -/
def inBody : Step → Bool
  | .emit _ | .sleep _ | .ask _ => true
  | s => s.quiet

/-- The steps behind a body: a message is read only by draining and by a wait for output. -/
def inClosing : Step → Bool
  | .listen _ | .poll => true
  | s => s.quiet

theorem inBody_of_quiet {s : Step} (h : s.quiet = true) : s.inBody = true := by
  cases s <;> first | rfl | cases h

theorem inClosing_of_quiet {s : Step} (h : s.quiet = true) : s.inClosing = true := by
  cases s <;> first | rfl | cases h

/-- The step empties no slot. -/
def Keeps (s : Step) : Prop := s ≠ .claim ∧ s ≠ .forget

theorem keeps_of_inBody {s : Step} (h : s.inBody = true) : s.Keeps := by
  constructor
  · rintro rfl
    cases h
  · rintro rfl
    cases h

theorem keeps_of_inClosing {s : Step} (h : s.inClosing = true) : s.Keeps := by
  constructor
  · rintro rfl
    cases h
  · rintro rfl
    cases h

end Step

/-! ### The slot behind a step -/

theorem parked_absorb (d : Dialogue) (m : Message) : (d.absorb m).parked? = d.parked? := by
  rw [absorb_eq]

theorem parked_absorbParking (d : Dialogue) (m : Message) :
    (d.absorbParking m).parked? = (d.parked? <|> m.request?) := by
  rcases m with (text | kind) | line
  · cases h : d.parked? <;> simp [absorbParking, parked_absorb, Message.request?, h]
  · cases h : d.parked? <;> simp [absorbParking, park, Message.request?, h]
  · cases h : d.parked? <;> simp [absorbParking, parked_absorb, Message.request?, h]

/-- **What a step does to the slot.**  Unless it empties the slot, it parks the request that it
reads, and a request that is parked stays. -/
theorem parked_step {d : Dialogue} {s : Step} (h : s.Keeps) :
    (d.step s).parked? = (d.parked? <|> d.parks? s) := by
  have same : d.parked? = (d.parked? <|> none) := by cases d.parked? <;> rfl
  cases s with
  | note event => exact same
  | emit e => exact same
  | sleep ms => exact same
  | arrive => exact same
  | take => exact same
  | forget => exact absurd rfl h.2
  | claim => exact absurd rfl h.1
  | ask deadline =>
    rw [step, look]
    rcases d.channel.receive deadline with ⟨m | _ | _, ch⟩
    · exact (parked_absorb _ m).trans same
    · exact same
    · exact same
  | listen deadline =>
    rw [step, look, parks?]
    rcases d.channel.receive deadline with ⟨m | _ | _, ch⟩
    · exact parked_absorbParking _ m
    · exact same
    · exact same
  | poll =>
    rw [step, parks?, Channel.poll?]
    cases d.channel.queue with
    | nil => exact same
    | cons m rest => exact parked_absorbParking _ m

/-- Of two requests that are drained the first one is parked, and the second one is dropped. -/
example :
    let d : Dialogue := { channel :=
      { queue := [.data (.inputRequested .line), .data (.inputRequested .char)] } }
    ¬d.Drops .poll ∧ (d.step .poll).Drops .poll ∧ (d.follow d.draining).parked? = some .line := by
  decide

theorem parks?_of_inBody {s : Step} (h : s.inBody = true) (d : Dialogue) : d.parks? s = none := by
  cases s <;> first | rfl | cases h

theorem parked_step_of_inBody {s : Step} (h : s.inBody = true) (d : Dialogue) :
    (d.step s).parked? = d.parked? := by
  rw [parked_step (Step.keeps_of_inBody h), parks?_of_inBody h]
  cases d.parked? <;> rfl

theorem parked_follow_of_inBody {trail : List Step} (h : ∀ s ∈ trail, s.inBody = true)
    (d : Dialogue) : (d.follow trail).parked? = d.parked? := by
  induction trail generalizing d with
  | nil => rfl
  | cons s trail ih =>
    rw [List.forall_mem_cons] at h
    rw [follow_cons, ih h.2, parked_step_of_inBody h.1]

/-- What is parked stays until it is handed out or forgotten. -/
theorem parked_follow_of_parked {trail : List Step} (h : ∀ s ∈ trail, s.Keeps)
    {d : Dialogue} {kind : InputKind} (hp : d.parked? = some kind) :
    (d.follow trail).parked? = some kind := by
  induction trail generalizing d with
  | nil => exact hp
  | cons s trail ih =>
    rw [List.forall_mem_cons] at h
    refine ih h.2 ?_
    rw [parked_step h.1, hp]
    rfl

/-! ### Listening -/

/-- Along the trail, a wait for output looks for a message only while the slot is empty. -/
def ListensFree : Dialogue → List Step → Prop
  | _, [] => True
  | d, s :: trail => (∀ deadline, s = .listen deadline → d.parked? = none) ∧
    ListensFree (d.step s) trail

theorem listensFree_append {a b : List Step} {d : Dialogue} :
    d.ListensFree (a ++ b) ↔ d.ListensFree a ∧ (d.follow a).ListensFree b := by
  induction a generalizing d with
  | nil => simp [ListensFree]
  | cons s a ih => rw [List.cons_append, ListensFree, ListensFree, ih, follow_cons, and_assoc]

/-- A trail without such looks. -/
theorem listensFree_of_deaf {trail : List Step} (h : ∀ s ∈ trail, ∀ deadline, s ≠ .listen deadline)
    (d : Dialogue) : d.ListensFree trail := by
  induction trail generalizing d with
  | nil => trivial
  | cons s trail ih =>
    rw [List.forall_mem_cons] at h
    exact ⟨fun deadline listen => absurd listen (h.1 deadline), ih h.2 _⟩

theorem listensFree_of_quiet {trail : List Step} (h : ∀ s ∈ trail, s.quiet = true) (d : Dialogue) :
    d.ListensFree trail := by
  refine listensFree_of_deaf (fun s hs deadline listen => ?_) d
  subst listen
  cases h _ hs

/-- A wait for output is over with the first request that it reads. -/
theorem listensFree_listening (d : Dialogue) (limit : Duration) :
    d.ListensFree (d.listening limit) := by
  rw [listening]
  cases hp : d.parked? with
  | some kind => trivial
  | none =>
    dsimp only
    generalize d.deadline limit = deadline
    induction hc : d.channel using Channel.hear_induction Message.isData deadline
      generalizing d with
    | last ch ch' m h hw =>
      rw [Channel.hear_of_wanted h hw]
      exact ⟨fun _ _ => hp, trivial⟩
    | more ch ch' m h hw ih =>
      subst hc
      have line : d.step (.listen deadline) = ({ d with channel := ch' } : Dialogue).absorb m := by
        rw [step, look_of_message h]
        cases m with
        | data event => cases hw
        | log line => rfl
      rw [Channel.hear_of_unwanted h hw, looks_behind, List.replicate_succ]
      refine ⟨fun _ _ => hp, ?_⟩
      rw [line]
      exact ih _ ((parked_absorb _ m).trans hp) (channel_absorb _ m)
    | none ch ch' ended h hm =>
      rw [Channel.hear_of_none h hm]
      cases ended with
      | message m => exact absurd rfl (hm m)
      | closed => exact ⟨fun _ _ => hp, trivial⟩
      | late => exact ⟨fun _ _ => hp, trivial⟩

end Dialogue

/-! ## 2. What the trails are made of -/

namespace Performance

variable {σ : Type} {setup : Setup σ}

theorem quiet_rendering (p : Performance σ) : ∀ s ∈ p.rendering setup, s.quiet = true := by
  rw [rendering]
  cases setup.capture? with
  | none => simp
  | some c =>
    dsimp only
    rcases setup.world.render c.format p.world with ⟨e | bytes, w⟩
    · simp [Step.quiet]
    · simp [Step.quiet]

theorem quiet_flushing (held : List Held) (p : Performance σ) :
    ∀ s ∈ p.flushing setup held, s.quiet = true := by
  intro s hs
  rcases List.mem_cons.1 hs with rfl | hs
  · rfl
  rcases List.mem_append.1 hs with failed | rendered
  · obtain ⟨failure, -, rfl⟩ := List.mem_map.1 failed
    rfl
  · split at rendered
    · cases rendered
    · exact quiet_rendering p s rendered

theorem quiet_ending {α : Type} (result : Except TestError α) (p : Performance σ) :
    ∀ s ∈ ending setup result p, s.quiet = true := by
  unfold ending
  split
  · exact quiet_rendering p
  · simp

theorem inBody_answering (answer : Answer) : ∀ s ∈ answering answer, s.inBody = true := by
  intro s hs
  rcases List.mem_append.1 hs with emitted | slept
  · obtain ⟨e, -, rfl⟩ := List.mem_map.1 emitted
    rfl
  · rw [List.mem_singleton.1 slept]
    rfl

theorem inBody_opening (url : String) (p : Performance σ) :
    ∀ s ∈ p.opening setup url, s.inBody = true :=
  List.forall_mem_cons.2 ⟨rfl, inBody_answering _⟩

theorem inBody_sending (command : Command) (p : Performance σ) :
    ∀ s ∈ p.sending setup command, s.inBody = true :=
  List.forall_mem_cons.2 ⟨rfl, inBody_answering _⟩

/-- **With an empty slot a request is read from the channel.** -/
theorem inBody_asking {d : Dialogue} (h : d.parked? = none) (limit : Duration) :
    ∀ s ∈ d.asking limit, s.inBody = true := by
  intro s hs
  rw [Dialogue.asking, h] at hs
  rw [List.eq_of_mem_replicate hs]
  rfl

theorem inBody_giving {p : Performance σ} (h : p.dialogue.parked? = none) (input : Input)
    (held : List Held) : ∀ s ∈ p.giving setup input held, s.inBody = true := by
  intro s hs
  rcases List.mem_append.1 hs with asked | hs
  · exact inBody_asking h setup.limit s asked
  · split at hs
    · exact Step.inBody_of_quiet (quiet_ending _ _ s hs)
    · rcases List.mem_append.1 hs with flushed | hs
      · exact Step.inBody_of_quiet (quiet_flushing held _ s flushed)
      · split at hs
        · cases hs
        · exact inBody_sending _ _ s hs

/-- **A recital that begins with an empty slot never looks into it.** -/
theorem inBody_reciting (items : List Expansion.Item) (held : List Held) {p : Performance σ}
    (h : p.dialogue.parked? = none) : ∀ s ∈ p.reciting setup items held, s.inBody = true := by
  induction items generalizing held p with
  | nil => exact fun _ hs => nomatch hs
  | cons item items ih =>
    cases item with
    | check owner c => exact ih _ h
    | passed x => exact List.forall_mem_cons.2 ⟨rfl, ih held h⟩
    | input i =>
      intro s hs
      rcases List.mem_append.1 hs with given | later
      · exact inBody_giving h i held s given
      · rcases hg : p.giveInput setup i held with ⟨e | u, q⟩
        · rw [hg] at later
          cases later
        · rw [hg] at later
          have clear : (p.giveInput setup i held).2.Clear := clear_giveInput (by rw [hg])
          rw [hg] at clear
          exact ih [] clear.parked s later

theorem inClosing_listening (d : Dialogue) (limit : Duration) :
    ∀ s ∈ d.listening limit, s.inClosing = true := by
  intro s hs
  unfold Dialogue.listening at hs
  split at hs
  · cases hs
  · rw [List.eq_of_mem_replicate hs]
    rfl

/-- Nothing waits for a request while the checks that are left are made. -/
theorem inClosing_finishing (held : List Held) (p : Performance σ) :
    ∀ s ∈ p.finishing setup held, s.inClosing = true := by
  intro s hs
  unfold finishing at hs
  split at hs
  · cases hs
  · rcases List.mem_append.1 hs with drained | hs
    · rw [List.eq_of_mem_replicate drained]
      rfl
    · split at hs
      · rcases List.mem_append.1 hs with listened | hs
        · exact inClosing_listening _ setup.limit s listened
        · split at hs
          · exact Step.inClosing_of_quiet (quiet_ending _ _ s hs)
          · exact Step.inClosing_of_quiet (quiet_flushing held _ s hs)
      · exact Step.inClosing_of_quiet (quiet_flushing held _ s hs)

/-- **Nothing listens with a full slot.**  If draining parks a request, nothing is waited for. -/
theorem listensFree_finishing (held : List Held) (p : Performance σ) :
    p.dialogue.ListensFree (p.finishing setup held) := by
  unfold finishing
  split
  · trivial
  · refine Dialogue.listensFree_append.2 ⟨?_, ?_⟩
    · refine Dialogue.listensFree_of_deaf (fun s hs deadline listen => ?_) _
      rw [List.eq_of_mem_replicate hs] at listen
      cases listen
    · rw [Dialogue.follow_draining]
      split
      · refine Dialogue.listensFree_append.2 ⟨Dialogue.listensFree_listening _ _, ?_⟩
        split
        · exact Dialogue.listensFree_of_quiet (quiet_ending _ _) _
        · exact Dialogue.listensFree_of_quiet (quiet_flushing held _) _
      · exact Dialogue.listensFree_of_quiet (quiet_flushing held _) _

end Performance

/-! ## 3. Tests -/

/-- What the test with this trail does with the slot, from the dialogue in which it begins. -/
structure Trail.SparesRequests (t : Trail) (d : Dialogue) : Prop where
  /-- A test begins with a note and forgets everything. -/
  start : ∃ event, t.start = [.note event, .forget]
  /-- The slot is empty from the forgetting on, until the body is over. -/
  free : ∀ done, done <+: t.body → ((d.follow t.start).follow done).parked? = none
  /-- A body reads messages only in its waits for a request.  It hands out no parked request. -/
  body : ∀ s ∈ t.body, s.inBody = true
  /-- Nothing waits for a request behind the body, and nothing is handed out or forgotten. -/
  closing : ∀ s ∈ t.closing ++ t.rest, s.inClosing = true
  /-- The slot is filled only behind the body, by draining or by the wait for output. -/
  filled : ∀ done s, done ++ [s] <+: t.main → ((d.follow t.start).follow done).parked? = none →
    (((d.follow t.start).follow done).step s).parked? ≠ none →
    t.body <+: done ∧ (s = .poll ∨ ∃ deadline, s = .listen deadline)
  /-- It is filled once at most: what is parked stays to the end of the test. -/
  once : ∀ done more kind, done ++ more <+: t.main →
    ((d.follow t.start).follow done).parked? = some kind →
    ((d.follow t.start).follow (done ++ more)).parked? = some kind
  /-- A request is dropped only behind the body, by draining. -/
  dropped : ∀ done s, done ++ [s] <+: t.main → ((d.follow t.start).follow done).Drops s →
    t.body <+: done ∧ s = .poll

/-- A step of two lists in a row is one of the first list, or it is one of the second. -/
theorem of_prefix_append {α : Type} {a b done : List α} {s : α} (h : done ++ [s] <+: a ++ b) :
    s ∈ a ∨ ∃ front back, done = a ++ front ∧ b = front ++ s :: back := by
  obtain ⟨back, h⟩ := h
  rw [List.append_assoc] at h
  rcases List.append_eq_append_iff.1 h with ⟨rest, rfl, hb⟩ | ⟨front, rfl, hb⟩
  · cases rest with
    | nil => exact .inr ⟨[], back, by simp, hb.symm⟩
    | cons x rest =>
      obtain ⟨rfl, -⟩ := List.cons_eq_cons.1 hb
      exact .inl (by simp)
  · exact .inr ⟨front, back, rfl, hb⟩

namespace Trail

variable {t : Trail} {d : Dialogue}

section
variable (start : ∃ event, t.start = [.note event, .forget])
  (body : ∀ s ∈ t.body, s.inBody = true) (closing : ∀ s ∈ t.closing ++ t.rest, s.inClosing = true)

include start in
theorem parked_start (d : Dialogue) : (d.follow t.start).parked? = none := by
  obtain ⟨event, h⟩ := start
  rw [h]
  rfl

include body closing in
theorem keeps_main : ∀ s ∈ t.main, s.Keeps := by
  intro s hs
  rcases List.mem_append.1 hs with hs | hs
  · exact Step.keeps_of_inBody (body s hs)
  · exact Step.keeps_of_inClosing (closing s hs)

include body in
/-- Only a step behind the body reads a request in order to park it, and it does not listen with a
full slot. -/
theorem parks_behind (listens : (d.follow t.body).ListensFree (t.closing ++ t.rest))
    {done : List Step} {s : Step} (h : done ++ [s] <+: t.main)
    (hp : (d.follow done).parks? s ≠ none) :
    t.body <+: done ∧
      (s = .poll ∨ (∃ deadline, s = .listen deadline) ∧ (d.follow done).parked? = none) := by
  rcases of_prefix_append h with inBody | ⟨front, back, rfl, behind⟩
  · exact absurd (Dialogue.parks?_of_inBody (body s inBody) _) hp
  · refine ⟨List.prefix_append _ _, ?_⟩
    rw [behind] at listens
    obtain ⟨-, free, -⟩ := Dialogue.listensFree_append.1 listens
    cases s with
    | poll => exact .inl rfl
    | listen deadline =>
      rw [Dialogue.follow_append]
      exact .inr ⟨⟨deadline, rfl⟩, free deadline rfl⟩
    | _ => exact absurd rfl hp

include start body closing in
/-- All of this can be read off the kinds of the steps, and where they listen. -/
theorem SparesRequests.of_kinds
    (listens : ((d.follow t.start).follow t.body).ListensFree (t.closing ++ t.rest)) :
    t.SparesRequests d := by
  have keeps := keeps_main body closing
  refine ⟨start, ?_, body, closing, ?_, ?_, ?_⟩
  · intro done h
    rw [Dialogue.parked_follow_of_inBody fun s hs => body s (h.subset hs)]
    exact parked_start start d
  · intro done s h free full
    rw [Dialogue.parked_step (keeps s (h.subset (by simp))), free] at full
    obtain ⟨behind, which⟩ := parks_behind body listens h full
    exact ⟨behind, which.imp id fun listened => listened.1⟩
  · intro done more kind h full
    rw [Dialogue.follow_append]
    refine Dialogue.parked_follow_of_parked (fun s hs => keeps s (h.subset ?_)) full
    exact List.mem_append_right done hs
  · intro done s h drops
    obtain ⟨behind, polled | listened⟩ := parks_behind body listens h drops.2
    · exact ⟨behind, polled⟩
    · exact absurd listened.2 drops.1

end

end Trail

namespace Run

variable {σ : Type} (setup : Setup σ) (file : TestFile) (url : String)

theorem inBody_performing (name : String) (p : Performance σ) :
    ∀ s ∈ performing setup file url name p, s.inBody = true := by
  intro s hs
  rcases List.mem_append.1 hs with opening | recited
  · exact Performance.inBody_opening url _ s opening
  · split at recited
    · cases recited
    · exact Performance.inBody_reciting _ [] (clear_opened setup url name p).parked s recited

theorem inClosing_closing (name : String) (p : Performance σ) :
    ∀ s ∈ closing setup file url name p, s.inClosing = true := by
  intro s hs
  unfold closing at hs
  split at hs
  · cases hs
  · split at hs
    · cases hs
    · exact Performance.inClosing_finishing _ _ s hs

/-- The closing begins where the body ends, and never listens with a full slot. -/
theorem listensFree_closing (name : String) (p : Performance σ) :
    ((begun name p).dialogue.follow (performing setup file url name p)).ListensFree
      (closing setup file url name p) := by
  rw [follow_performing, closing]
  rcases (openAnswer setup url p).result with e | u
  · trivial
  · dsimp only
    rcases (opened setup url name p).enact setup (file.expansion name) [] with ⟨e | held, q⟩
    · trivial
    · exact Performance.listensFree_finishing held q

/-- What is noted behind a test. -/
theorem quiet_rest (stage : String × Performance σ) :
    ∀ s ∈ (trail setup file url stage).rest, s.quiet = true := by
  intro s hs
  unfold trail at hs
  dsimp only at hs
  split at hs
  · cases hs
  · split at hs
    · cases hs
    · rw [List.mem_singleton.1 hs]
      rfl

/-- **Every test spares requests.** -/
theorem sparesRequests_trail (stage : String × Performance σ) :
    (trail setup file url stage).SparesRequests stage.2.dialogue := by
  have rest := quiet_rest setup file url stage
  refine .of_kinds ⟨_, rfl⟩ (inBody_performing setup file url _ _) ?_ ?_
  · intro s hs
    rcases List.mem_append.1 hs with closing | behind
    · exact inClosing_closing setup file url _ _ s closing
    · exact Step.inClosing_of_quiet (rest s behind)
  · exact Dialogue.listensFree_append.2
      ⟨listensFree_closing setup file url _ _, Dialogue.listensFree_of_quiet rest _⟩

/-- **The slot is empty while a body is performed.**  In every run, whatever was parked before it, a
test begins with an empty slot and keeps it empty to the end of its body: each wait for a request
reads its request from the channel.  Behind the body the slot is filled at most once, and what is
parked then is forgotten by the next test before anything else is done; a request is dropped only
while the last messages are drained, when no input of the test is left to answer it. -/
theorem slot_is_free_in_bodies (tests : List String) (p : Performance σ) :
    (run setup file url tests p).2.dialogue =
        p.dialogue.follow (trailTo setup file url tests (stagesOf setup file url tests p)) ∧
      ∀ front stage back, stagesOf setup file url tests p = front ++ stage :: back →
        (trail setup file url stage).SparesRequests
          (p.dialogue.follow (trailTo setup file url tests front)) := by
  obtain ⟨whole, each⟩ := follow_run setup file url tests p
  refine ⟨whole.symm, ?_⟩
  intro front stage back h
  rw [each front stage back h]
  exact sparesRequests_trail setup file url stage

end Run
end Playtest
