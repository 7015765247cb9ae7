/-
# What is written between the steps of a run

Some events of the journal mark the course of a run: that it or a test begins, that a page is
opened, that a test is aborted.  What a test does between the opening of its page and its end
writes none of these.  It writes what is heard, what is sent, what is noted of renderings, and
the checks that failed, and the latter are also collected and counted, each of them once.

`Notes p p'` says this of any stretch of a performance; there is one lemma for every step.
-/
import Playtest.Proofs.Run.Chronicle

namespace Playtest

/-! ## 1. Kinds of events -/

/-- The failure that an event reports. -/
def Event.failure? : Event → Option CheckFailure
  | .checkFailed failure => some failure
  | _ => none

/-- The event marks a step of the run: the run or a test begins, a page is opened, or a test is
aborted. -/
def Event.isMilestone : Event → Bool
  | .started _ => true
  | .opened _ => true
  | .aborted _ _ => true
  | .info _ => true
  | _ => false

theorem Event.failure?_of_isPlain {event : Event} (h : event.isPlain = true) :
    event.failure? = none := by
  cases event <;> first | rfl | cases h

theorem Event.isMilestone_of_isPlain {event : Event} (h : event.isPlain = true) :
    event.isMilestone = false := by
  cases event <;> first | rfl | cases h

/-- All that is reported of messages is plain. -/
theorem Message.isPlain_shown (messages : List Message) :
    ∀ event ∈ messages.flatMap shown, event.isPlain = true := by
  intro event he
  rcases of_mem_shown he with ⟨text, rfl⟩ | ⟨line, rfl⟩
  · rfl
  · rfl

theorem Dialogue.isPlain_hearing (wanted : Message → Bool) (limit : Duration) (d : Dialogue) :
    ∀ e ∈ (d.hearing wanted limit).shown, e.event.isPlain = true := by
  intro e he
  refine Message.isPlain_shown (d.hearing wanted limit).read e.event ?_
  rw [← map_event_hearing]
  exact List.mem_map_of_mem he

/-! ## 2. Notes -/

/-- From `p` to `p'` the journal is written on, but not with a milestone, and the failures that
are written down are collected and counted. -/
def Notes {σ : Type} (p p' : Performance σ) : Prop :=
  ∃ notes : Journal,
    p'.dialogue.journal = p.dialogue.journal ++ notes ∧
    (∀ e ∈ notes, e.event.isMilestone = false) ∧
    p'.failures = p.failures ++ notes.filterMap (·.event.failure?) ∧
    p'.errors = p.errors + (notes.filterMap (·.event.failure?)).length

namespace Notes

variable {σ : Type} {p p' p'' : Performance σ}

/-- What is plain is neither a milestone nor a failure. -/
theorem of_plain {notes : Journal} (journal : p'.dialogue.journal = p.dialogue.journal ++ notes)
    (plain : ∀ e ∈ notes, e.event.isPlain = true) (failures : p'.failures = p.failures)
    (errors : p'.errors = p.errors) : Notes p p' := by
  have none : notes.filterMap (·.event.failure?) = [] :=
    List.filterMap_eq_nil_iff.2 fun e he => Event.failure?_of_isPlain (plain e he)
  refine ⟨notes, journal, ?_, ?_, ?_⟩
  · intro e he
    exact Event.isMilestone_of_isPlain (plain e he)
  · rw [none, failures, List.append_nil]
  · rw [none, errors]
    rfl

/-- A step that writes nothing and counts nothing. -/
theorem of_same (journal : p'.dialogue.journal = p.dialogue.journal)
    (failures : p'.failures = p.failures) (errors : p'.errors = p.errors) : Notes p p' :=
  of_plain (journal.trans (List.append_nil _).symm) (by simp) failures errors

theorem refl (p : Performance σ) : Notes p p := of_same rfl rfl rfl

theorem trans (h : Notes p p') (h' : Notes p' p'') : Notes p p'' := by
  obtain ⟨notes, journal, quiet, failures, errors⟩ := h
  obtain ⟨notes', journal', quiet', failures', errors'⟩ := h'
  refine ⟨notes ++ notes', ?_, ?_, ?_, ?_⟩
  · rw [journal', journal, List.append_assoc]
  · intro e he
    rcases List.mem_append.1 he with he | he
    · exact quiet e he
    · exact quiet' e he
  · rw [failures', failures, List.filterMap_append, List.append_assoc]
  · rw [errors', errors, List.filterMap_append, List.length_append, Nat.add_assoc]

end Notes

/-! ## 3. The steps -/

namespace Performance

variable {σ : Type}

theorem notes_record {event : Event} (h : event.isPlain = true) (p : Performance σ) :
    Notes p (p.record event) := by
  refine .of_plain rfl ?_ rfl rfl
  intro e he
  rw [List.mem_singleton.1 he]
  exact h

section
variable (setup : Setup σ)

theorem notes_send (command : Command) (p : Performance σ) :
    Notes p (p.send setup command).2 :=
  (notes_record rfl p).trans (.of_same rfl rfl rfl)

theorem notes_capture (c : Capture) (p : Performance σ) : Notes p (p.capture c setup) := by
  have begun : Notes p (p.record (.rendered c.format)) := notes_record rfl p
  rcases hr : setup.world.render c.format p.world with ⟨e | bytes, w⟩
  · obtain ⟨event, -, plain, h⟩ := capture_of_error hr
    rw [h]
    exact (begun.trans (.of_same rfl rfl rfl)).trans (notes_record plain _)
  · obtain ⟨event, w', -, plain, h⟩ := capture_of_ok hr
    rw [h]
    exact (begun.trans (.of_same rfl rfl rfl)).trans (notes_record plain _)

theorem notes_captureIfWanted (p : Performance σ) : Notes p (p.captureIfWanted setup) := by
  unfold captureIfWanted
  cases setup.capture? with
  | none => exact .refl p
  | some c => exact notes_capture setup c p

/-- Each check that does not hold is written down, collected and counted. -/
theorem notes_judge (held : List Held) (p : Performance σ) : Notes p (p.judge held) := by
  have written (failures : List CheckFailure) (time : Nat) :
      (failures.map fun failure => (⟨time, .checkFailed failure⟩ : TimedEvent)).filterMap
        (·.event.failure?) = failures := by
    rw [List.filterMap_map]
    exact List.filterMap_some
  rw [judge, foldl_make]
  refine ⟨_, rfl, ?_, ?_, ?_⟩
  · intro e he
    obtain ⟨failure, -, rfl⟩ := List.mem_map.1 he
    rfl
  · rw [written]
  · rw [written]

theorem notes_flush (held : List Held) (p : Performance σ) : Notes p (p.flush setup held) := by
  rw [flush_eq]
  split
  · exact notes_judge held p
  · exact (notes_judge held p).trans (notes_captureIfWanted setup _)

theorem notes_waited {α : Type} {p : Performance σ} {outcome : Except TestError α × Dialogue}
    (heard : Notes p { p with dialogue := outcome.2 }) :
    Notes p (p.waited setup outcome).2 := by
  obtain ⟨result, d⟩ := outcome
  rcases result with e | a
  · cases e with
    | timeout awaited limit => exact heard.trans (notes_captureIfWanted setup _)
    | protocolViolation expected requested => exact heard
    | unknownTest name => exact heard
    | includeCycle chain => exact heard
    | bridgeClosed => exact heard
    | browser error => exact heard
  · exact heard

/-- A wait for a request notes what it hears. -/
theorem notes_asked (p : Performance σ) : Notes p (p.asked setup) := by
  have heard : (p.asked setup).dialogue.journal = p.dialogue.journal ++ (p.hears setup).shown := by
    rw [asked, Dialogue.nextRequest_eq]
    rfl
  exact .of_plain heard (Dialogue.isPlain_hearing _ setup.limit p.dialogue) rfl rfl

theorem notes_drained (p : Performance σ) : Notes p p.drained := by
  have heard : p.drained.dialogue.journal = p.dialogue.journal ++
      (p.dialogue.channel.queue.flatMap Message.shown).map
        (TimedEvent.mk p.dialogue.channel.now) := by
    rw [drained, Dialogue.drain_eq]
  refine .of_plain heard ?_ rfl rfl
  intro e he
  obtain ⟨event, hm, rfl⟩ := List.mem_map.1 he
  exact Message.isPlain_shown _ event hm

/-- The wait for output notes what it hears. -/
theorem notes_printed (p : Performance σ) : Notes p (p.printed setup) := by
  have heard : (p.printed setup).dialogue.journal =
      p.dialogue.journal ++ (p.dialogue.hearing Message.isData setup.limit).shown := by
    rw [printed, Dialogue.finalOutput_eq]
    exact Dialogue.journal_parking _ _
  exact .of_plain heard (Dialogue.isPlain_hearing _ setup.limit p.dialogue) rfl rfl

theorem notes_giveInput (input : Input) (held : List Held) (p : Performance σ) :
    Notes p (p.giveInput setup input held).2 := by
  rcases ho : (p.dialogue.nextRequest setup.limit).1 with e | requested
  · rw [giveInput_of_error input held ho]
    exact notes_waited setup (notes_asked setup p)
  · have made := (notes_asked setup p).trans (notes_flush setup held (p.asked setup))
    rw [giveInput_of_ok input held ho]
    dsimp only
    split
    · exact made
    · exact made.trans (notes_send setup (Command.ofInput input) _)

theorem notes_recite (items : List Expansion.Item) (held : List Held) (p : Performance σ) :
    Notes p (p.recite setup items held).2 := by
  induction items generalizing held p with
  | nil => exact .refl p
  | cons item items ih =>
    cases item with
    | check owner c => exact ih _ p
    | passed x => exact (notes_record rfl p).trans (ih held _)
    | input i =>
      have first := notes_giveInput setup i held p
      rw [recite]
      rcases hg : p.giveInput setup i held with ⟨e | u, p'⟩
      · rw [hg] at first
        exact first
      · rw [hg] at first
        exact first.trans (ih [] p')

theorem notes_finish (held : List Held) (p : Performance σ) :
    Notes p (p.finish setup held).2 := by
  by_cases hh : held = []
  · rw [hh]
    exact .refl p
  · have drained := notes_drained p
    by_cases hb : p.drained.dialogue.buffer = ""
    · have printed := notes_printed setup p.drained
      rcases ho : (p.drained.dialogue.finalOutput setup.limit).1 with e | u
      · rw [finish_of_error hh hb ho]
        exact drained.trans (notes_waited setup printed)
      · rw [finish_of_ok hh hb ho]
        exact (drained.trans printed).trans (notes_flush setup held _)
    · rw [finish_of_text hh hb]
      exact drained.trans (notes_flush setup held _)

end
end Performance
end Playtest
