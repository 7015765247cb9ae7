/-
# Where messages come from

A test reads what the page posts in answer to its own calls, and what was under way when it
began.  The messages that had arrived by then are forgotten, but one that the page posted late
for a test before may arrive when the next test has begun, and nothing tells it from a message
of the page that is open now.

The account of a test (`Run.carries_one`) leaves room for no other message.  So if nothing was
under way when the test began, all that it reads is its own; and otherwise it need not be: a test
may pass on a text that the page printed for the test before it.
-/
import Mathlib.Data.List.Perm.Subperm
import Mathlib.Data.List.Permutation
import Playtest.Proofs.Run.Chronicle
import Playtest.Proofs.Run.Sequence
import Playtest.Proofs.Run.Transit
import Playtest.Rehearsal.ScriptedPage

namespace Playtest

open scoped List

/-! ## 1. Performances -/

namespace Performance

variable {σ : Type} (setup : Setup σ)

/-- An answer of the page posts messages. -/
theorem carries_answered (p : Performance σ) (answer : Answer × σ) :
    Carries p.dialogue (p.dialogue.channel.posted answer.1.emissions) []
      (p.answered answer).2.dialogue :=
  (Dialogue.carries_emitAll answer.1.emissions p.dialogue).keeping (Channel.pending_sleep _ _)

/-- While the page is rendered messages only arrive. -/
theorem pending_capture (c : Capture) (p : Performance σ) :
    (p.capture c setup).dialogue.channel.pending = p.dialogue.channel.pending := by
  rcases hr : setup.world.render c.format p.world with ⟨e | bytes, w⟩
  · obtain ⟨event, -, -, h⟩ := capture_of_error hr
    rw [h]
    rfl
  · obtain ⟨event, w', -, -, h⟩ := capture_of_ok hr
    rw [h]
    exact Channel.pending_arrive p.dialogue.channel

theorem pending_captureIfWanted (p : Performance σ) :
    (p.captureIfWanted setup).dialogue.channel.pending = p.dialogue.channel.pending := by
  unfold captureIfWanted
  cases setup.capture? with
  | none => rfl
  | some c => exact pending_capture setup c p

theorem pending_flush (held : List Held) (p : Performance σ) :
    (p.flush setup held).dialogue.channel.pending = p.dialogue.channel.pending := by
  have judged : (p.judge held).dialogue.channel.pending = p.dialogue.channel.pending := by
    rw [judge, foldl_make]
  rw [flush_eq]
  split
  · exact judged
  · exact (pending_captureIfWanted setup _).trans judged

theorem pending_waited {α : Type} (p : Performance σ) (outcome : Except TestError α × Dialogue) :
    (p.waited setup outcome).2.dialogue.channel.pending = outcome.2.channel.pending := by
  obtain ⟨result, d⟩ := outcome
  rcases result with e | a
  · cases e with
    | timeout awaited limit =>
      exact pending_captureIfWanted setup ({ p with dialogue := d } : Performance σ)
    | protocolViolation expected requested => rfl
    | unknownTest name => rfl
    | includeCycle chain => rfl
    | bridgeClosed => rfl
    | browser error => rfl
  · rfl

/-- **The end of a test posts nothing.** -/
theorem carries_finish (held : List Held) (p : Performance σ) :
    Carries p.dialogue [] (p.finale setup held).read (p.finish setup held).2.dialogue := by
  unfold finale
  split
  · next hh =>
    rw [hh]
    exact .refl p.dialogue
  · next hh =>
    dsimp only
    split
    · next hb =>
      have heard := (Dialogue.carries_drain p.dialogue).trans
        (Dialogue.carries_finalOutput setup.limit p.drained.dialogue)
      rcases ho : (p.drained.dialogue.finalOutput setup.limit).1 with e | u
      · rw [finish_of_error hh hb ho]
        exact heard.keeping (pending_waited setup p.drained _)
      · rw [finish_of_ok hh hb ho]
        exact heard.keeping (pending_flush setup held _)
    · next hb =>
      rw [finish_of_text hh hb]
      exact (Dialogue.carries_drain p.dialogue).keeping (pending_flush setup held _)

/-- The messages that the page posts in answer to an input: none, unless it is sent. -/
def postedByInput (input : Input) (held : List Held) (p : Performance σ) : List Message :=
  match (p.round setup input held).sent? with
  | none => []
  | some (command, _) =>
    let flushed := (p.asked setup).flush setup held
    flushed.dialogue.channel.posted (setup.world.send command flushed.world).1.emissions

/-- The messages that the page posts in answer to the inputs of some items: what `recite`
sends. -/
def postedByItems : List Expansion.Item → List Held → Performance σ → List Message
  | [], _, _ => []
  | .check owner c :: items, held, p => postedByItems items (held ++ [⟨owner, c⟩]) p
  | .passed x :: items, held, p =>
    postedByItems items held (p.record (.warned (Activation.warning x.test x.line)))
  | .input i :: items, held, p =>
    p.postedByInput setup i held ++
      match p.giveInput setup i held with
      | (.error _, _) => []
      | (.ok (), p) => postedByItems items [] p

/-- **The account of an input.** -/
theorem carries_giveInput (input : Input) (held : List Held) (p : Performance σ) :
    Carries p.dialogue (p.postedByInput setup input held) (p.round setup input held).read
      (p.giveInput setup input held).2.dialogue := by
  have heard := Dialogue.carries_nextRequest setup.limit p.dialogue
  unfold postedByInput round
  rcases ho : (p.dialogue.nextRequest setup.limit).1 with e | requested
  · rw [giveInput_of_error input held ho]
    exact heard.keeping (pending_waited setup p _)
  · have made := heard.keeping (pending_flush setup held (p.asked setup))
    rw [giveInput_of_ok input held ho]
    dsimp only
    by_cases hk : requested ≠ input.kind
    · rw [if_pos hk, if_pos hk]
      exact made
    · have sent := made.trans (carries_answered
        (((p.asked setup).flush setup held).record (.sent (Command.ofInput input)))
        (setup.world.send (Command.ofInput input) ((p.asked setup).flush setup held).world))
      rw [List.append_nil] at sent
      rw [if_neg hk, if_neg hk]
      exact sent

/-- **The account of a script.** -/
theorem carries_recite (items : List Expansion.Item) (held : List Held) (p : Performance σ) :
    Carries p.dialogue (p.postedByItems setup items held)
      ((p.rounds setup items held).flatMap Round.read) (p.recite setup items held).2.dialogue := by
  induction items generalizing held p with
  | nil => exact .refl p.dialogue
  | cons item items ih =>
    cases item with
    | check owner c => exact ih _ p
    | passed x =>
      have noted : Carries p.dialogue [] []
          (p.record (.warned (Activation.warning x.test x.line))).dialogue :=
        (Carries.refl p.dialogue).keeping rfl
      exact noted.trans (ih held _)
    | input i =>
      have first := carries_giveInput setup i held p
      rw [recite, rounds, postedByItems]
      rcases hg : p.giveInput setup i held with ⟨e | u, p'⟩
      · rw [hg] at first
        exact first.trans (.refl p'.dialogue)
      · rw [hg] at first
        exact first.trans (ih [] p')

end Performance

namespace Run

variable {σ : Type} (setup : Setup σ) (file : TestFile) (url : String)

/-! ## 2. One test -/

/-- The messages that the page posts in answer to the calls of a test: its opening, and the
inputs that are sent. -/
def postedByTest (name : String) (p : Performance σ) : List Message :=
  let answer := openAnswer setup url p
  (begun name p).dialogue.channel.posted answer.emissions ++
    match answer.result with
    | .error _ => []
    | .ok () => (opened setup url name p).postedByItems setup (file.expansion name).items []

/-- What had arrived is forgotten when a test begins, and what is under way is not. -/
theorem pending_begun (name : String) (p : Performance σ) :
    (begun name p).dialogue.channel.pending = p.dialogue.channel.underWay := rfl

theorem carries_opened (name : String) (p : Performance σ) :
    Carries (begun name p).dialogue
      ((begun name p).dialogue.channel.posted (openAnswer setup url p).emissions) []
      (opened setup url name p).dialogue :=
  Performance.carries_answered ((begun name p).record (.opened url))
    (setup.world.openPage url p.world)

/-- **The account of a test.** -/
theorem carries_one (name : String) (p : Performance σ) :
    Carries (begun name p).dialogue (postedByTest setup file url name p)
      (chronicle setup file url name p).read (one setup file url name p).2.dialogue := by
  have opening := carries_opened setup url name p
  rw [one_eq_enact, chronicle, postedByTest]
  rcases (openAnswer setup url p).result with e | u
  · simpa [Chronicle.read] using opening
  · have talk := Performance.carries_recite setup (file.expansion name).items []
      (opened setup url name p)
    rw [← Performance.enact_snd] at talk
    dsimp only
    rcases he : (opened setup url name p).enact setup (file.expansion name) [] with ⟨e | left, q⟩
    · rw [he] at talk
      simpa [Chronicle.read] using opening.trans talk
    · rw [he] at talk
      have whole := opening.trans (talk.trans (Performance.carries_finish setup left q))
      simpa [Chronicle.read] using whole

/-! ## 3. All tests -/

/-- The messages that the page posts in answer to the calls of tests in a row. -/
def postedByTests (names : List String) (p : Performance σ) : List Message :=
  (stages setup file url names p).flatMap fun s => postedByTest setup file url s.1 s.2

/-- What is under way behind a test was under way before it or is posted in it. -/
theorem underWay_one (name : String) (p : Performance σ) :
    (one setup file url name p).2.dialogue.channel.underWay.Subperm
      (p.dialogue.channel.underWay ++ postedByTest setup file url name p) := by
  have account := carries_one setup file url name p
  rw [Carries, pending_begun] at account
  have late : (one setup file url name p).2.dialogue.channel.underWay.Sublist
      ((chronicle setup file url name p).read ++
        (one setup file url name p).2.dialogue.channel.pending) :=
    (List.sublist_append_right _ _).trans (List.sublist_append_right _ _)
  exact late.subperm.trans account.symm.subperm

/-- **What is under way behind tests in a row** was under way before them or is posted in one of
them. -/
theorem underWay_all (names : List String) (p : Performance σ) :
    (all setup file url names p).2.dialogue.channel.underWay.Subperm
      (p.dialogue.channel.underWay ++ postedByTests setup file url names p) := by
  -- what comes behind the first test, which leaves this much under way
  have behind {name : String} {p : Performance σ} {late posted : List Message}
      (rest : late.Subperm ((one setup file url name p).2.dialogue.channel.underWay ++ posted)) :
      late.Subperm
        (p.dialogue.channel.underWay ++ (postedByTest setup file url name p ++ posted)) := by
    rw [← List.append_assoc]
    exact rest.trans ((List.subperm_append_right _).2 (underWay_one setup file url name p))
  unfold postedByTests
  induction names, p using all_induction setup file url with
  | nil p => exact (List.sublist_append_left _ _).subperm
  | ok name names p hr ih =>
    rw [all_of_ok setup file url names hr, stages_of_ok setup file url names hr]
    exact behind ih
  | fatal name names p e hr hf =>
    rw [all_of_fatal setup file url names hr hf, stages_of_fatal setup file url names hr hf]
    exact behind (List.sublist_append_left _ _).subperm
  | goesOn name names p e hr hf ih =>
    rw [all_of_counted setup file url names hr hf, stages_of_counted setup file url names hr hf]
    exact behind ih

/-! ## 4. Leaks -/

/-- When as much goes out as comes in, what goes out is covered by one part of what comes in if
and only if what stays covers the other part. -/
theorem subperm_iff_of_perm {old own read left : List Message}
    (h : old ++ own ~ read ++ left) : read.Subperm own ↔ old.Subperm left := by
  have count (m : Message) : old.count m + own.count m = read.count m + left.count m := by
    have := h.count_eq m
    rwa [List.count_append, List.count_append] at this
  rw [List.subperm_iff_count, List.subperm_iff_count]
  constructor
  · intro covered m
    have balance := count m
    have := covered m
    omega
  · intro covered m
    have balance := count m
    have := covered m
    omega

/-- **Nothing leaks but what is under way.**  For a test that comes behind others in a run: what
is under way when it begins, and what the page posts in answer to its own calls, is what it reads
and what is pending when it ends.  So all that it reads is its own exactly if everything that was
under way is still pending when it ends, above all if nothing was under way; what had arrived
before makes no difference.  And what was under way was so before the run, or the page posted it
in answer to the calls of the tests before. -/
theorem read_own_unless_under_way (before after : List String) (name : String) (d : Dialogue)
    (w : σ) :
    let start := announced url (before ++ name :: after) ⟨d, w, 0, []⟩
    let p := (all setup file url before start).2
    let underWay := p.dialogue.channel.underWay
    let read := (chronicle setup file url name p).read
    let own := postedByTest setup file url name p
    let left := (one setup file url name p).2.dialogue.channel.pending
    underWay ++ own ~ read ++ left ∧
      (read.Subperm own ↔ underWay.Subperm left) ∧
      (underWay = [] → read.Subperm own) ∧
      underWay.Subperm (d.channel.underWay ++ postedByTests setup file url before start) := by
  intro start p underWay read own left
  have account : underWay ++ own ~ read ++ left := carries_one setup file url name p
  have covered := subperm_iff_of_perm account
  refine ⟨account, covered, ?_, underWay_all setup file url before start⟩
  intro none
  refine covered.2 ?_
  rw [none]
  exact List.nil_subperm

/-! ## 5. A leak -/

/-- Two tests that look for the same greeting. -/
def greetedTwice : TestFile :=
  ⟨[.testStart "one", .directive (.check ⟨"Hello", false⟩),
    .testStart "two", .directive (.check ⟨"Hello", false⟩)]⟩

/-- A page that greets twice when it is loaded first, the second time late, and then never. -/
def forgetfulPage : ScriptedPage where
  pages := [[[.emit (.now (.data (.bufferText "Hello"))),
      .emit (.later 20 (.data (.bufferText "Hello")))]], [[]]]
  disk := ⟨"", []⟩

/-- The performance behind the first of the tests. -/
def behindOne : Performance ScriptedPage :=
  (all ScriptedPage.setup greetedTwice "" ["one"]
    (announced "" ["one", "two"] ⟨{}, forgetfulPage, 0, []⟩)).2

/-- **A test may read what the page before it printed.**  The second test reads a text although
the page posts nothing in answer to its calls, and the run passes. -/
theorem read_from_page_before :
    (chronicle ScriptedPage.setup greetedTwice "" "two" behindOne).read =
        [.data (.bufferText "Hello")] ∧
      postedByTest ScriptedPage.setup greetedTwice "" "two" behindOne = [] ∧
      postedByTests ScriptedPage.setup greetedTwice "" ["one"]
          (announced "" ["one", "two"] ⟨{}, forgetfulPage, 0, []⟩) =
        [.data (.bufferText "Hello"), .data (.bufferText "Hello")] ∧
      (run ScriptedPage.setup greetedTwice "" [] ⟨{}, forgetfulPage, 0, []⟩).1 =
        .ok ⟨2, 0, [], []⟩ := by
  refine ⟨?_, ?_, ?_, ?_⟩
  · cbv
  · cbv
  · cbv
  · cbv

end Run
end Playtest
