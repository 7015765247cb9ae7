/-
# Messages under way

A message may be posted some time before it arrives, and it may be read some time after that.
Until then it is pending.  This file keeps the account of the channel that covers both stretches:
what is pending and what is posted is what is read and what is still pending then.

Waits take messages off the front of what is pending and the passing of time changes nothing in
it (`Channel.hear_pending`), so up to here the account is an equation of lists.  Only a message
that is posted with a delay may overtake others, and so the account of a whole conversation is
up to the order (`Carries`).
-/
import Playtest.Proofs.Run.Hearing

namespace Playtest

open scoped List

/-! ## 1. The channel -/

/-- The messages of emissions, until the page closes its end. -/
def Emission.messages : List Emission → List Message
  | [] => []
  | .now m :: es => m :: messages es
  | .later _ m :: es => m :: messages es
  | .close 0 :: _ => []
  | .close (_ + 1) :: es => messages es

namespace Channel

/-- The messages under way, in order of arrival. -/
def underWay (ch : Channel) : List Message := ch.scheduled.map Delivery.message

/-- The messages that are not read yet, in order of arrival. -/
def pending (ch : Channel) : List Message := ch.queue ++ ch.underWay

/-- The messages that the page posts with emissions.  When it has closed its end, it posts
none. -/
def posted (ch : Channel) (es : List Emission) : List Message :=
  if ch.isOpen then Emission.messages es else []

theorem posted_of_closed {ch : Channel} (h : ch.isOpen = false) (es : List Emission) :
    ch.posted es = [] := by
  rw [posted, h]
  rfl

theorem insert_perm (d : Delivery) (ds : List Delivery) : (insert d ds).Perm (d :: ds) := by
  induction ds with
  | nil => exact .refl _
  | cons e ds ih =>
    rw [insert]
    split
    · exact (ih.cons e).trans (.swap d e ds)
    · exact .refl _

/-- A message that is posted late is pending with the others. -/
theorem pending_postLater {ch : Channel} (h : ch.isOpen = true) (delay : Nat) (m : Message) :
    (ch.postLater delay m).pending.Perm (m :: ch.pending) := by
  have joined := (insert_perm ⟨ch.now + delay, m⟩ ch.scheduled).map Delivery.message
  rw [postLater, if_pos h]
  exact (joined.append_left ch.queue).trans List.perm_middle

/-- A message that is posted arrives before all that are under way. -/
theorem pending_post {ch : Channel} (h : ch.isOpen = true) (m : Message) :
    (ch.post m).pending.Perm (m :: ch.pending) := by
  rw [post, if_pos h, pending, List.append_assoc]
  exact List.perm_middle

/-- When the page has closed its end, no emission changes what is pending. -/
theorem emit_of_closed {ch : Channel} (h : ch.isOpen = false) (e : Emission) :
    (ch.emit e).isOpen = false ∧ (ch.emit e).pending = ch.pending := by
  cases e with
  | now m => simp [emit, post, h]
  | later delay m => simp [emit, postLater, h]
  | close delay => exact ⟨by simp [emit, h], rfl⟩

theorem pending_emitAll_of_closed {ch : Channel} (h : ch.isOpen = false) (es : List Emission) :
    (ch.emitAll es).pending = ch.pending := by
  induction es generalizing ch with
  | nil => rfl
  | cons e es ih =>
    have step : ch.emitAll (e :: es) = (ch.emit e).emitAll es := rfl
    obtain ⟨closed, same⟩ := emit_of_closed h e
    rw [step, ih closed, same]

/-- **What is posted is pending.** -/
theorem pending_emitAll (ch : Channel) (es : List Emission) :
    (ch.emitAll es).pending.Perm (ch.posted es ++ ch.pending) := by
  induction es generalizing ch with
  | nil =>
    have none : ch.posted [] = [] := ite_self _
    rw [none]
    exact .refl _
  | cons e es ih =>
    have step : ch.emitAll (e :: es) = (ch.emit e).emitAll es := rfl
    cases ho : ch.isOpen with
    | false =>
      rw [pending_emitAll_of_closed ho, posted_of_closed ho]
      exact .refl _
    | true =>
      have still (ch' : Channel) (h : ch'.isOpen = true) : ch'.posted es = Emission.messages es :=
        if_pos h
      rw [step, posted, if_pos ho]
      cases e with
      | now m =>
        have more := ih (ch.post m)
        rw [still _ (by simp [ho])] at more
        exact more.trans (((pending_post ho m).append_left _).trans List.perm_middle)
      | later delay m =>
        have more := ih (ch.postLater delay m)
        rw [still _ (by simp [ho])] at more
        exact more.trans (((pending_postLater ho delay m).append_left _).trans List.perm_middle)
      | close delay =>
        cases delay with
        | zero =>
          have closed : ch.close.isOpen = false := by simp
          exact .of_eq (pending_emitAll_of_closed closed es)
        | succ delay =>
          have more := ih (ch.close (delay + 1))
          rw [still _ (by simp [ho])] at more
          exact more

@[simp] theorem pending_arrive (ch : Channel) : ch.arrive.pending = ch.pending := by
  have whole : ch.due ++ (ch.scheduled.dropWhile fun d => d.due ≤ ch.now).map Delivery.message =
      ch.underWay := by
    rw [due, ← List.map_append, List.takeWhile_append_dropWhile]
    rfl
  have split : ch.arrive.pending = (ch.queue ++ ch.due) ++
      (ch.scheduled.dropWhile fun d => d.due ≤ ch.now).map Delivery.message := rfl
  rw [split, List.append_assoc, whole]
  rfl

@[simp] theorem pending_sleep (ch : Channel) (ms : Nat) : (ch.sleep ms).pending = ch.pending := by
  unfold sleep
  split
  · rfl
  · exact pending_arrive { ch with now := ch.now + ms - 1 }

/-- A wait that reads a message takes the first one that is pending. -/
theorem pending_receive {ch ch' : Channel} {deadline : Nat} {m : Message}
    (h : ch.receive deadline = (.message m, ch')) : ch.pending = m :: ch'.pending := by
  unfold receive at h
  split at h
  · next hq =>
    cases h
    rw [pending, hq]
    rfl
  · next hq =>
    split at h
    · split at h <;> cases h
    · next hs =>
      dsimp only at h
      split at h
      · cases h
        rw [pending_arrive, pending, hq, underWay, hs]
        rfl
      · cases h

/-- A wait that reads no message leaves all that is pending. -/
theorem pending_receive_none {ch ch' : Channel} {deadline : Nat} {ended : Received}
    (h : ch.receive deadline = (ended, ch')) (hm : ∀ m, ended ≠ .message m) :
    ch'.pending = ch.pending := by
  unfold receive at h
  split at h
  · cases h
    exact absurd rfl (hm _)
  · split at h
    · split at h <;> cases h <;> rfl
    · dsimp only at h
      split at h
      · cases h
        exact absurd rfl (hm _)
      · cases h
        rfl

/-- **Reading takes messages off the front** of what is pending. -/
theorem hear_pending (wanted : Message → Bool) (deadline : Nat) (ch : Channel) :
    ch.pending = (ch.hear wanted deadline).read ++ (ch.hear wanted deadline).channel.pending := by
  induction ch using hear_induction wanted deadline with
  | last ch ch' m h hw =>
    rw [hear_of_wanted h hw]
    exact pending_receive h
  | more ch ch' m h hw ih =>
    rw [hear_of_unwanted h hw, pending_receive h, ih]
    rfl
  | none ch ch' ended h hm =>
    rw [hear_of_none h hm]
    exact (pending_receive_none h hm).symm

end Channel

theorem Dialogue.hearing_pending (wanted : Message → Bool) (limit : Duration) (d : Dialogue) :
    d.channel.pending =
      (d.hearing wanted limit).read ++ (d.hearing wanted limit).channel.pending := by
  cases h : d.parked? with
  | some kind =>
    rw [hearing_of_parked h]
    rfl
  | none =>
    rw [hearing_of_free h]
    exact Channel.hear_pending wanted (d.deadline limit) d.channel

/-! ## 2. The account -/

/-- The account of a stretch of a conversation: the messages that were pending and those that
were posted are the messages that were read and those that are pending then. -/
def Carries (d : Dialogue) (posted read : List Message) (d' : Dialogue) : Prop :=
  d.channel.pending ++ posted ~ read ++ d'.channel.pending

namespace Carries

variable {d d' d'' : Dialogue} {posted posted' read read' : List Message}

theorem refl (d : Dialogue) : Carries d [] [] d := .of_eq (List.append_nil _)

/-- What follows without posting or reading anything. -/
theorem keeping (h : Carries d posted read d') (same : d''.channel.pending = d'.channel.pending) :
    Carries d posted read d'' := by
  rw [Carries, same]
  exact h

/-- Accounts of stretches add up. -/
theorem trans (h : Carries d posted read d') (h' : Carries d' posted' read' d'') :
    Carries d (posted ++ posted') (read ++ read') d'' := by
  calc d.channel.pending ++ (posted ++ posted')
      = (d.channel.pending ++ posted) ++ posted' := (List.append_assoc ..).symm
    _ ~ (read ++ d'.channel.pending) ++ posted' := h.append_right posted'
    _ = read ++ (d'.channel.pending ++ posted') := List.append_assoc ..
    _ ~ read ++ (read' ++ d''.channel.pending) := h'.append_left read
    _ = (read ++ read') ++ d''.channel.pending := (List.append_assoc ..).symm

end Carries

namespace Dialogue

/-- What the page emits is posted. -/
theorem carries_emitAll (es : List Emission) (d : Dialogue) :
    Carries d (d.channel.posted es) [] { d with channel := d.channel.emitAll es } :=
  List.perm_append_comm.trans (Channel.pending_emitAll d.channel es).symm

/-- A wait reads what it hears. -/
theorem carries_hearing (wanted : Message → Bool) (limit : Duration) {d d' : Dialogue}
    (heard : d'.channel = (d.hearing wanted limit).channel) :
    Carries d [] (d.hearing wanted limit).read d' := by
  rw [Carries, heard, List.append_nil]
  exact .of_eq (d.hearing_pending wanted limit)

theorem carries_nextRequest (limit : Duration) (d : Dialogue) :
    Carries d [] (d.hearing (·.request?.isSome) limit).read (d.nextRequest limit).2 := by
  refine carries_hearing _ limit ?_
  rw [nextRequest_eq]
  rfl

theorem carries_finalOutput (limit : Duration) (d : Dialogue) :
    Carries d [] (d.hearing Message.isData limit).read (d.finalOutput limit).2 := by
  refine carries_hearing _ limit ?_
  rw [finalOutput_eq]
  exact channel_parking _ _

/-- Draining reads what has arrived. -/
theorem carries_drain (d : Dialogue) : Carries d [] d.channel.queue d.drain := by
  have left : d.drain.channel.pending = d.channel.underWay := by
    rw [drain_eq]
    rfl
  rw [Carries, left, List.append_nil]
  exact .refl _

end Dialogue
end Playtest
