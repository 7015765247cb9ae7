/-
# The members of an object, one after another

Keystrokes and events are both read from the members of an object, in the order in which they are
written.  What differs is what is done with the value of a member, and what has been read so far
(`walk`).  For every reader of this kind, two things hold on a grammatical object, whatever its
blanks are and however its names are written.

* If the reader can take each member where it stands, then it reads the object to its end
  (`walk_object`).
* If it reads the object, then it has taken each of the members, from the first one to the last
  one (`course_of_walk`).  It need only pass over what it takes (`Orderly`).

So a whole text that is an object is read exactly if its members can be taken one after another and
something can be made of what has been read (`WalksObjects.decode_of_course`,
`WalksObjects.course_of_decode`).

What a reader has of one name can then be counted.  If it keeps the value of a name and refuses a
second one (`Keeps`), then in the end it has the value of the one member with this name.
-/
import Playtest.Bridge.Message
import Playtest.Proofs.Json.InPlace

namespace Playtest
namespace Wire

open Json

/-! ## 1. Walking -/

section

variable {ε ε' α β : Type}

theorem toOption_ok (a : α) : (Except.ok a : Except ε α).toOption = some a := rfl

theorem toOption_eq_some {x : Except ε α} {a : α} : x.toOption = some a ↔ x = .ok a := by
  cases x <;> simp [Except.toOption]

theorem toOption_bind (x : Except ε α) (f : α → Except ε β) :
    (x >>= f).toOption = x.toOption.bind fun a => (f a).toOption := by
  cases x <;> rfl

theorem toOption_mapError (x : Except ε α) (f : ε → ε') : (x.mapError f).toOption = x.toOption := by
  cases x <;> rfl

/-- A value is read behind its colon, wherever faults are placed. -/
theorem toOption_value {xs : List Lexeme} {read : List Lexeme → Except Fault α} {f : Fault → ε}
    {next : α → Except ε β} :
    ((colon xs >>= read).mapError f >>= next).toOption = (colon xs).toOption.bind fun left =>
      (read left).toOption.bind fun a => (next a).toOption := by
  rw [toOption_bind, toOption_mapError, toOption_bind, Option.bind_assoc]

end

section

variable {σ : Type} (take : σ → String → List Lexeme → Option (σ × List Lexeme))

/-- Reads the members of an object, one per unit of fuel.  `take` does with the value of a member
what is to be done with it, and `s` is what has been read so far.  Gives what has been read in the
end, and the lexemes from the end of the object on. -/
def walk (fuel : Nat) (isFirst : Bool) (s : σ) (xs : List Lexeme) : Option (σ × List Lexeme) :=
  match fuel with
  | 0 => none
  | fuel + 1 =>
    match nextMember isFirst xs with
    | .error _ => none
    | .ok (.ended xs) => some (s, xs)
    | .ok (.here xs) => do
      let (name, xs) ← (key xs).toOption
      let xs ← (colon xs).toOption
      let (s, xs) ← take s name xs
      walk fuel false s xs

/-- The reader takes this member where it stands, and the value is a single lexeme. -/
def Takes (s : σ) (m : Member) (s' : σ) : Prop :=
  ∃ name, m.Names name ∧ ∀ rest, Ends rest → ∃ x,
    lexemes (m.item.value ++ rest) = x :: lexemes rest ∧
    take s name (x :: lexemes rest) = some (s', lexemes rest)

/-- The reader has taken this member. -/
def Took (s : σ) (m : Member) (s' : σ) : Prop :=
  ∃ name rest left, m.Names name ∧ Ends rest ∧
    take s name (lexemes (m.item.value ++ rest)) = some (s', left)

/-- What is taken could also have been passed over. -/
def Orderly : Prop :=
  ∀ ⦃s name xs s' left⦄, take s name xs = some (s', left) → skipValue xs = .ok left

end

/-- One member after another. -/
inductive Course {σ : Type} (R : σ → Member → σ → Prop) : σ → List Member → σ → Prop where
  | nil (s : σ) : Course R s [] s
  | cons {s s' s'' : σ} {m : Member} {ms : List Member} (first : R s m s')
      (others : Course R s' ms s'') : Course R s (m :: ms) s''

theorem Course.append {σ : Type} {R : σ → Member → σ → Prop} {s s' s'' : σ}
    {ms ms' : List Member} (h : Course R s ms s') (h' : Course R s' ms' s'') :
    Course R s (ms ++ ms') s'' := by
  induction h with
  | nil => exact h'
  | cons first _ ih => exact .cons first (ih h')

/-- Members that change nothing. -/
theorem Course.idle {σ : Type} {R : σ → Member → σ → Prop} {s : σ} {ms : List Member}
    (h : ∀ m ∈ ms, R s m s) : Course R s ms s := by
  induction ms with
  | nil => exact .nil s
  | cons m ms ih =>
    obtain ⟨first, others⟩ := List.forall_mem_cons.1 h
    exact .cons first (ih others)

/-- Two members stand among others in one order or in the other one. -/
theorem exists_split_of_perm {a b : Member} {others ms : List Member}
    (h : ms.Perm (a :: b :: others)) :
    ∃ before between behind,
      (∀ m, m ∈ before ∨ m ∈ between ∨ m ∈ behind → m ∈ others) ∧
      (ms = before ++ a :: (between ++ b :: behind) ∨
        ms = before ++ b :: (between ++ a :: behind)) := by
  obtain ⟨l, r, rfl⟩ := List.append_of_mem (h.mem_iff.2 List.mem_cons_self)
  have without : (l ++ r).Perm (b :: others) := (List.perm_middle.symm.trans h).cons_inv
  have hb : b ∈ l ++ r := without.mem_iff.2 List.mem_cons_self
  rcases List.mem_append.1 hb with hb | hb
  · obtain ⟨p, q, rfl⟩ := List.append_of_mem hb
    have middle : (p ++ b :: q ++ r).Perm (b :: (p ++ (q ++ r))) := by
      rw [List.append_assoc]
      exact List.perm_middle
    have left := (middle.symm.trans without).cons_inv
    exact ⟨p, q, r, fun m hm => left.mem_iff.1 (by simpa using hm), .inr (by simp)⟩
  · obtain ⟨q, r', rfl⟩ := List.append_of_mem hb
    have middle : (l ++ (q ++ b :: r')).Perm (b :: (l ++ (q ++ r'))) := by
      rw [← List.append_assoc, ← List.append_assoc]
      exact List.perm_middle
    have left := (middle.symm.trans without).cons_inv
    exact ⟨l, q, r', fun m hm => left.mem_iff.1 (by simpa using hm), .inl rfl⟩

/-! ## 2. The lexemes of members -/

section

variable {m : Member} {ms : List Member}

/-- What stands behind the sign that opens an object. -/
def insideText (inner : List Char) (ms : List Member) (rest : List Char) : List Char :=
  inner ++ (Text.joinWith [','] (ms.map Member.text) ++ '\x7d' :: rest)

/-- The members behind the first one, up to the end of the object. -/
def onward (ms : List Member) (rest : List Char) : List Char :=
  ms.flatMap (fun m => ',' :: m.text) ++ '\x7d' :: rest

theorem onward_cons (m : Member) (ms : List Member) (rest : List Char) :
    onward (m :: ms) rest = ',' :: (m.text ++ onward ms rest) := by
  simp [onward]

theorem lexemes_inside_cons {inner : List Char} (h : IsBlank inner) (m : Member)
    (ms : List Member) (rest : List Char) :
    lexemes (insideText inner (m :: ms) rest) = lexemes (m.text ++ onward ms rest) := by
  rw [insideText, lexemes_blank h]
  simp [onward, Text.joinWith_cons, List.flatMap_map]

theorem ends_onward (ms : List Member) (rest : List Char) : Ends (onward ms rest) :=
  ends_items '\x7d' (by simp) ms Member.text rest

/-- The lexemes of an object, from the sign that opens it on. -/
theorem lexemes_object {s : List Char} (h : IsObject s ms) :
    ∃ inner behind start after, IsBlank inner ∧ IsBlank behind ∧
      lexemes s = ⟨.openObject, start, after⟩ :: lexemes (insideText inner ms behind) := by
  obtain ⟨-, before, inner, behind, hb, hi, hd, rfl⟩ := h
  have flat : before ++ (objectText inner ms ++ behind) =
      before ++ '\x7b' :: insideText inner ms behind := by
    simp [objectText, insideText]
  rw [flat, lexemes_blank hb]
  exact ⟨inner, behind, _, _, hi, hd, lexemes_sign rfl _⟩

theorem nextMember_first (h : m.IsProper) (tail : List Char) :
    nextMember true (lexemes (m.text ++ tail)) = .ok (.here (lexemes (m.text ++ tail))) := by
  obtain ⟨q, r, c, d, cut⟩ := lexemes_member h.padded h.key tail
  rw [cut]
  rfl

theorem nextMember_onward (h : m.IsProper) (ms : List Member) (rest : List Char) :
    nextMember false (lexemes (onward (m :: ms) rest)) =
      .ok (.here (lexemes (m.text ++ onward ms rest))) := by
  obtain ⟨q, r, c, d, cut⟩ := lexemes_member h.padded h.key (onward ms rest)
  rw [onward_cons, lexemes_sign rfl, cut]
  rfl

theorem nextMember_end (isFirst : Bool) (rest : List Char) :
    nextMember isFirst (lexemes ('\x7d' :: rest)) = .ok (.ended (lexemes ('\x7d' :: rest))) := by
  rw [lexemes_sign rfl]
  rfl

end

/-! ## 3. Walking through an object -/

section

variable {σ : Type} {take : σ → String → List Lexeme → Option (σ × List Lexeme)} {s s' : σ}
  {m : Member} {ms : List Member} {rest : List Char}

/-- One member on the way. -/
theorem walk_member (h : m.IsProper) {tail : List Char} {fuel : Nat} {isFirst : Bool}
    {xs : List Lexeme} (here : nextMember isFirst xs = .ok (.here (lexemes (m.text ++ tail)))) :
    walk take (fuel + 1) isFirst s xs = (spelled? m.key).bind fun name =>
      (take s name (lexemes (m.item.value ++ (m.item.behind ++ tail)))).bind fun p =>
        walk take fuel false p.1 p.2 := by
  obtain ⟨q, r, c, d, cut⟩ := lexemes_member h.padded h.key tail
  rw [walk, here, cut]
  simp only [← toOption_textAt h.key r]
  cases worth : textAt m.key r with
  | error f => simp [key, keyOf, Except.toOption, bind, Except.bind]
  | ok name => simp [key, keyOf, colon, Except.toOption, bind, Except.bind]

theorem walk_end (fuel : Nat) (isFirst : Bool) (rest : List Char) :
    walk take (fuel + 1) isFirst s (lexemes ('\x7d' :: rest)) =
      some (s, lexemes ('\x7d' :: rest)) := by
  rw [walk, nextMember_end]

/-- A member that the reader can take, on the way. -/
theorem walk_takes (h : Takes take s m s') (proper : m.IsProper) {tail : List Char}
    (ends : Ends tail) {fuel : Nat} {isFirst : Bool} {xs : List Lexeme}
    (here : nextMember isFirst xs = .ok (.here (lexemes (m.text ++ tail)))) :
    walk take (fuel + 1) isFirst s xs = walk take fuel false s' (lexemes tail) := by
  obtain ⟨name, names, takes⟩ := h
  have padded := proper.padded.2.2.2
  obtain ⟨x, single, taken⟩ := takes _ (padded.ends ends)
  rw [walk_member proper here, spelled?_of_spells names, String.ofList_toList, Option.bind_some,
    single, taken, Option.bind_some, lexemes_blank padded]

/-- There are more lexemes than members. -/
theorem length_lt_lexemes (h : Course (Takes take) s ms s') (proper : ∀ m ∈ ms, m.IsProper)
    (rest : List Char) : ms.length < (lexemes (onward ms rest)).length := by
  induction h with
  | nil =>
    rw [onward, List.flatMap_nil, List.nil_append, lexemes_sign rfl]
    exact Nat.zero_lt_succ _
  | @cons s s₁ s₂ m ms first others ih =>
    obtain ⟨hm, proper⟩ := List.forall_mem_cons.1 proper
    have below := ih proper
    obtain ⟨q, r, c, d, cut⟩ := lexemes_member hm.padded hm.key (onward ms rest)
    obtain ⟨name, -, takes⟩ := first
    obtain ⟨x, single, -⟩ := takes _ (hm.padded.2.2.2.ends (ends_onward ms rest))
    rw [onward_cons, lexemes_sign rfl, cut, single, lexemes_blank hm.padded.2.2.2]
    simp only [List.length_cons]
    omega

/-- The reader reads on to the end of the object. -/
theorem walk_onward (h : Course (Takes take) s ms s') (proper : ∀ m ∈ ms, m.IsProper)
    {fuel : Nat} (enough : ms.length < fuel) (rest : List Char) :
    walk take fuel false s (lexemes (onward ms rest)) = some (s', lexemes ('\x7d' :: rest)) := by
  induction h generalizing fuel with
  | nil s =>
    obtain ⟨fuel, rfl⟩ := Nat.exists_eq_succ_of_ne_zero (Nat.ne_of_gt enough)
    exact walk_end fuel false rest
  | @cons s s₁ s₂ m ms first others ih =>
    obtain ⟨fuel, rfl⟩ := Nat.exists_eq_succ_of_ne_zero (Nat.ne_zero_of_lt enough)
    obtain ⟨hm, proper⟩ := List.forall_mem_cons.1 proper
    rw [walk_takes first hm (ends_onward ms rest) (nextMember_onward hm ms rest)]
    exact ih proper (Nat.lt_of_succ_lt_succ enough)

/-- **A reader that can take each member reads the object to its end**, if it has as much fuel as
there are lexemes. -/
theorem walk_object (h : Course (Takes take) s ms s') (proper : ∀ m ∈ ms, m.IsProper)
    {inner : List Char} (hi : IsBlank inner) (rest : List Char) :
    walk take ((lexemes (insideText inner ms rest)).length + 1) true s
        (lexemes (insideText inner ms rest)) = some (s', lexemes ('\x7d' :: rest)) := by
  cases h with
  | nil =>
    rw [insideText, lexemes_blank hi]
    exact walk_end _ true rest
  | @cons _ s₁ _ m ms first others =>
    obtain ⟨hm, others_proper⟩ := List.forall_mem_cons.1 proper
    have enough : ms.length < (lexemes (insideText inner (m :: ms) rest)).length := by
      have below := length_lt_lexemes (.cons first others) proper rest
      rw [onward_cons, lexemes_sign rfl, ← lexemes_inside_cons hi] at below
      simp only [List.length_cons] at below
      omega
    rw [walk_takes first hm (ends_onward ms rest)]
    · exact walk_onward others others_proper enough rest
    · rw [lexemes_inside_cons hi]
      exact nextMember_first hm (onward ms rest)

/-- A member that the reader has passed, it has taken, and it goes on behind it. -/
theorem took_of_walk (orderly : Orderly take) (proper : m.IsProper) {tail : List Char}
    (ends : Ends tail) {fuel : Nat} {isFirst : Bool} {xs left : List Lexeme}
    (here : nextMember isFirst xs = .ok (.here (lexemes (m.text ++ tail))))
    (h : walk take (fuel + 1) isFirst s xs = some (s', left)) :
    ∃ s₁, Took take s m s₁ ∧ walk take fuel false s₁ (lexemes tail) = some (s', left) := by
  rw [walk_member proper here] at h
  obtain ⟨name, spelled, h⟩ := Option.bind_eq_some_iff.1 h
  obtain ⟨⟨s₁, behind⟩, taken, h⟩ := Option.bind_eq_some_iff.1 h
  have padded := proper.padded.2.2.2
  have behindValue := padded.ends ends
  have place := orderly taken
  rw [proper.value.skipped behindValue, lexemes_blank padded] at place
  cases place
  exact ⟨s₁, ⟨name, _, _, (spelled?_eq_some_iff proper.key).1 spelled, behindValue, taken⟩, h⟩

theorem course_of_walk_onward (orderly : Orderly take) (proper : ∀ m ∈ ms, m.IsProper)
    {fuel : Nat} {left : List Lexeme}
    (h : walk take fuel false s (lexemes (onward ms rest)) = some (s', left)) :
    Course (Took take) s ms s' ∧ left = lexemes ('\x7d' :: rest) := by
  induction ms generalizing fuel s with
  | nil =>
    cases fuel with
    | zero => cases h
    | succ fuel =>
      rw [onward, List.flatMap_nil, List.nil_append, walk_end] at h
      cases h
      exact ⟨.nil _, rfl⟩
  | cons m ms ih =>
    cases fuel with
    | zero => cases h
    | succ fuel =>
      obtain ⟨hm, proper⟩ := List.forall_mem_cons.1 proper
      obtain ⟨s₁, first, h⟩ :=
        took_of_walk orderly hm (ends_onward ms rest) (nextMember_onward hm ms rest) h
      obtain ⟨others, place⟩ := ih proper h
      exact ⟨.cons first others, place⟩

/-- **A reader that has read the object has taken each member of it.** -/
theorem course_of_walk (orderly : Orderly take) (proper : ∀ m ∈ ms, m.IsProper)
    {inner : List Char} (hi : IsBlank inner) {fuel : Nat} {left : List Lexeme}
    (h : walk take fuel true s (lexemes (insideText inner ms rest)) = some (s', left)) :
    Course (Took take) s ms s' ∧ left = lexemes ('\x7d' :: rest) := by
  cases fuel with
  | zero => cases h
  | succ fuel =>
    cases ms with
    | nil =>
      rw [insideText, lexemes_blank hi] at h
      rw [show Text.joinWith [','] (([] : List Member).map Member.text) ++ '\x7d' :: rest =
        '\x7d' :: rest from rfl, walk_end] at h
      cases h
      exact ⟨.nil _, rfl⟩
    | cons m ms =>
      obtain ⟨hm, proper⟩ := List.forall_mem_cons.1 proper
      rw [lexemes_inside_cons hi] at h
      obtain ⟨s₁, first, h⟩ :=
        took_of_walk orderly hm (ends_onward ms rest) (nextMember_first hm (onward ms rest)) h
      obtain ⟨others, place⟩ := course_of_walk_onward orderly proper h
      exact ⟨.cons first others, place⟩

end

/-! ## 4. Whole texts -/

theorem of_finish {α : Type} {a b : α} {xs : List Lexeme} (h : finish a xs = .ok b) : a = b := by
  cases xs with
  | nil =>
    cases h
    rfl
  | cons x xs => cases h

/-- The reader walks through an object from `start` on, and `done` makes something of what has
been read in the end. -/
def WalksObjects {σ α : Type} (read : List Lexeme → Except Fault (α × List Lexeme))
    (take : σ → String → List Lexeme → Option (σ × List Lexeme)) (start : σ) (done : σ → Option α) :
    Prop :=
  ∀ before after xs, (read (⟨.openObject, before, after⟩ :: xs)).toOption =
    (walk take (xs.length + 1) true start xs).bind fun p =>
      (done p.1).map fun a => (a, p.2.drop 1)

namespace WalksObjects

variable {σ α : Type} {read : List Lexeme → Except Fault (α × List Lexeme)}
  {take : σ → String → List Lexeme → Option (σ × List Lexeme)} {start : σ} {done : σ → Option α}
  {text : String} {ms : List Member} {a : α}

/-- If each member can be taken and something can be made of them, the text is read. -/
theorem decode_of_course (walks : WalksObjects read take start done)
    (object : IsObject text.toList ms) {s : σ} (course : Course (Takes take) start ms s)
    (made : done s = some a) : decode read text = .ok a := by
  obtain ⟨inner, behind, before, after, hi, hd, cut⟩ := lexemes_object object
  have taken := walks before after (lexemes (insideText inner ms behind))
  rw [walk_object course object.1 hi behind, Option.bind_some, made, Option.map_some,
    lexemes_sign rfl, List.drop_one, List.tail_cons, lexemes_only_blank hd] at taken
  rw [decode, cut, toOption_eq_some.1 taken]
  rfl

/-- If the text is read, each member has been taken and something has been made of them. -/
theorem course_of_decode (walks : WalksObjects read take start done) (orderly : Orderly take)
    (object : IsObject text.toList ms) (h : decode read text = .ok a) :
    ∃ s, Course (Took take) start ms s ∧ done s = some a := by
  obtain ⟨inner, behind, before, after, hi, -, cut⟩ := lexemes_object object
  have decoded := toOption_eq_some.2 h
  rw [decode, cut, toOption_bind, walks] at decoded
  obtain ⟨⟨b, left⟩, taken, finished⟩ := Option.bind_eq_some_iff.1 decoded
  obtain ⟨⟨s, ended⟩, walked, made⟩ := Option.bind_eq_some_iff.1 taken
  obtain ⟨c, done, same⟩ := Option.map_eq_some_iff.1 made
  cases same
  cases of_finish (toOption_eq_some.1 finished)
  exact ⟨s, (course_of_walk orderly object.1 hi walked).1, done⟩

end WalksObjects

/-! ## 5. Members of one name -/

/-- The members with this name, in whatever way it is written. -/
def called (field : String) (ms : List Member) : List Member :=
  ms.filter fun m => spelled? m.key = some field

/-- A member of no interest: a string, under none of these names. -/
def IsAdditional (fields : List String) (m : Member) : Prop :=
  ∃ name text, m.Names name ∧ name ∉ fields ∧ m.Holds text

/-- There is no member with this name. -/
def Lacks (field : String) (ms : List Member) : Prop := ∀ m ∈ ms, ¬m.Names field

/-- There are two members with this name. -/
def Repeats (field : String) (ms : List Member) : Prop :=
  ∃ m m', [m, m'].Sublist ms ∧ m.Names field ∧ m'.Names field

/-- There is a member with this name whose value is a string that is none of these. -/
def Strays (field : String) (known : List String) (ms : List Member) : Prop :=
  ∃ m ∈ ms, m.Names field ∧ ∃ text, m.Holds text ∧ text ∉ known

section

variable {field : String} {m m' : Member} {ms : List Member}

theorem spelled?_of_names (h : m.Names field) : spelled? m.key = some field := by
  rw [spelled?_of_spells h, String.ofList_toList]

theorem eq_of_names {other : String} (h : m.Names field) (h' : m.Names other) : field = other := by
  have same := spelled?_of_names h
  rw [spelled?_of_names h'] at same
  exact (Option.some.inj same).symm

theorem called_cons_of_names (h : m.Names field) :
    called field (m :: ms) = m :: called field ms :=
  List.filter_cons_of_pos (by simp [spelled?_of_names h])

theorem called_cons_of_not_names (body : IsBody m.key) (h : ¬m.Names field) :
    called field (m :: ms) = called field ms :=
  List.filter_cons_of_neg (by simpa [spelled?_eq_some_iff body, Member.Names] using h)

theorem mem_called (hm : m ∈ ms) (h : m.Names field) : m ∈ called field ms :=
  List.mem_filter.2 ⟨hm, by simp [spelled?_of_names h]⟩

theorem called_of_lacks (proper : ∀ m ∈ ms, m.IsProper) (h : Lacks field ms) :
    called field ms = [] := by
  refine List.filter_eq_nil_iff.2 fun m hm spelled => ?_
  exact h m hm ((spelled?_eq_some_iff (proper m hm).key).1 (of_decide_eq_true spelled))

theorem two_le_called (h : Repeats field ms) : 2 ≤ (called field ms).length := by
  obtain ⟨a, b, two, ha, hb⟩ := h
  have both := (two.filter fun m => decide (spelled? m.key = some field)).length_le
  simpa [spelled?_of_names ha, spelled?_of_names hb, called] using both

theorem not_lacks_of_called (proper : ∀ m ∈ ms, m.IsProper) (h : called field ms = [m]) :
    ¬Lacks field ms := by
  intro lacks
  rw [called_of_lacks proper lacks] at h
  cases h

theorem not_repeats_of_called (h : called field ms = [m]) : ¬Repeats field ms := by
  intro repeats
  have two := two_le_called repeats
  rw [h, List.length_singleton] at two
  omega

theorem eq_of_called (h : called field ms = [m]) (hm : m' ∈ ms) (named : m'.Names field) :
    m' = m := by
  have member := mem_called hm named
  rw [h] at member
  exact List.mem_singleton.1 member

end

/-- What the value of a member may be read as, by this reader. -/
def Worth {α : Type} (read : List Lexeme → Except Fault (α × List Lexeme)) (m : Member) (a : α) :
    Prop :=
  ∃ rest left, Ends rest ∧ read (lexemes (m.item.value ++ rest)) = .ok (a, left)

/-- What has been read under one name is kept in `slot`: a member with the name fills it if it is
empty, and no other member touches it.  `worth` is what the value of a member may be read as. -/
structure Keeps {σ α : Type} (R : σ → Member → σ → Prop) (field : String) (slot : σ → Option α)
    (worth : Member → α → Prop) : Prop where
  fills : ∀ {s m s'}, R s m s' → m.Names field → slot s = none ∧ ∃ a, slot s' = some a ∧ worth m a
  leaves : ∀ {s m s'}, R s m s' → ¬m.Names field → slot s' = slot s

namespace Keeps

variable {σ α : Type} {R : σ → Member → σ → Prop} {field : String} {slot : σ → Option α}
  {worth : Member → α → Prop} {s s' : σ} {ms : List Member} {a : α}

/-- Once filled, the name does not occur again. -/
theorem full (keeps : Keeps R field slot worth) (course : Course R s ms s')
    (proper : ∀ m ∈ ms, m.IsProper) (h : slot s = some a) :
    called field ms = [] ∧ slot s' = some a := by
  induction course with
  | nil => exact ⟨rfl, h⟩
  | @cons s s₁ s₂ m ms first others ih =>
    obtain ⟨hm, proper⟩ := List.forall_mem_cons.1 proper
    by_cases named : m.Names field
    · rw [(keeps.fills first named).1] at h
      cases h
    · rw [called_cons_of_not_names hm.key named]
      exact ih proper ((keeps.leaves first named).trans h)

/-- **What has been filled has been filled by the one member with the name.** -/
theorem filled (keeps : Keeps R field slot worth) (course : Course R s ms s')
    (proper : ∀ m ∈ ms, m.IsProper) (empty : slot s = none) (h : slot s' = some a) :
    ∃ m, called field ms = [m] ∧ worth m a := by
  induction course with
  | nil =>
    rw [empty] at h
    cases h
  | @cons s s₁ s₂ m ms first others ih =>
    obtain ⟨hm, proper⟩ := List.forall_mem_cons.1 proper
    by_cases named : m.Names field
    · obtain ⟨-, b, value, worth⟩ := keeps.fills first named
      obtain ⟨none, kept⟩ := keeps.full others proper value
      rw [h] at kept
      cases kept
      rw [called_cons_of_names named, none]
      exact ⟨m, rfl, worth⟩
    · rw [called_cons_of_not_names hm.key named]
      exact ih proper ((keeps.leaves first named).trans empty) h

end Keeps

end Wire
end Playtest
