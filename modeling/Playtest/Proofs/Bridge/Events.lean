/-
# Events on the wire

The field `type` names the form of an event and may stand anywhere in its object.  So the other
members are held until the object has ended, and the form takes its own field from them.  An event
is read exactly if there is one member for the form and, among the others, one for the field of
the form, and each of them can be read.
-/
import Playtest.Proofs.Bridge.Fields
import Playtest.Proofs.Bridge.Members

namespace Playtest
namespace BridgeEvent

open Json (Lexeme Member Ends Value lexemes)
open Wire (toOption_bind toOption_eq_some toOption_mapError toOption_ok)

/-! ## 1. The members -/

/-- What has been read of an event: its form, and the other members. -/
abbrev Read := Option Form × List (String × Value)

/-- Reads a value that is held for the form. -/
def readHeld (xs : List Lexeme) : Except Json.Fault (Value × List Lexeme) :=
  Json.readValue (Json.maxDepth - 1) xs

/-- What is done with the value of a member. -/
def take (s : Read) (name : String) (xs : List Lexeme) : Option (Read × List Lexeme) :=
  if name = "type" then
    if s.1.isSome then none else (readForm xs).toOption.map fun p => ((some p.1, s.2), p.2)
  else (readHeld xs).toOption.map fun p => ((s.1, s.2 ++ [(name, p.1)]), p.2)

theorem readMembers_eq (fuel : Nat) (isFirst : Bool) (s : Read) (xs : List Lexeme) :
    (readMembers fuel isFirst s.1 s.2 xs).toOption =
      (Wire.walk take fuel isFirst s xs).bind fun p =>
        p.1.1.map fun form => ((form, p.1.2), p.2) := by
  induction fuel generalizing isFirst s xs with
  | zero => rfl
  | succ fuel ih =>
    obtain ⟨form?, held⟩ := s
    rw [readMembers, Wire.walk]
    cases Wire.nextMember isFirst xs with
    | error f => rfl
    | ok entry =>
      cases entry with
      | ended xs => cases form? <;> rfl
      | here xs =>
        simp only [toOption_bind, toOption_mapError, toOption_ok, Option.bind_some,
          Option.bind_eq_bind, Option.bind_assoc]
        congr 1
        funext p
        obtain ⟨key, xs⟩ := p
        by_cases tag : key = "type"
        · subst tag
          cases form? with
          | some form => cases (Wire.colon xs).toOption <;> rfl
          | none =>
            refine Wire.toOption_value.trans ?_
            congr 1
            funext left
            simp only [take, if_true, Option.isSome_none, Bool.false_eq_true, if_false]
            cases (readForm left).toOption with
            | none => rfl
            | some q => exact ih false (some q.1, held) q.2
        · simp only [if_neg tag]
          refine Wire.toOption_value.trans ?_
          congr 1
          funext left
          simp only [take, if_neg tag, readHeld]
          cases (Json.readValue (Json.maxDepth - 1) left).toOption with
          | none => rfl
          | some q => exact ih false (form?, held ++ [(key, q.1)]) q.2

/-- The event, if the form is known and finds its field among the other members. -/
def complete? (s : Read) : Option BridgeEvent :=
  s.1.bind fun form => (ofMembers form none s.2).toOption

theorem walksObjects : Wire.WalksObjects read take (none, []) complete? := by
  intro before after xs
  have reads : (read (⟨.openObject, before, after⟩ :: xs)).toOption =
      (readMembers (xs.length + 1) true none [] xs).toOption.bind fun p =>
        (ofMembers p.1.1 none p.1.2).toOption.map fun event => (event, p.2.drop 1) := by
    simp only [read]
    cases readMembers (xs.length + 1) true none [] xs with
    | error f => rfl
    | ok p =>
      obtain ⟨⟨form, held⟩, left⟩ := p
      simp only [toOption_ok, Option.bind_some]
      cases ofMembers form none held <;> rfl
  rw [reads, readMembers_eq _ _ (none, []), Option.bind_assoc]
  congr 1
  funext p
  obtain ⟨⟨form?, held⟩, left⟩ := p
  cases form? <;> rfl

/-! ## 2. What is taken -/

theorem of_readForm {form : Form} {xs left : List Lexeme} (h : readForm xs = .ok (form, left)) :
    ∃ s t, xs = ⟨.string (.ok form.tag), s, t⟩ :: left := by
  simp only [readForm, bind_eq_ok] at h
  obtain ⟨p, read, found, named, h⟩ := h
  cases h
  obtain ⟨-, s, t, rfl⟩ := Wire.of_variant read
  refine ⟨s, t, ?_⟩
  rw [Wire.of_named named]

/-- Everything that can be done with the value of a member. -/
theorem of_take {s s' : Read} {name : String} {xs left : List Lexeme}
    (h : take s name xs = some (s', left)) :
    (name = "type" ∧ s.1 = none ∧
      ∃ form, readForm xs = .ok (form, left) ∧ s' = (some form, s.2)) ∨
    (name ≠ "type" ∧ ∃ v, readHeld xs = .ok (v, left) ∧ s' = (s.1, s.2 ++ [(name, v)])) := by
  unfold take at h
  split at h
  · next isTag =>
    split at h
    · cases h
    · next empty =>
      obtain ⟨⟨form, behind⟩, read, same⟩ := Option.map_eq_some_iff.1 h
      cases same
      exact .inl ⟨isTag, Option.not_isSome_iff_eq_none.1 empty, form, toOption_eq_some.1 read, rfl⟩
  · next isOther =>
    obtain ⟨⟨v, behind⟩, read, same⟩ := Option.map_eq_some_iff.1 h
    cases same
    exact .inr ⟨isOther, v, toOption_eq_some.1 read, rfl⟩

theorem orderly_take : Wire.Orderly take := by
  intro s name xs s' left taken
  rcases of_take taken with ⟨-, -, form, read, -⟩ | ⟨-, v, read, -⟩
  · obtain ⟨start, after, rfl⟩ := of_readForm read
    rfl
  · exact Json.skipValue_of_read read

theorem keeps_form : Wire.Keeps (Wire.Took take) "type" Prod.fst (Wire.Worth readForm) := by
  constructor
  · rintro s m s' ⟨name, rest, left, names, ends, taken⟩ named
    cases Wire.eq_of_names names named
    rcases of_take taken with ⟨-, empty, form, read, rfl⟩ | ⟨other, -⟩
    · exact ⟨empty, form, rfl, rest, left, ends, read⟩
    · exact absurd rfl other
  · rintro s m s' ⟨name, rest, left, names, ends, taken⟩ unnamed
    rcases of_take taken with ⟨same, -⟩ | ⟨-, v, -, rfl⟩
    · exact absurd (same ▸ names) unnamed
    · rfl

/-- The members that are held for the form, under each name. -/
theorem held_of_course {s s' : Read} {ms : List Member}
    (course : Wire.Course (Wire.Took take) s ms s') (proper : ∀ m ∈ ms, m.IsProper) :
    ∃ held, s'.2 = s.2 ++ held ∧ ∀ field, field ≠ "type" →
      List.Forall₂ (fun m p => p.1 = field ∧ Wire.Worth readHeld m p.2) (Wire.called field ms)
        (held.filter fun p => p.1 = field) := by
  induction course with
  | nil s => exact ⟨[], (List.append_nil _).symm, fun _ _ => .nil⟩
  | @cons s s₁ s₂ m ms first others ih =>
    obtain ⟨hm, proper⟩ := List.forall_mem_cons.1 proper
    obtain ⟨held, same, each⟩ := ih proper
    obtain ⟨name, rest, left, names, ends, taken⟩ := first
    have unnamed {field : String} (h : name ≠ field) : ¬m.Names field :=
      fun named => h (Wire.eq_of_names names named)
    rcases of_take taken with ⟨rfl, -, form, -, rfl⟩ | ⟨other, v, read, rfl⟩
    · refine ⟨held, same, fun field hf => ?_⟩
      rw [Wire.called_cons_of_not_names hm.key (unnamed hf.symm)]
      exact each field hf
    · refine ⟨(name, v) :: held, by rw [same]; simp, fun field hf => ?_⟩
      by_cases here : name = field
      · subst here
        rw [Wire.called_cons_of_names names, List.filter_cons_of_pos (by simp)]
        exact .cons ⟨rfl, rest, left, ends, read⟩ (each name hf)
      · rw [Wire.called_cons_of_not_names hm.key (unnamed here),
          List.filter_cons_of_neg (by simpa using here)]
        exact each field hf

/-! ## 3. The form takes its field -/

section

variable {form : Form} {event : BridgeEvent}

/-- A form that has its field takes no second one. -/
theorem ofMembers_full {held : List (String × Value)} {found : BridgeEvent} :
    ofMembers form (some found) held = .ok event ↔
      found = event ∧ held.filter (fun p => p.1 = form.field) = [] := by
  induction held with
  | nil => simp [ofMembers]
  | cons p held ih =>
    obtain ⟨name, v⟩ := p
    rw [ofMembers]
    by_cases here : name = form.field
    · simp [here]
    · simp only [if_neg here, ih]
      rw [List.filter_cons_of_neg (by simpa using here)]

/-- **The form takes its one field.** -/
theorem ofMembers_eq_ok {held : List (String × Value)} :
    ofMembers form none held = .ok event ↔
      ∃ v, held.filter (fun p => p.1 = form.field) = [(form.field, v)] ∧
        ofField form v = .ok event := by
  induction held with
  | nil => simp [ofMembers]
  | cons p held ih =>
    obtain ⟨name, v⟩ := p
    rw [ofMembers]
    by_cases here : name = form.field
    · subst here
      rw [List.filter_cons_of_pos (by simp)]
      simp only [if_true, Option.isSome_none, Bool.false_eq_true, if_false, bind, Except.bind]
      cases taken : ofField form v with
      | error f =>
        constructor
        · intro h
          cases h
        · rintro ⟨w, one, read⟩
          simp only [List.cons.injEq, Prod.mk.injEq, true_and] at one
          rw [← one.1, taken] at read
          cases read
      | ok found =>
        refine ofMembers_full.trans ?_
        constructor
        · rintro ⟨rfl, none⟩
          exact ⟨v, by rw [none], taken⟩
        · rintro ⟨w, one, read⟩
          simp only [List.cons.injEq, Prod.mk.injEq, true_and] at one
          rw [← one.1, taken] at read
          cases read
          exact ⟨rfl, one.2⟩
    · rw [if_neg here, List.filter_cons_of_neg (by simpa using here)]
      exact ih

end

/-! ## 4. Members where they stand -/

section

variable {m : Member} {form : Form}

theorem read_form {body : List Char} (h : Json.Spells body form.tag.toList) (rest : List Char) :
    readForm (lexemes (Json.quote body ++ rest)) = .ok (form, lexemes rest) := by
  have known : form.tag ∈ Form.all.map Form.tag := by cases form <;> decide
  rw [readForm, Wire.variant_of_spells h known]
  cases form <;> rfl

theorem read_form_unknown {body : List Char} {text : String}
    (h : Json.Spells body text.toList) (unknown : text ∉ Form.all.map Form.tag)
    (rest : List Char) {p : Form × List Lexeme} :
    readForm (lexemes (Json.quote body ++ rest)) ≠ .ok p := by
  intro readAs
  obtain ⟨q, known, -⟩ := bind_eq_ok.1 readAs
  exact Wire.variant_of_unknown h unknown rest known

theorem read_held {body : List Char} {text : String} (h : Json.Spells body text.toList)
    (rest : List Char) :
    readHeld (lexemes (Json.quote body ++ rest)) = .ok (.string text, lexemes rest) := by
  rw [Json.lexemes_string h.isBody, Json.textAt_of_spells h, String.ofList_toList]
  rfl

/-- A string that names a form is read as no other one. -/
theorem worth_form {form' : Form} (h : Wire.Worth readForm m form) (holds : m.Holds form'.tag) :
    form = form' := by
  obtain ⟨rest, left, -, readAs⟩ := h
  obtain ⟨body, spells, value⟩ := holds
  rw [value, read_form spells] at readAs
  cases readAs
  rfl

/-- A string is held as the text that it denotes. -/
theorem worth_held {v : Value} {text : String} (h : Wire.Worth readHeld m v)
    (holds : m.Holds text) : v = .string text := by
  obtain ⟨rest, left, -, readAs⟩ := h
  obtain ⟨body, spells, value⟩ := holds
  rw [value, read_held spells] at readAs
  cases readAs
  rfl

theorem takes_form (named : m.Names "type") (holds : m.Holds form.tag)
    (held : List (String × Value)) : Wire.Takes take (none, held) m (some form, held) := by
  obtain ⟨body, spells, value⟩ := holds
  refine ⟨"type", named, fun rest _ => ?_⟩
  have read := read_form spells rest
  rw [value]
  rw [Json.lexemes_string spells.isBody] at read ⊢
  exact ⟨_, rfl, by simp [take, read, Except.toOption]⟩

theorem takes_other {name text : String} (named : m.Names name) (other : name ≠ "type")
    (holds : m.Holds text) (s : Read) :
    Wire.Takes take s m (s.1, s.2 ++ [(name, .string text)]) := by
  obtain ⟨body, spells, value⟩ := holds
  refine ⟨name, named, fun rest _ => ?_⟩
  have read := read_held spells rest
  rw [value]
  rw [Json.lexemes_string spells.isBody] at read ⊢
  exact ⟨_, rfl, by simp [take, other, read, Except.toOption]⟩

/-- Members of no interest are held, and none of them under the name of the field. -/
theorem course_of_additional {ms : List Member}
    (h : ∀ m ∈ ms, Wire.IsAdditional ["type", form.field] m) (s : Read) :
    ∃ held, Wire.Course (Wire.Takes take) s ms (s.1, s.2 ++ held) ∧
      held.filter (fun p => p.1 = form.field) = [] := by
  induction ms generalizing s with
  | nil => exact ⟨[], by rw [List.append_nil]; exact .nil s, rfl⟩
  | cons m ms ih =>
    obtain ⟨name, text, named, unknown, holds⟩ := h m List.mem_cons_self
    simp only [List.mem_cons, List.not_mem_nil, or_false, not_or] at unknown
    obtain ⟨held, course, apart⟩ :=
      ih (fun n hn => h n (List.mem_cons_of_mem m hn)) (s.1, s.2 ++ [(name, .string text)])
    refine ⟨(name, .string text) :: held, ?_, ?_⟩
    · rw [List.append_assoc] at course
      exact .cons (takes_other named unknown.1 holds s) course
    · rw [List.filter_cons_of_neg (by simpa using unknown.2)]
      exact apart

end

/-! ## 5. Objects of events -/

/-- The form of the event. -/
def form : BridgeEvent → Form
  | .bufferText _ => .bufferText
  | .inputRequested _ => .inputRequested

/-- The text in the field of the form. -/
def content : BridgeEvent → String
  | .bufferText text => text
  | .inputRequested kind => kind.name

/-- The members are those of the event, in any order, and others of no interest. -/
def IsWrittenBy (event : BridgeEvent) (ms : List Member) : Prop :=
  ∃ tag content others, ms.Perm (tag :: content :: others) ∧
    tag.Names "type" ∧ tag.Holds event.form.tag ∧
    content.Names event.form.field ∧ content.Holds event.content ∧
    ∀ m ∈ others, Wire.IsAdditional ["type", event.form.field] m

/-- The members are not those of an event.  Which field is wanted besides `type` depends on the
form that `type` names. -/
inductive IsFlawed (ms : List Member) : Prop where
  | lacksType (lacks : Wire.Lacks "type" ms)
  | repeatsType (repeats : Wire.Repeats "type" ms)
  | unknownType (strays : Wire.Strays "type" (Form.all.map Form.tag) ms)
  | lacksField {tag : Member} {form : Form} (h : tag ∈ ms) (named : tag.Names "type")
      (holds : tag.Holds form.tag) (lacks : Wire.Lacks form.field ms)
  | repeatsField {tag : Member} {form : Form} (h : tag ∈ ms) (named : tag.Names "type")
      (holds : tag.Holds form.tag) (repeats : Wire.Repeats form.field ms)
  | unknownKind {tag : Member} (h : tag ∈ ms) (named : tag.Names "type")
      (holds : tag.Holds Form.inputRequested.tag)
      (strays : Wire.Strays "kind" (InputKind.all.map InputKind.name) ms)

/-! ## 6. Whole texts -/

section

variable {text : String} {ms : List Member} {form : Form} {event : BridgeEvent}

theorem field_ne_type (form : Form) : form.field ≠ "type" := by cases form <;> decide

theorem ofField_content (event : BridgeEvent) :
    ofField event.form (.string event.content) = .ok event := by
  cases event with
  | bufferText text => rfl
  | inputRequested kind => cases kind <;> rfl

theorem kind_of_ofField {text : String} (h : ofField .inputRequested (.string text) = .ok event) :
    text ∈ InputKind.all.map InputKind.name := by
  cases named : Wire.named InputKind.all InputKind.name text with
  | error f =>
    simp only [ofField, kindOf, named] at h
    cases h
  | ok kind =>
    rw [← Wire.of_named named]
    cases kind <;> decide

/-- Whatever writes an event is read as it. -/
theorem decode_of_isWrittenBy (object : Json.IsObject text.toList ms)
    (written : event.IsWrittenBy ms) : decode text = .ok event := by
  obtain ⟨tag, content, others, perm, named, holds, called, kept, additional⟩ := written
  obtain ⟨before, between, behind, inside, order⟩ := Wire.exists_split_of_perm perm
  have aside (s : Read) {l : List Member} (h : ∀ m ∈ l, m ∈ others) :=
    course_of_additional (fun m hm => additional m (h m hm)) s
  have takes (s : Read) := takes_other called (field_ne_type event.form) kept s
  have decodes {held : List (String × Value)}
      (course : Wire.Course (Wire.Takes take) (none, []) ms (some event.form, held))
      (one : held.filter (fun p => p.1 = event.form.field) =
        [(event.form.field, .string event.content)]) : decode text = .ok event := by
    refine walksObjects.decode_of_course object course ?_
    rw [complete?, Option.bind_some, ofMembers_eq_ok.2 ⟨_, one, ofField_content event⟩]
    rfl
  rcases order with rfl | rfl
  · obtain ⟨h₁, first, apart₁⟩ := aside (none, []) fun m hm => inside m (.inl hm)
    obtain ⟨h₂, second, apart₂⟩ := aside (some event.form, [] ++ h₁) fun m hm =>
      inside m (.inr (.inl hm))
    obtain ⟨h₃, third, apart₃⟩ := aside
      (some event.form, [] ++ h₁ ++ h₂ ++ [(event.form.field, .string event.content)]) fun m hm =>
      inside m (.inr (.inr hm))
    refine decodes (first.append (.cons (takes_form named holds _)
      (second.append (.cons (takes _) third)))) ?_
    simp [List.filter_append, apart₁, apart₂, apart₃]
  · obtain ⟨h₁, first, apart₁⟩ := aside (none, []) fun m hm => inside m (.inl hm)
    obtain ⟨h₂, second, apart₂⟩ := aside
      (none, [] ++ h₁ ++ [(event.form.field, .string event.content)]) fun m hm =>
      inside m (.inr (.inl hm))
    obtain ⟨h₃, third, apart₃⟩ := aside
      (some event.form, [] ++ h₁ ++ [(event.form.field, .string event.content)] ++ h₂) fun m hm =>
      inside m (.inr (.inr hm))
    refine decodes (first.append (.cons (takes _)
      (second.append (.cons (takes_form named holds _) third)))) ?_
    simp [List.filter_append, apart₁, apart₂, apart₃]

/-- What has been read of the members: the form that `type` names, and the one value that the form
has taken. -/
theorem of_decode (object : Json.IsObject text.toList ms) (h : decode text = .ok event) :
    ∃ form tag content v, Wire.called "type" ms = [tag] ∧ Wire.Worth readForm tag form ∧
      Wire.called form.field ms = [content] ∧ Wire.Worth readHeld content v ∧
      ofField form v = .ok event := by
  obtain ⟨⟨form?, held⟩, course, made⟩ := walksObjects.course_of_decode orderly_take object h
  obtain ⟨form, filled, made⟩ := Option.bind_eq_some_iff.1 made
  have found := toOption_eq_some.1 made
  obtain ⟨tag, oneTag, worth⟩ := keeps_form.filled course object.1 rfl filled
  obtain ⟨held', same, each⟩ := held_of_course course object.1
  obtain ⟨v, one, taken⟩ := ofMembers_eq_ok.1 found
  have members := each form.field (field_ne_type form)
  rw [List.nil_append] at same
  rw [show held = held' from same] at one
  rw [one] at members
  obtain ⟨content, rest, ⟨-, worthHeld⟩, others, members⟩ := List.forall₂_cons_right_iff.1 members
  rw [List.forall₂_nil_right_iff.1 others] at members
  exact ⟨form, tag, content, v, oneTag, worth, members, worthHeld, taken⟩

/-- What has a flaw is no event. -/
theorem decode_of_isFlawed (object : Json.IsObject text.toList ms) (flawed : IsFlawed ms) :
    ∃ fault, decode text = .error fault := by
  cases decoded : decode text with
  | error fault => exact ⟨fault, rfl⟩
  | ok event =>
    obtain ⟨form, tag, content, v, oneTag, worth, one, worthHeld, taken⟩ :=
      of_decode object decoded
    cases flawed with
    | lacksType lacks => exact absurd lacks (Wire.not_lacks_of_called object.1 oneTag)
    | repeatsType repeats => exact absurd repeats (Wire.not_repeats_of_called oneTag)
    | unknownType strays =>
      obtain ⟨m, hm, named, text, ⟨body, spells, value⟩, unknown⟩ := strays
      cases Wire.eq_of_called oneTag hm named
      obtain ⟨rest, left, -, readAs⟩ := worth
      rw [value] at readAs
      exact absurd readAs (read_form_unknown spells unknown rest)
    | lacksField hm named holds lacks =>
      cases Wire.eq_of_called oneTag hm named
      cases worth_form worth holds
      exact absurd lacks (Wire.not_lacks_of_called object.1 one)
    | repeatsField hm named holds repeats =>
      cases Wire.eq_of_called oneTag hm named
      cases worth_form worth holds
      exact absurd repeats (Wire.not_repeats_of_called one)
    | unknownKind hm named holds strays =>
      cases Wire.eq_of_called oneTag hm named
      cases worth_form worth holds
      obtain ⟨m, hm, kind, text, holdsKind, unknown⟩ := strays
      cases Wire.eq_of_called one hm kind
      cases worth_held worthHeld holdsKind
      exact absurd (kind_of_ofField taken) unknown

end

end BridgeEvent
end Playtest
