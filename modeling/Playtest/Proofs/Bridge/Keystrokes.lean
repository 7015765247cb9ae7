/-
# Keystrokes on the wire

A keystroke is read from an object exactly if the object has one member for the event and one for
the code, and each of them can be read on its own.
-/
import Playtest.Proofs.Bridge.Fields
import Playtest.Proofs.Bridge.Members
import Playtest.Proofs.Json.Integers

namespace Playtest

open Json (Lexeme Member Ends lexemes)
open Wire (toOption_bind toOption_eq_some toOption_mapError toOption_ok)

/-! ## 1. The two fields -/

namespace Keystroke

/-- What has been read of a keystroke. -/
abbrev Read := Option KeyEvent × Option Nat

/-- What is done with the value of a member. -/
def take (s : Read) (name : String) (xs : List Lexeme) : Option (Read × List Lexeme) :=
  if name = "event" then
    if s.1.isSome then none else (KeyEvent.read xs).toOption.map fun p => ((some p.1, s.2), p.2)
  else if name = "which" then
    if s.2.isSome then none else (readCode xs).toOption.map fun p => ((s.1, some p.1), p.2)
  else (Json.skipValue xs).toOption.map fun left => (s, left)

/-- The keystroke, if both fields have been read. -/
def complete? : Read → Option Keystroke
  | (some event, some which) => some ⟨event, which⟩
  | _ => none

theorem readMembers_eq (fuel : Nat) (isFirst : Bool) (s : Read) (xs : List Lexeme) :
    (readMembers fuel isFirst s.1 s.2 xs).toOption =
      (Wire.walk take fuel isFirst s xs).bind fun p => (complete? p.1).map (·, p.2) := by
  induction fuel generalizing isFirst s xs with
  | zero => rfl
  | succ fuel ih =>
    obtain ⟨event?, which?⟩ := s
    rw [readMembers, Wire.walk]
    cases Wire.nextMember isFirst xs with
    | error f => rfl
    | ok entry =>
      cases entry with
      | ended xs => cases event? <;> cases which? <;> rfl
      | here xs =>
        simp only [toOption_bind, toOption_mapError, toOption_ok, Option.bind_some,
          Option.bind_eq_bind, Option.bind_assoc]
        congr 1
        funext p
        obtain ⟨key, xs⟩ := p
        by_cases event : key = "event"
        · subst event
          cases event? with
          | some e => cases (Wire.colon xs).toOption <;> rfl
          | none =>
            refine Wire.toOption_value.trans ?_
            congr 1
            funext left
            simp only [take, if_true, Option.isSome_none, Bool.false_eq_true, if_false]
            cases (KeyEvent.read left).toOption with
            | none => rfl
            | some q => exact ih false (some q.1, which?) q.2
        · by_cases which : key = "which"
          · subst which
            cases which? with
            | some w => cases (Wire.colon xs).toOption <;> rfl
            | none =>
              refine Wire.toOption_value.trans ?_
              congr 1
              funext left
              simp only [take, if_neg event, if_true, Option.isSome_none, Bool.false_eq_true,
                if_false]
              cases (readCode left).toOption with
              | none => rfl
              | some q => exact ih false (event?, some q.1) q.2
          · simp only [if_neg event, if_neg which]
            refine Wire.toOption_value.trans ?_
            congr 1
            funext left
            simp only [take, if_neg event, if_neg which]
            cases (Json.skipValue left).toOption with
            | none => rfl
            | some behind => exact ih false (event?, which?) behind

theorem walksObjects : Wire.WalksObjects read take (none, none) complete? := by
  intro before after xs
  have reads : (read (⟨.openObject, before, after⟩ :: xs)).toOption =
      (readMembers (xs.length + 1) true none none xs).toOption.map fun p => (p.1, p.2.drop 1) := by
    simp only [read]
    cases readMembers (xs.length + 1) true none none xs <;> rfl
  rw [reads, readMembers_eq _ _ (none, none), Option.map_bind]
  congr 1
  funext p
  exact Option.map_map ..

/-! ## 2. What is taken -/

theorem skipValue_of_event {event : KeyEvent} {xs left : List Lexeme}
    (h : KeyEvent.read xs = .ok (event, left)) : Json.skipValue xs = .ok left := by
  simp only [KeyEvent.read, bind_eq_ok] at h
  obtain ⟨p, read, found, -, h⟩ := h
  cases h
  exact Wire.skipValue_of_name read

theorem of_readCode {code : Nat} {xs left : List Lexeme} (h : readCode xs = .ok (code, left)) :
    (code : Int) ≤ maxCode ∧ ∃ s t, xs = ⟨.number (.ok (.integer code)), s, t⟩ :: left := by
  rcases xs with _ | ⟨⟨token, s, t⟩, rest⟩
  · cases h
  · cases token with
    | number value =>
      simp only [readCode, bind_eq_ok] at h
      obtain ⟨n, rfl, h⟩ := h
      rcases n with i | x
      · dsimp only at h
        split at h
        · next within =>
          cases h
          have same : ((i.toNat : Nat) : Int) = i := Int.toNat_of_nonneg within.1
          rw [same]
          exact ⟨within.2, s, t, rfl⟩
        · cases h
      · cases h
    | _ => cases h

theorem skipValue_of_readCode {code : Nat} {xs left : List Lexeme}
    (h : readCode xs = .ok (code, left)) : Json.skipValue xs = .ok left := by
  obtain ⟨-, s, t, rfl⟩ := of_readCode h
  rfl

/-- Everything that can be done with the value of a member. -/
theorem of_take {s s' : Read} {name : String} {xs left : List Lexeme}
    (h : take s name xs = some (s', left)) :
    (name = "event" ∧ s.1 = none ∧
      ∃ event, KeyEvent.read xs = .ok (event, left) ∧ s' = (some event, s.2)) ∨
    (name = "which" ∧ s.2 = none ∧ ∃ code, readCode xs = .ok (code, left) ∧ s' = (s.1, some code)) ∨
    (name ≠ "event" ∧ name ≠ "which" ∧ Json.skipValue xs = .ok left ∧ s' = s) := by
  unfold take at h
  split at h
  · next isEvent =>
    split at h
    · cases h
    · next empty =>
      obtain ⟨⟨event, behind⟩, read, same⟩ := Option.map_eq_some_iff.1 h
      cases same
      exact .inl ⟨isEvent, Option.not_isSome_iff_eq_none.1 empty, event,
        toOption_eq_some.1 read, rfl⟩
  · next notEvent =>
    split at h
    · next isWhich =>
      split at h
      · cases h
      · next empty =>
        obtain ⟨⟨code, behind⟩, read, same⟩ := Option.map_eq_some_iff.1 h
        cases same
        exact .inr (.inl ⟨isWhich, Option.not_isSome_iff_eq_none.1 empty, code,
          toOption_eq_some.1 read, rfl⟩)
    · next notWhich =>
      obtain ⟨behind, read, same⟩ := Option.map_eq_some_iff.1 h
      cases same
      exact .inr (.inr ⟨notEvent, notWhich, toOption_eq_some.1 read, rfl⟩)

theorem orderly_take : Wire.Orderly take := by
  intro s name xs s' left taken
  rcases of_take taken with ⟨-, -, event, read, -⟩ | ⟨-, -, code, read, -⟩ | ⟨-, -, read, -⟩
  · exact skipValue_of_event read
  · exact skipValue_of_readCode read
  · exact read

theorem keeps_event : Wire.Keeps (Wire.Took take) "event" Prod.fst (Wire.Worth KeyEvent.read) := by
  constructor
  · rintro s m s' ⟨name, rest, left, names, ends, taken⟩ named
    cases Wire.eq_of_names names named
    rcases of_take taken with ⟨-, empty, event, read, rfl⟩ | ⟨other, -⟩ | ⟨other, -⟩
    · exact ⟨empty, event, rfl, rest, left, ends, read⟩
    · exact absurd other (by decide)
    · exact absurd rfl other
  · rintro s m s' ⟨name, rest, left, names, ends, taken⟩ unnamed
    rcases of_take taken with ⟨same, -⟩ | ⟨-, -, code, -, rfl⟩ | ⟨-, -, -, rfl⟩
    · exact absurd (same ▸ names) unnamed
    · rfl
    · rfl

theorem keeps_which : Wire.Keeps (Wire.Took take) "which" Prod.snd (Wire.Worth readCode) := by
  constructor
  · rintro s m s' ⟨name, rest, left, names, ends, taken⟩ named
    cases Wire.eq_of_names names named
    rcases of_take taken with ⟨other, -⟩ | ⟨-, empty, code, read, rfl⟩ | ⟨-, other, -⟩
    · exact absurd other (by decide)
    · exact ⟨empty, code, rfl, rest, left, ends, read⟩
    · exact absurd rfl other
  · rintro s m s' ⟨name, rest, left, names, ends, taken⟩ unnamed
    rcases of_take taken with ⟨-, -, event, -, rfl⟩ | ⟨same, -⟩ | ⟨-, -, -, rfl⟩
    · rfl
    · exact absurd (same ▸ names) unnamed
    · rfl

section

variable {m : Member} {event : KeyEvent} {code : Nat}

theorem read_event {body : List Char} (h : Json.Spells body event.name.toList)
    (rest : List Char) :
    KeyEvent.read (lexemes (Json.quote body ++ rest)) = .ok (event, lexemes rest) := by
  have known : event.name ∈ KeyEvent.all.map KeyEvent.name := by cases event <;> decide
  rw [KeyEvent.read, Wire.name_eq_variant h.isBody, Wire.variant_of_spells h known]
  cases event <;> rfl

theorem read_event_unknown {body : List Char} {text : String}
    (h : Json.Spells body text.toList) (unknown : text ∉ KeyEvent.all.map KeyEvent.name)
    (rest : List Char) {p : KeyEvent × List Lexeme} :
    KeyEvent.read (lexemes (Json.quote body ++ rest)) ≠ .ok p := by
  intro readAs
  rw [KeyEvent.read, Wire.name_eq_variant h.isBody] at readAs
  obtain ⟨q, known, -⟩ := bind_eq_ok.1 readAs
  exact Wire.variant_of_unknown h unknown rest known

/-- A whole number is read as a code only if it is one. -/
theorem read_code {i : Int} {rest : List Char} (ends : Ends rest) {left : List Lexeme}
    (h : readCode (lexemes ((toString i).toList ++ rest)) = .ok (code, left)) :
    0 ≤ i ∧ i ≤ maxCode := by
  obtain ⟨worth, cut, only, -⟩ := Json.lexemes_integer i ends
  obtain ⟨small, s, t, same⟩ := of_readCode h
  rw [cut] at same
  have value : worth = .ok (.integer code) := by
    injection same with first
    injection first with token
    injection token
  rw [← only code value]
  exact ⟨Int.natCast_nonneg code, small⟩

theorem takes_event (named : m.Names "event") (holds : m.Holds event.name)
    (which? : Option Nat) : Wire.Takes take (none, which?) m (some event, which?) := by
  obtain ⟨body, spells, value⟩ := holds
  refine ⟨"event", named, fun rest _ => ?_⟩
  have read := read_event spells rest
  rw [value]
  rw [Json.lexemes_string spells.isBody] at read ⊢
  exact ⟨_, rfl, by simp [take, read, Except.toOption]⟩

theorem takes_which (named : m.Names "which")
    (value : m.item.value = (toString (code : Int)).toList)
    (small : (code : Int) ≤ maxCode) (event? : Option KeyEvent) :
    Wire.Takes take (event?, none) m (event?, some code) := by
  refine ⟨"which", named, fun rest ends => ?_⟩
  have word : Json.IsWord code := by
    have sizes : maxCode ≤ (Json.maxWord : Int) := by decide
    exact ⟨by omega, by omega⟩
  obtain ⟨worth, cut, -, kept⟩ := Json.lexemes_integer code ends
  rw [value, cut, kept word]
  have within : 0 ≤ (code : Int) ∧ (code : Int) ≤ maxCode := ⟨by omega, small⟩
  exact ⟨_, rfl, by simp [take, readCode, within, Except.toOption, bind, Except.bind]⟩

theorem takes_additional (h : Wire.IsAdditional ["event", "which"] m) (s : Read) :
    Wire.Takes take s m s := by
  obtain ⟨name, text, named, unknown, body, spells, value⟩ := h
  refine ⟨name, named, fun rest _ => ?_⟩
  rw [value, Json.lexemes_string spells.isBody]
  simp only [List.mem_cons, List.not_mem_nil, or_false, not_or] at unknown
  refine ⟨_, rfl, ?_⟩
  rw [take, if_neg unknown.1, if_neg unknown.2]
  rfl

end

/-! ## 3. Whole texts -/

section

variable {text : String} {ms : List Member} {key : Keystroke}

theorem complete?_eq_some {s : Read} (h : complete? s = some key) :
    s = (some key.event, some key.which) := by
  obtain ⟨event?, which?⟩ := s
  cases event? <;> cases which? <;> cases h
  rfl

/-- The members are those of the keystroke, in any order, and others of no interest. -/
def IsWrittenBy (key : Keystroke) (ms : List Member) : Prop :=
  ∃ event which others, ms.Perm (event :: which :: others) ∧
    event.Names "event" ∧ event.Holds key.event.name ∧
    which.Names "which" ∧ which.item.value = (toString (key.which : Int)).toList ∧
    ∀ m ∈ others, Wire.IsAdditional ["event", "which"] m

/-- The members are not those of a keystroke. -/
inductive IsFlawed (ms : List Member) : Prop where
  | lacks (field : String) (h : field ∈ ["event", "which"]) (lacks : Wire.Lacks field ms)
  | repeats (field : String) (h : field ∈ ["event", "which"]) (repeats : Wire.Repeats field ms)
  | unknownEvent (strays : Wire.Strays "event" (KeyEvent.all.map KeyEvent.name) ms)
  | outside {m : Member} {code : Int} (h : m ∈ ms) (named : m.Names "which")
      (value : m.item.value = (toString code).toList) (outside : ¬(0 ≤ code ∧ code ≤ maxCode))

/-- Whatever writes a keystroke is read as it. -/
theorem decode_of_isWrittenBy (object : Json.IsObject text.toList ms)
    (small : (key.which : Int) ≤ maxCode) (written : key.IsWrittenBy ms) :
    Wire.decode read text = .ok key := by
  obtain ⟨event, which, others, perm, named, holds, called, value, additional⟩ := written
  refine walksObjects.decode_of_course object (s := (some key.event, some key.which)) ?_ rfl
  obtain ⟨before, between, behind, inside, order⟩ := Wire.exists_split_of_perm perm
  have idle (s : Read) {l : List Member} (h : ∀ m ∈ l, m ∈ others) :
      Wire.Course (Wire.Takes take) s l s :=
    .idle fun m hm => takes_additional (additional m (h m hm)) s
  have first (s : Read) := idle s fun m hm => inside m (.inl hm)
  have second (s : Read) := idle s fun m hm => inside m (.inr (.inl hm))
  have third (s : Read) := idle s fun m hm => inside m (.inr (.inr hm))
  rcases order with rfl | rfl
  · exact (first _).append (.cons (takes_event named holds none)
      ((second _).append (.cons (takes_which called value small _) (third _))))
  · exact (first _).append (.cons (takes_which called value small none)
      ((second _).append (.cons (takes_event named holds _) (third _))))

/-- What has a flaw is no keystroke. -/
theorem decode_of_isFlawed (object : Json.IsObject text.toList ms) (flawed : IsFlawed ms) :
    ∃ fault, Wire.decode read text = .error fault := by
  cases decoded : Wire.decode read text with
  | error fault => exact ⟨fault, rfl⟩
  | ok key =>
    obtain ⟨s, course, made⟩ := walksObjects.course_of_decode orderly_take object decoded
    rw [complete?_eq_some made] at course
    obtain ⟨event, oneEvent, worthEvent⟩ := keeps_event.filled course object.1 rfl rfl
    obtain ⟨which, oneWhich, worthWhich⟩ := keeps_which.filled course object.1 rfl rfl
    cases flawed with
    | lacks field h lacks =>
      simp only [List.mem_cons, List.not_mem_nil, or_false] at h
      rcases h with rfl | rfl
      · exact absurd lacks (Wire.not_lacks_of_called object.1 oneEvent)
      · exact absurd lacks (Wire.not_lacks_of_called object.1 oneWhich)
    | repeats field h repeats =>
      simp only [List.mem_cons, List.not_mem_nil, or_false] at h
      rcases h with rfl | rfl
      · exact absurd repeats (Wire.not_repeats_of_called oneEvent)
      · exact absurd repeats (Wire.not_repeats_of_called oneWhich)
    | unknownEvent strays =>
      obtain ⟨m, hm, named, text, holds, unknown⟩ := strays
      cases Wire.eq_of_called oneEvent hm named
      obtain ⟨rest, left, -, readAs⟩ := worthEvent
      obtain ⟨body, spells, value⟩ := holds
      rw [value] at readAs
      exact absurd readAs (read_event_unknown spells unknown rest)
    | outside hm named value outside =>
      cases Wire.eq_of_called oneWhich hm named
      obtain ⟨rest, left, ends, readAs⟩ := worthWhich
      rw [value] at readAs
      exact absurd (read_code ends readAs) outside

end

end Keystroke
end Playtest
