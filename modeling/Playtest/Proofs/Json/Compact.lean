/-
# Compact texts

The texts that the driver writes itself.  They are grammatical, they have no character below the
space, and the reader takes each of them for the value that was written (`parse_compact`).

This is said of the values that the reader can hold exactly (`Value.Fits`): whole numbers of 64
bits, no binary64, and not too many containers inside one another.  Texts may have any
characters, and the members of an object keep their order and may repeat a name.
-/
import Playtest.Proofs.Json.InPlace
import Playtest.Proofs.Json.Integers

namespace Playtest
namespace Json

/-! ## 1. Strings -/

/-- What stands between the quotes when a text is written. -/
def escaped (s : List Char) : List Char := s.flatMap escapeChar

theorem hexValue?_hexDigit {n : Nat} (h : n < 16) : hexValue? (hexDigit n) = some n := by
  revert n
  decide

theorem visible_hexDigit {n : Nat} (h : n < 16) : 0x20 ≤ (hexDigit n).toNat := by
  revert n
  decide

/-- A character below the space is written by its code. -/
theorem hexValue4?_code {n : Nat} (h : n < 32) :
    hexValue4? '0' '0' (hexDigit (n / 16)) (hexDigit (n % 16)) = some n := by
  have zero : hexValue? '0' = some 0 := by decide
  have high : n / 16 < 16 := by omega
  have low : n % 16 < 16 := by omega
  simp only [hexValue4?, zero, hexValue?_hexDigit high, hexValue?_hexDigit low, bind, Option.bind]
  congr 1
  omega

/-- The characters below the space, one by one. -/
theorem escapeChar_control :
    ∀ n < 32, (∃ p ∈ shortEscapes, p.2 = Char.ofNat n ∧ escapeChar (Char.ofNat n) = ['\\', p.1]) ∨
      escapeChar (Char.ofNat n) = ['\\', 'u', '0', '0', hexDigit (n / 16), hexDigit (n % 16)] := by
  decide

theorem visible_shortEscapes : ∀ p ∈ shortEscapes, 0x20 ≤ p.1.toNat := by decide

/-- A character is written as itself, by a short escape, or by its code. -/
theorem escapeChar_cases (c : Char) :
    (c ≠ '"' ∧ c ≠ '\\' ∧ 0x20 ≤ c.toNat ∧ escapeChar c = [c]) ∨
    (∃ e, (e, c) ∈ shortEscapes ∧ escapeChar c = ['\\', e]) ∨
    (c.toNat < 0x20 ∧
      escapeChar c = ['\\', 'u', '0', '0', hexDigit (c.toNat / 16), hexDigit (c.toNat % 16)]) := by
  by_cases control : c.toNat < 0x20
  · rcases escapeChar_control c.toNat control with ⟨⟨e, d⟩, escape, same, h⟩ | h
    · rw [Char.ofNat_toNat] at same h
      subst same
      exact .inr (.inl ⟨e, escape, h⟩)
    · rw [Char.ofNat_toNat] at h
      exact .inr (.inr ⟨control, h⟩)
  · by_cases quote : c = '"'
    · subst quote
      exact .inr (.inl ⟨'"', by decide, rfl⟩)
    · by_cases backslash : c = '\\'
      · subst backslash
        exact .inr (.inl ⟨'\\', by decide, rfl⟩)
      · refine .inl ⟨quote, backslash, Nat.not_lt.1 control, ?_⟩
        rw [escapeChar, if_neg quote, if_neg backslash, if_neg control]

/-- **What is written between the quotes spells the text.** -/
theorem spells_escaped (s : List Char) : Spells (escaped s) s := by
  induction s with
  | nil => exact .nil
  | cons c s ih =>
    rw [escaped, List.flatMap_cons]
    rcases escapeChar_cases c with ⟨quote, backslash, visible, h⟩ | ⟨e, escape, h⟩ | ⟨control, h⟩
    · rw [h]
      exact .plain quote backslash visible ih
    · rw [h]
      exact .short escape ih
    · rw [h]
      have code : Spells _ (Char.ofNat c.toNat :: s) :=
        .code (hexValue4?_code control) (by unfold IsSurrogate; omega) ih
      rw [Char.ofNat_toNat] at code
      exact code

/-- Nothing below the space. -/
def IsVisible (s : List Char) : Prop := ∀ c ∈ s, 0x20 ≤ c.toNat

theorem IsVisible.append {s t : List Char} (hs : IsVisible s) (ht : IsVisible t) :
    IsVisible (s ++ t) := by
  intro c hc
  rcases List.mem_append.1 hc with h | h
  · exact hs c h
  · exact ht c h

theorem visible_escaped (s : List Char) : IsVisible (escaped s) := by
  intro d hd
  obtain ⟨c, -, hd⟩ := List.mem_flatMap.1 hd
  rcases escapeChar_cases c with ⟨-, -, visible, h⟩ | ⟨e, escape, h⟩ | ⟨control, h⟩
  all_goals
    rw [h] at hd
    simp only [List.mem_cons, List.not_mem_nil, or_false] at hd
  · rw [hd]
    exact visible
  · rcases hd with rfl | rfl
    · decide
    · exact visible_shortEscapes _ escape
  · rcases hd with rfl | rfl | rfl | rfl | rfl | rfl
    · decide
    · decide
    · decide
    · decide
    · exact visible_hexDigit (by omega)
    · exact visible_hexDigit (by omega)

theorem visible_quote {body : List Char} (h : IsVisible body) : IsVisible (quote body) := by
  have sign : IsVisible ['"'] := by simp [IsVisible]
  exact sign.append (h.append sign)

theorem visible_joinWith {parts : List (List Char)} (h : ∀ part ∈ parts, IsVisible part) :
    IsVisible (Text.joinWith [','] parts) := by
  rcases parts with _ | ⟨part, parts⟩
  · exact nofun
  · rw [Text.joinWith_cons]
    refine (h part List.mem_cons_self).append fun c hc => ?_
    obtain ⟨next, member, hc⟩ := List.mem_flatMap.1 hc
    rcases List.mem_cons.1 hc with rfl | hc
    · decide
    · exact h next (List.mem_cons_of_mem part member) c hc

/-! ## 2. Values -/

/-- The item that is written for a value. -/
def Item.compact (v : Value) : Item := { value := v.text }

/-- The member that is written for a name and a value. -/
def Member.compact (p : String × Value) : Member :=
  { key := escaped p.1.toList, item := .compact p.2 }

theorem Item.isPadded_compact (v : Value) : (Item.compact v).IsPadded := ⟨isBlank_nil, isBlank_nil⟩

theorem Member.isPadded_compact (p : String × Value) : (Member.compact p).IsPadded :=
  ⟨isBlank_nil, isBlank_nil, Item.isPadded_compact p.2⟩

/-- A member that is written has its name, -/
theorem Member.names_compact (name : String) (v : Value) :
    (Member.compact (name, v)).Names name :=
  spells_escaped name.toList

/-- and a text as its value if it is written for a text. -/
theorem Member.holds_compact (name text : String) :
    (Member.compact (name, .string text)).Holds text :=
  ⟨escaped text.toList, spells_escaped text.toList, rfl⟩

theorem stringText_eq (s : String) : stringText s = quote (escaped s.toList) := rfl

theorem text_array (items : List Value) :
    (Value.array items).text = arrayText [] (items.map .compact) := by
  have inner : itemsText items = Text.joinWith [','] ((items.map Item.compact).map Item.text) := by
    induction items with
    | nil => rw [itemsText]; rfl
    | cons v items ih =>
      rcases items with _ | ⟨w, items⟩
      · simp [itemsText, Item.compact, Item.text, Text.joinWith]
      · rw [itemsText, ih]
        · simp [Item.compact, Item.text, Text.joinWith]
        · simp
  rw [Value.text, inner]
  rfl

theorem text_object (members : List (String × Value)) :
    (Value.object members).text = objectText [] (members.map .compact) := by
  have inner : membersText members =
      Text.joinWith [','] ((members.map Member.compact).map Member.text) := by
    induction members with
    | nil => rw [membersText]; rfl
    | cons p members ih =>
      rcases members with _ | ⟨q, members⟩
      · simp [membersText, Member.compact, Member.text, Item.compact, Item.text, Text.joinWith,
          stringText_eq]
      · rw [membersText, ih]
        · simp [Member.compact, Member.text, Item.compact, Item.text, Text.joinWith, stringText_eq]
        · simp
  rw [Value.text, inner]
  rfl

/-- The reader can hold the value exactly, with `room` for that many containers inside one
another. -/
inductive Value.Fits : Nat → Value → Prop where
  | null {room : Nat} : Fits room .null
  | bool {room : Nat} (b : Bool) : Fits room (.bool b)
  | integer {room : Nat} {i : Int} (word : IsWord i) : Fits room (.number (.integer i))
  | string {room : Nat} (s : String) : Fits room (.string s)
  | array {room : Nat} {items : List Value} (items_fit : ∀ v ∈ items, Fits room v) :
      Fits (room + 1) (.array items)
  | object {room : Nat} {members : List (String × Value)}
      (members_fit : ∀ p ∈ members, Fits room p.2) : Fits (room + 1) (.object members)

namespace Value.Fits

/-- The text of a value is grammatical. -/
theorem isValue {room : Nat} {v : Value} (h : v.Fits room) : IsValue v.text := by
  induction h with
  | null => exact .literal (by simp [Value.text])
  | bool b => cases b <;> exact .literal (by simp [Value.text])
  | @integer _ i => exact .number (isNumber_integer i)
  | string s => exact .string (spells_escaped s.toList).isBody
  | @array _ items _ ih =>
    rw [text_array]
    refine .array isBlank_nil ?_ ?_
    · intro x hx
      obtain ⟨v, -, rfl⟩ := List.mem_map.1 hx
      exact Item.isPadded_compact v
    · intro x hx
      obtain ⟨v, hv, rfl⟩ := List.mem_map.1 hx
      exact ih v hv
  | @object _ members _ ih =>
    rw [text_object]
    refine .object isBlank_nil ?_ ?_ ?_
    · intro m hm
      obtain ⟨p, -, rfl⟩ := List.mem_map.1 hm
      exact Member.isPadded_compact p
    · intro m hm
      obtain ⟨p, -, rfl⟩ := List.mem_map.1 hm
      exact (spells_escaped p.1.toList).isBody
    · intro m hm
      obtain ⟨p, hp, rfl⟩ := List.mem_map.1 hm
      exact ih p hp

/-- The text of a value has no character below the space. -/
theorem visible {room : Nat} {v : Value} (h : v.Fits room) : IsVisible v.text := by
  induction h with
  | null => simp [IsVisible, Value.text]
  | bool b => cases b <;> simp [IsVisible, Value.text]
  | @integer _ i =>
    have text : (Value.number (.integer i)).text =
        (if i < 0 then ['-'] else []) ++ Nat.toDigits 10 i.natAbs := toList_toString i
    rw [text]
    refine IsVisible.append (by split <;> simp [IsVisible]) fun c hc => ?_
    have digit := (Char.isDigit_iff_toNat.1 (isDigit_of_mem_toDigits hc)).1
    exact Nat.le_trans (by decide) digit
  | string s => exact visible_quote (visible_escaped s.toList)
  | @array _ items _ ih =>
    rw [text_array]
    have inner : ∀ part ∈ (items.map Item.compact).map Item.text, IsVisible part := by
      intro part hp
      simp only [List.map_map, List.mem_map, Function.comp] at hp
      obtain ⟨v, hv, rfl⟩ := hp
      simpa [Item.text, Item.compact] using ih v hv
    have first : IsVisible ['['] := by simp [IsVisible]
    have last : IsVisible [']'] := by simp [IsVisible]
    exact first.append ((visible_joinWith inner).append last)
  | @object _ members _ ih =>
    rw [text_object]
    have inner : ∀ part ∈ (members.map Member.compact).map Member.text, IsVisible part := by
      intro part hp
      simp only [List.map_map, List.mem_map, Function.comp] at hp
      obtain ⟨p, hm, rfl⟩ := hp
      have colon : IsVisible [':'] := by simp [IsVisible]
      have name : IsVisible (quote (escaped p.1.toList)) := visible_quote (visible_escaped _)
      simpa [Member.text, Member.compact, Item.text, Item.compact] using
        name.append (colon.append (ih p hm))
    have first : IsVisible ['\x7b'] := by simp [IsVisible]
    have last : IsVisible ['\x7d'] := by simp [IsVisible]
    exact first.append ((visible_joinWith inner).append last)

/-- Where the text of a value stands, the reader takes it for the value. -/
theorem reads {room : Nat} {v : Value} (h : v.Fits room) {all depth : Nat}
    (fits : depth + room ≤ all) : Reads .wanted all depth v.text v := by
  induction h generalizing depth with
  | null => simpa [Value.text] using Reads.literal (c := 'n') rfl
  | bool b =>
    cases b
    · simpa [Value.text] using Reads.literal (c := 'f') rfl
    · simpa [Value.text] using Reads.literal (c := 't') rfl
  | @integer _ i word =>
    intro stack rest _ hr
    obtain ⟨value, cut, -, kept⟩ := lexemes_integer i hr
    have text : (Value.number (.integer i)).text = (toString i).toList := rfl
    rw [text, cut, kept word]
    exact readFrom_scalar rfl
  | string s =>
    intro stack rest _ hr
    have text : (Value.string s).text = quote (escaped s.toList) := rfl
    rw [text, lexemes_string (spells_escaped _).isBody, textAt_of_spells (spells_escaped _),
      String.ofList_toList]
    exact readFrom_scalar rfl
  | @array room items items_fit ih =>
    rw [text_array]
    refine Reads.array isBlank_nil ?_ ?_ (fun _ => by omega) ?_
    · intro x hx
      obtain ⟨v, -, rfl⟩ := List.mem_map.1 hx
      exact Item.isPadded_compact v
    · intro x hx
      obtain ⟨v, hv, rfl⟩ := List.mem_map.1 hx
      exact (items_fit v hv).isValue
    · rw [List.forall₂_map_left_iff, List.forall₂_same]
      intro v hv
      exact ih v hv (by omega)
  | @object room members members_fit ih =>
    rw [text_object]
    intro stack rest deep _
    refine readFrom_object isBlank_nil ?_ ?_ (fun _ => by omega) ?_ deep rest
    · intro m hm
      obtain ⟨p, -, rfl⟩ := List.mem_map.1 hm
      exact Member.isPadded_compact p
    · intro m hm
      obtain ⟨p, -, rfl⟩ := List.mem_map.1 hm
      exact (spells_escaped p.1.toList).isBody
    · rw [List.forall₂_map_left_iff, List.forall₂_same]
      intro p hp
      refine ⟨fun s t => ?_, ih p hp (by omega)⟩
      exact (textAt_of_spells (spells_escaped _) t).trans (by rw [String.ofList_toList])

end Value.Fits

/-- The text of an object is an object, with the members that are written for its own. -/
theorem isObject_compact {room : Nat} {members : List (String × Value)}
    (h : (Value.object members).Fits room) :
    IsObject (Value.object members).text (members.map .compact) := by
  cases h with
  | object members_fit =>
    refine ⟨?_, [], [], [], isBlank_nil, isBlank_nil, isBlank_nil, ?_⟩
    · intro m hm
      obtain ⟨p, hp, rfl⟩ := List.mem_map.1 hm
      exact ⟨Member.isPadded_compact p, (spells_escaped _).isBody, (members_fit p hp).isValue⟩
    · rw [text_object, List.nil_append, List.append_nil]

/-- **The compact text of a value is read as the value.** -/
theorem parse_compact {v : Value} (h : v.Fits maxDepth) : parse v.compact = .ok v := by
  have read := h.reads (Nat.le_of_eq (Nat.zero_add maxDepth)) [] [] rfl ends_nil
  rw [List.append_nil, lexemes_nil] at read
  rw [parse, Value.compact, String.toList_ofList, readValue, read]
  rfl

end Json
end Playtest
